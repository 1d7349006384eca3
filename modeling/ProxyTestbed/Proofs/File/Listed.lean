import ProxyTestbed.Proofs.Declaration.Variables
import ProxyTestbed.Proofs.File.Grown

/-!
# Names in a directory

A tree gives a place once, so the names in a directory come once each, in the order of their code points.

* `Distinct.makeDirectory`, `Distinct.write`, ...: no operation gives a place twice.
* `exists_list`: the names in a directory are those of what stands in it.
-/

namespace ProxyTestbed.FileTree

variable {t : FileTree} {l : Location} {p : Path}

/-! ## Places that are given once -/

/-- No place is given twice. -/
def Distinct (t : FileTree) : Prop :=
  (t.entries.map (·.1)).Nodup

instance (t : FileTree) : Decidable t.Distinct :=
  inferInstanceAs (Decidable (List.Nodup _))

theorem Distinct.set (h : t.Distinct) (l : Location) (e : Entry) : (t.set l e).Distinct := by
  unfold Distinct FileTree.set
  rw [List.map_cons, List.nodup_cons]
  refine ⟨?_, h.sublist (List.filter_sublist.map _)⟩
  simp only [List.mem_map, List.mem_filter, bne_iff_ne, not_exists, not_and]
  exact fun x hx heq => hx.2 heq

theorem Distinct.deleteBelow (h : t.Distinct) (l : Location) : (t.deleteBelow l).Distinct :=
  h.sublist (List.filter_sublist.map _)

section

variable {t' : FileTree}

theorem Distinct.makeDirectory (h : t.Distinct) (hmake : t.makeDirectory p = .ok t') : t'.Distinct := by
  obtain ⟨l, _, _, _, rfl⟩ := makeDirectory_eq_ok hmake
  exact h.set l .directory

theorem Distinct.write (h : t.Distinct) {content : Bytes} (hwrite : t.write p content = .ok t') : t'.Distinct := by
  obtain ⟨l, mode, _, _, _, rfl⟩ := write_eq_ok hwrite
  exact h.set l (.file content mode)

theorem Distinct.setMode (h : t.Distinct) {mode : Nat} (hset : t.setMode p mode = .ok t') : t'.Distinct := by
  obtain ⟨⟨l, e⟩, _, hset⟩ := bind_eq_ok_iff.mp hset
  cases e with
  | directory =>
    cases hset
    exact h
  | file content _ =>
    cases hset
    exact h.set l (.file content mode)

theorem Distinct.delete (h : t.Distinct) (hdelete : t.delete p = .ok t') : t'.Distinct := by
  obtain ⟨⟨l, e⟩, _, hdelete⟩ := bind_eq_ok_iff.mp hdelete
  cases e with
  | directory => cases hdelete
  | file content _ =>
    cases hdelete
    exact h.deleteBelow l

theorem Distinct.deleteDirectory (h : t.Distinct) (hdelete : t.deleteDirectory p = .ok t') : t'.Distinct := by
  obtain ⟨⟨l, e⟩, _, hdelete⟩ := bind_eq_ok_iff.mp hdelete
  cases e with
  | directory =>
    cases hdelete
    exact h.deleteBelow l
  | file content _ => cases hdelete

end

/-! ## What stands in a directory -/

theorem exists_entryAt?_iff (hl : l ≠ []) : (∃ e, t.entryAt? l = some e) ↔ l ∈ t.entries.map (·.1) := by
  rw [← Option.isSome_iff_exists, entryAt?, if_neg hl, Option.isSome_map, List.find?_isSome, List.mem_map]
  simp only [beq_iff_eq]

/-- The last name of a place in the directory `l`. -/
def nameIn? (l : Location) (e : Location × Entry) : Option String :=
  if e.1.dropLast = l then e.1.getLast? else none

theorem nameIn?_eq_some_iff {e : Location × Entry} {name : String} : nameIn? l e = some name ↔ e.1 = l ++ [name] := by
  unfold nameIn?
  split
  · rename_i hl
    constructor
    · intro h
      rw [← hl, List.dropLast_append_getLast? name h]
    · rintro h
      rw [h, List.getLast?_concat]
  · rename_i hl
    refine iff_of_false (by simp) fun h => hl ?_
    rw [h, List.dropLast_concat]

theorem mem_filterMap_nameIn?_iff {name : String} :
    name ∈ t.entries.filterMap (nameIn? l) ↔ ∃ e, t.entryAt? (l ++ [name]) = some e := by
  rw [exists_entryAt?_iff (by simp), List.mem_filterMap, List.mem_map]
  simp only [nameIn?_eq_some_iff]

/-- A place is told by the directory that it is in and by its last name. -/
theorem Distinct.nodup_names (h : t.Distinct) (l : Location) : (t.entries.filterMap (nameIn? l)).Nodup := by
  refine (List.pairwise_map.mp h).filterMap _ ?_
  rintro e e' hne name hname _ hname' rfl
  rw [nameIn?_eq_some_iff] at hname hname'
  exact hne (hname.trans hname'.symm)

/-- A directory is listed: what stands in it, once each, in the order of the names. -/
theorem exists_list (h : t.Distinct) (hdirectory : t.hasDirectory p = true) : ∃ l names,
    t.look p = .ok (l, .directory) ∧ t.list p = .ok names ∧ names.Pairwise (· < ·) ∧
      ∀ name, name ∈ names ↔ ∃ e, t.entryAt? (l ++ [name]) = some e := by
  obtain ⟨l, hplace, hentry⟩ := hasDirectory_iff.mp hdirectory
  have hlook : t.look p = .ok (l, .directory) := look_of_entry hplace hentry
  refine ⟨l, (t.entries.filterMap (nameIn? l)).mergeSort fun a b => !decide (b < a), hlook, ?_, ?_,
    fun name => List.mem_mergeSort.trans mem_filterMap_nameIn?_iff⟩
  · unfold list
    rw [hlook]
    rfl
  · have hnodup : ((t.entries.filterMap (nameIn? l)).map id).Nodup := by
      rw [List.map_id]
      exact h.nodup_names l
    exact pairwise_lt_mergeSort hnodup

end ProxyTestbed.FileTree
