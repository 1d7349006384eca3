import ProxyTestbed.Proofs.Act.Outcome
import ProxyTestbed.Proofs.Text.Pieces
import ProxyTestbed.Proofs.World.Requests

/-!
# Places that operations on files leave alone

A path leads to at most one place, which its names alone tell. A directory is only made where nothing is; a
file is written, deleted or given another mode at its own place. So what stands at a place is spared by every
operation with a path that leads neither there nor to a place above.

* `FileTree.place_eq_ok`: the place of a path.
* `FileTree.spares_makeDirectory`, `FileTree.spares_write`, `FileTree.spares_setMode`,
  `FileTree.spares_delete`: what single operations spare.
-/

namespace ProxyTestbed

/-! ## Names of a path -/

namespace Path

theorem names_ofString (text : String) : (ofString text).names =
    ((Text.splitOn '/' text.toList).filter fun name => !(name.isEmpty || name == ['.'])).map String.ofList :=
  rfl

/-- A text without a slash is one name. -/
theorem child_of_not_mem {text : String} (hslash : '/' ∉ text.toList) (hempty : text ≠ "") (hdot : text ≠ ".")
    (p : Path) : p.child text = { p with names := p.names ++ [text] } := by
  have hchars : text.toList ≠ [] := fun h => hempty (String.toList_inj.mp h)
  have hname : text.toList ≠ ['.'] := fun h => hdot (String.toList_inj.mp h)
  have hpieces : Text.splitOn '/' text.toList = [text.toList] :=
    Text.splitOn_eq_iff.mpr ⟨by simp, rfl, by simpa using hslash⟩
  have hnames : (ofString text).names = [text] := by
    simp [names_ofString, hpieces, hchars, hname]
  have hanchor : (ofString text).isAbsolute = false := by
    obtain ⟨c, r, hcr⟩ := List.exists_cons_of_ne_nil hchars
    have hc : c ≠ '/' := by
      rintro rfl
      exact hslash (hcr ▸ List.mem_cons_self)
    simp only [ofString, isAbsolute, hcr]
    split <;> simp_all
  simp only [child, join, hanchor, hnames, Bool.false_eq_true, if_false]

end Path

/-! ## The file tree -/

namespace FileTree

variable {t t' : FileTree} {p : Path} {l : Location}

theorem entryAt?_nil (t : FileTree) : t.entryAt? [] = some .directory := rfl

theorem ne_nil_of_entryAt? (h : t.entryAt? l ≠ some .directory) : l ≠ [] := by
  rintro rfl
  exact h t.entryAt?_nil

theorem step_eq_ok {here : Location} {name : String} (h : t.step here name = .ok l) :
    l = if name = ".." then here.dropLast else here ++ [name] := by
  unfold step at h
  split at h
  · cases h
  · cases h
  · split at h
    · cases h
      rw [if_pos ‹_›]
    · split at h
      · cases h
      · cases h
        rw [if_neg ‹_›]

theorem follow_eq_ok {names : List String} {here : Location} (h : t.follow here names = .ok l) :
    l = lead here names := by
  induction names generalizing here with
  | nil =>
    cases h
    rfl
  | cons name names ih =>
    obtain ⟨next, hstep, hrest⟩ := bind_eq_ok_iff.mp h
    rw [ih hrest, step_eq_ok hstep, lead]

/-- A path leads to the place that its names tell. -/
theorem place_eq_ok (h : t.place p = .ok l) : l = lead (t.origin p) p.names := by
  unfold place at h
  split at h
  · cases h
  · exact follow_eq_ok h

theorem lead_append (here : Location) (names more : List String) :
    lead here (names ++ more) = lead (lead here names) more := by
  induction names generalizing here with
  | nil => rfl
  | cons name names ih => exact ih _

theorem look_eq_ok {e : Entry} (h : t.look p = .ok (l, e)) : t.place p = .ok l ∧ t.entryAt? l = some e := by
  obtain ⟨l', hplace, h⟩ := bind_eq_ok_iff.mp h
  cases hentry : t.entryAt? l' with
  | none =>
    rw [hentry] at h
    cases h
  | some e' =>
    rw [hentry] at h
    cases h
    exact ⟨hplace, hentry⟩

/-! ## What is spared -/

/-- From `t` to `t'`, two trees with the home `home`, what stands at the place `l` stays there. -/
def Spares (home l : Location) (t t' : FileTree) : Prop :=
  t.home = home → t'.home = home ∧ ∀ e, t.entryAt? l = some e → t'.entryAt? l = some e

/-- In trees with the home `home`, the path leads neither to the place `l` nor to one above. -/
def Avoids (home l : Location) (p : Path) : Prop :=
  ∀ t : FileTree, t.home = home → ∀ l', t.place p = .ok l' → ¬ l' <+: l

instance {home l : Location} : IsPreorder FileTree (Spares home l) where
  refl _ h := ⟨h, fun _ he => he⟩
  trans _ _ _ h h' hhome :=
    have ⟨hhome, hkept⟩ := h hhome
    have ⟨hhome', hkept'⟩ := h' hhome
    ⟨hhome', fun e he => hkept' e (hkept e he)⟩

variable {home : Location}

theorem spares_set {l' : Location} (hne : l' ≠ []) (h : l ≠ l' ∨ t.entryAt? l' = none) (e : Entry) :
    Spares home l t (t.set l' e) := by
  refine fun hhome => ⟨hhome, fun e' he' => ?_⟩
  rw [entryAt?_set e hne]
  split
  · rename_i heq
    rcases h with h | h
    · exact absurd heq h
    · rw [heq, h] at he'
      cases he'
  · exact he'

/-- A directory is made where nothing is. -/
theorem spares_makeDirectory (h : t.makeDirectory p = .ok t') : Spares home l t t' := by
  obtain ⟨l', -, h⟩ := bind_eq_ok_iff.mp h
  split at h
  · cases h
  · rename_i hentry
    cases h
    have hne : l' ≠ [] := ne_nil_of_entryAt? (t := t) (by simp [hentry])
    exact spares_set hne (.inr hentry) _

theorem Avoids.ne (h : Avoids home l p) (hhome : t.home = home) {l' : Location} (hplace : t.place p = .ok l') :
    l ≠ l' := by
  rintro rfl
  exact h t hhome _ hplace List.prefix_rfl

theorem spares_write {content : Bytes} (hp : Avoids home l p) (h : t.write p content = .ok t') :
    Spares home l t t' := by
  intro hhome
  obtain ⟨l', hplace, h⟩ := bind_eq_ok_iff.mp h
  have hne : l ≠ l' := hp.ne hhome hplace
  split at h
  · cases h
  · rename_i hentry
    cases h
    have hroot : l' ≠ [] := ne_nil_of_entryAt? (t := t) (by simp [hentry])
    exact spares_set hroot (.inl hne) _ hhome
  · rename_i hentry
    cases h
    have hroot : l' ≠ [] := ne_nil_of_entryAt? (t := t) (by simp [hentry])
    exact spares_set hroot (.inl hne) _ hhome

theorem spares_setMode {mode : Nat} (hp : Avoids home l p) (h : t.setMode p mode = .ok t') :
    Spares home l t t' := by
  intro hhome
  obtain ⟨⟨l', e⟩, hlook, h⟩ := bind_eq_ok_iff.mp h
  obtain ⟨hplace, hentry⟩ := look_eq_ok hlook
  cases e with
  | directory =>
    cases h
    exact refl_of (Spares home l) t hhome
  | file content mode' =>
    cases h
    have hroot : l' ≠ [] := ne_nil_of_entryAt? (t := t) (by simp [hentry])
    exact spares_set hroot (.inl (hp.ne hhome hplace)) _ hhome

/-- A deletion empties the places below as well, so it matters that the path does not lead above `l`. -/
theorem spares_delete (hp : Avoids home l p) (h : t.delete p = .ok t') : Spares home l t t' := by
  intro hhome
  obtain ⟨⟨l', e⟩, hlook, h⟩ := bind_eq_ok_iff.mp h
  obtain ⟨hplace, hentry⟩ := look_eq_ok hlook
  cases e with
  | directory => cases h
  | file content mode =>
    cases h
    refine ⟨hhome, fun e he => ?_⟩
    by_cases hroot : l = []
    · rw [hroot] at he ⊢
      exact he
    · have hbeside : l'.isPrefixOf l = false := by
        rw [← Bool.not_eq_true, List.isPrefixOf_iff_prefix]
        exact hp t hhome l' hplace
      rw [entryAt?_deleteBelow hroot, hbeside]
      exact he

end FileTree

/-! ## Acts on files -/

/-- The files of the worlds spare the place `l`. -/
def SparesFile {σ τ : Type} (home l : Location) (w w' : World σ τ) : Prop :=
  FileTree.Spares home l w.files w'.files

namespace Files

variable {σ τ : Type} {home l : Location} {p : Path}

instance : IsPreorder (World σ τ) (SparesFile home l) where
  refl w := refl_of (FileTree.Spares home l) w.files
  trans _ _ _ h h' := trans_of (FileTree.Spares home l) h h'

theorem sparesFile_of_files_eq {w w' : World σ τ} (h : w'.files = w.files) : SparesFile home l w w' := by
  unfold SparesFile
  rw [h]
  exact refl_of (FileTree.Spares home l) w.files

theorem keeps_change_spares {shown : String} {f : FileTree → Except FileProblem FileTree}
    (hf : ∀ t t', f t = .ok t' → FileTree.Spares home l t t') :
    Keeps (SparesFile home l) (change shown f : Act σ τ Unit) := by
  refine fun w => (after_change_files shown f w).mono ?_
  rintro r w' (⟨t, h, _, rfl⟩ | ⟨_, _, _, rfl⟩)
  · exact hf _ _ h
  · exact refl_of (SparesFile home l) w'

variable [Host σ τ]

theorem keeps_ask_spares (r : Request τ) : Keeps (SparesFile home l) (ask r : Act σ τ r.Answer) :=
  fun w => (after_ask r w).mono fun _ _ h => sparesFile_of_files_eq h.2.1

theorem keeps_makeDirectories_spares (existing : Bool) (path : Path) :
    Keeps (SparesFile home l) (makeDirectories existing path : Act σ τ Unit) := by
  have hmake (path : Path) : Keeps (SparesFile home l) (makeDirectory path : Act σ τ Unit) :=
    (keeps_ask_spares _).bind fun _ => keeps_change_spares fun _ _ => FileTree.spares_makeDirectory
  exact keeps_makeDirectories_of (fun _ _ => hmake _) existing

theorem keeps_write_spares (hp : FileTree.Avoids home l p) (content : Bytes) :
    Keeps (SparesFile home l) (write p content : Act σ τ Unit) :=
  (keeps_ask_spares _).bind fun _ => keeps_change_spares fun _ _ => FileTree.spares_write hp

theorem keeps_setMode_spares (hp : FileTree.Avoids home l p) (mode : Nat) :
    Keeps (SparesFile home l) (setMode p mode : Act σ τ Unit) :=
  (keeps_ask_spares _).bind fun _ => keeps_change_spares fun _ _ => FileTree.spares_setMode hp

theorem keeps_discard_spares (hp : FileTree.Avoids home l p) :
    Keeps (SparesFile home l) (discard p : Act σ τ Unit) :=
  keeps_discard (keeps_ask_spares _) (keeps_change_spares fun _ _ => FileTree.spares_delete hp)

end Files

end ProxyTestbed
