import ProxyTestbed.Fleet
import ProxyTestbed.Proofs.Environment.Use

/-!
# The registry of live environments

`tenants n es` is the registry in which exactly the live ones of the environments `es` stand, each with its
number, the first of which is `n`.

* `tenants_set_alike`, `tenants_set_dead`, `tenants_append`: what becomes of it when an environment is used,
  is released, or is new.
-/

namespace ProxyTestbed

namespace Fleet

variable {τ : Type} [Seconds τ]

/-! ## Environments by their ids -/

theorem ids_set {n : Nat} {es : List (Environment τ)} {e e' : Environment τ} (h : es[n]? = some e)
    (hid : e'.id = e.id) : (es.set n e').map (·.id) = es.map (·.id) := by
  refine List.ext_getElem? fun m => ?_
  rw [List.getElem?_map, List.getElem?_map, List.getElem?_set]
  split
  · rename_i hm
    obtain ⟨hn, -⟩ := List.getElem?_eq_some_iff.mp h
    rw [if_pos hn, ← hm, h, Option.map_some, Option.map_some, hid]
  · rfl

omit [Seconds τ] in
theorem getElem?_set_cases {α : Type} {n m : Nat} {xs : List α} {y x : α} (h : (xs.set n y)[m]? = some x) :
    (n = m ∧ x = y) ∨ xs[m]? = some x := by
  rw [List.getElem?_set] at h
  split at h
  · rename_i hm
    split at h
    · exact .inl ⟨hm, (Option.some.inj h).symm⟩
    · cases h
  · exact .inr h

/-- After one environment is replaced, the others are those with another id. -/
theorem mem_set_of_distinct {n : Nat} {es : List (Environment τ)} {e e' x : Environment τ}
    (hids : (es.map (·.id)).Nodup) (h : es[n]? = some e) (hx : x ∈ es.set n e') :
    x = e' ∨ (x ∈ es ∧ x.id ≠ e.id) := by
  obtain ⟨m, hm⟩ := List.mem_iff_getElem?.mp hx
  rw [List.getElem?_set] at hm
  split at hm
  · split at hm
    · exact .inl (Option.some.inj hm).symm
    · cases hm
  · rename_i hne
    refine .inr ⟨List.mem_of_getElem? hm, fun hid => hne ?_⟩
    have hn : n < (es.map (·.id)).length := by
      obtain ⟨hn, -⟩ := List.getElem?_eq_some_iff.mp h
      simpa using hn
    refine (List.getElem?_inj hn hids).mp ?_
    rw [List.getElem?_map, List.getElem?_map, h, hm, Option.map_some, Option.map_some, hid]

/-! ## The registry -/

/-- The live ones of the environments, by their ids, with their numbers from `n` on. -/
def tenants (n : Nat) : List (Environment τ) → Registry
  | [] => []
  | e :: es => if e.isLive then (e.id, .environment n) :: tenants (n + 1) es else tenants (n + 1) es

theorem keys_tenants (n : Nat) (es : List (Environment τ)) :
    (tenants n es).map (·.1) = (es.filter (·.isLive)).map (·.id) := by
  induction es generalizing n with
  | nil => rfl
  | cons e es ih =>
    cases h : e.isLive with
    | true => simp [tenants, h, ih]
    | false => simp [tenants, h, ih]

theorem keys_tenants_subset (n : Nat) (es : List (Environment τ)) {id : String}
    (h : id ∈ (tenants n es).map (·.1)) : id ∈ es.map (·.id) := by
  rw [keys_tenants] at h
  obtain ⟨e, he, rfl⟩ := List.mem_map.mp h
  exact List.mem_map_of_mem (List.mem_filter.mp he).1

theorem exists_of_mem_tenants {n : Nat} {es : List (Environment τ)} {p : String × Tenant}
    (h : p ∈ tenants n es) :
    ∃ k e, es[k]? = some e ∧ e.isLive = true ∧ p = (e.id, .environment (n + k)) := by
  induction es generalizing n with
  | nil => cases h
  | cons e es ih =>
    have hrest (h : p ∈ tenants (n + 1) es) :
        ∃ k e', (e :: es)[k]? = some e' ∧ e'.isLive = true ∧ p = (e'.id, .environment (n + k)) := by
      obtain ⟨k, e', hk, hlive, rfl⟩ := ih h
      exact ⟨k + 1, e', hk, hlive, by rw [Nat.add_assoc, Nat.add_comm 1 k]⟩
    cases hlive : e.isLive with
    | true =>
      rw [tenants, if_pos hlive] at h
      rcases List.mem_cons.mp h with rfl | h
      · exact ⟨0, e, rfl, hlive, rfl⟩
      · exact hrest h
    | false =>
      rw [tenants, if_neg (by simp [hlive])] at h
      exact hrest h

theorem mem_tenants {n k : Nat} {es : List (Environment τ)} {e : Environment τ} (h : es[k]? = some e)
    (hlive : e.isLive = true) : (e.id, .environment (n + k)) ∈ tenants n es := by
  induction es generalizing n k with
  | nil => cases h
  | cons e' es ih =>
    cases k with
    | zero =>
      cases h
      rw [tenants, if_pos hlive]
      exact List.mem_cons_self
    | succ k =>
      have hk : (e.id, Tenant.environment (n + (k + 1))) ∈ tenants (n + 1) es := by
        have h' := ih (n := n + 1) (k := k) h
        rwa [Nat.add_assoc, Nat.add_comm 1 k] at h'
      rw [tenants]
      split
      · exact List.mem_cons_of_mem _ hk
      · exact hk

theorem tenants_append (n : Nat) (es : List (Environment τ)) {e : Environment τ} (h : e.isLive = true) :
    tenants n (es ++ [e]) = tenants n es ++ [(e.id, .environment (n + es.length))] := by
  induction es generalizing n with
  | nil => simp [tenants, h]
  | cons e' es ih =>
    rw [List.cons_append, tenants, tenants, ih, List.length_cons, Nat.add_assoc, Nat.add_comm 1]
    split
    · rfl
    · rfl

theorem tenants_set_alike {n k : Nat} {es : List (Environment τ)} {e e' : Environment τ}
    (h : es[k]? = some e) (hid : e'.id = e.id) (hlive : e'.isLive = e.isLive) :
    tenants n (es.set k e') = tenants n es := by
  induction es generalizing n k with
  | nil => rfl
  | cons e₀ es ih =>
    cases k with
    | zero =>
      cases h
      rw [List.set_cons_zero, tenants, tenants, hid, hlive]
    | succ k =>
      rw [List.set_cons_succ, tenants, tenants, ih h]

theorem tenants_set_dead {n k : Nat} {es : List (Environment τ)} {e e' : Environment τ}
    (hids : (es.map (·.id)).Nodup) (h : es[k]? = some e) (hdead : e'.isLive = false) :
    tenants n (es.set k e') = (tenants n es).erase e.id := by
  induction es generalizing n k with
  | nil => rfl
  | cons e₀ es ih =>
    have hnew : e₀.id ∉ es.map (·.id) := (List.nodup_cons.mp hids).1
    have hids : (es.map (·.id)).Nodup := (List.nodup_cons.mp hids).2
    cases k with
    | zero =>
      cases h
      have habsent : e.id ∉ (tenants (n + 1) es).map (·.1) :=
        fun hmem => hnew (keys_tenants_subset (n + 1) es hmem)
      rw [List.set_cons_zero, tenants, if_neg (by simp [hdead]), tenants]
      split
      · rw [Dictionary.erase, List.filter_cons_of_neg (by simp)]
        exact (Dictionary.erase_of_not_mem habsent).symm
      · exact (Dictionary.erase_of_not_mem habsent).symm
    | succ k =>
      have hmem : e.id ∈ es.map (·.id) := List.mem_map_of_mem (List.mem_of_getElem? h)
      have hne : e₀.id ≠ e.id := by
        intro he
        rw [he] at hnew
        exact hnew hmem
      rw [List.set_cons_succ, tenants, tenants, ih hids h]
      split
      · rw [Dictionary.erase, Dictionary.erase, List.filter_cons_of_pos (by simpa using hne)]
      · rfl

end Fleet

end ProxyTestbed
