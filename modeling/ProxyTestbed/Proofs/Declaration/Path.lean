import ProxyTestbed.Declaration.VirtualHost
import ProxyTestbed.Proofs.Text.Blank
import ProxyTestbed.Proofs.Text.Pieces

/-!
# Paths in declarations

A path is written with a slash at its front, and not at all if it is empty.

* `toList_rooted`: the text of a written path, by what stands after its slash.
* `namedPath_eq`: the path that is read back.
-/

namespace ProxyTestbed.VirtualHost

open Text

/-- The path that a written path names: with a slash at its front, and none for an empty one. -/
def namedPath (path : Option String) : Option String :=
  match path with
  | none => none
  | some p =>
    if p = "" then none
    else if p.toList.head? = some '/' then some p
    else some ("/" ++ p)

/-- What stands after the slash of a written path, if one is written. -/
def afterSlash? (path : Option String) : Option (List Char) :=
  path.bind fun p =>
    match p.toList with
    | [] => none
    | c :: r => if c = '/' then some r else some (c :: r)

theorem toList_rooted (path : Option String) : (rooted path).toList = behind '/' (afterSlash? path) := by
  cases path with
  | none => rfl
  | some p =>
    rw [rooted, afterSlash?, Option.bind_some]
    cases hp : p.toList with
    | nil => rfl
    | cons c r => by_cases hc : c = '/' <;> simp [hc, hp, behind]

theorem namedPath_eq (path : Option String) :
    namedPath path = (afterSlash? path).map fun r => String.ofList ('/' :: r) := by
  cases path with
  | none => rfl
  | some p =>
    obtain ⟨s, rfl⟩ : ∃ s, p = String.ofList s := ⟨p.toList, by simp⟩
    rw [namedPath, afterSlash?, Option.bind_some]
    cases s with
    | nil => rfl
    | cons c r =>
      by_cases hc : c = '/' <;> simp [hc, ← String.toList_inj]

/-- A path that is read has its slash. -/
theorem afterSlash?_map (rest : Option (List Char)) :
    afterSlash? (rest.map fun r => String.ofList ('/' :: r)) = rest := by
  cases rest with
  | none => rfl
  | some r => simp [afterSlash?]

/-- What stands after the slash is the end of the path. -/
theorem afterSlash?_ends {path : Option String} {r : List Char} (h : afterSlash? path = some r) :
    ∃ p, path = some p ∧ r <:+ p.toList := by
  cases path with
  | none => cases h
  | some p =>
    refine ⟨p, rfl, ?_⟩
    rw [afterSlash?, Option.bind_some] at h
    split at h
    · cases h
    · next hp =>
      rw [hp]
      split at h
      · cases h
        exact List.suffix_cons ..
      · cases h
        exact List.suffix_rfl

end ProxyTestbed.VirtualHost
