/-!
# Cutting texts into pieces

A text is cut at the first or at every occurrence of a separator. Occurrences of a longer separator
are found from left to right and do not overlap.

* `joinWith_splitOn`: the pieces joined by the separator are the text again.
-/

namespace ProxyTestbed.Text

/-- The part before the first `sep`, and the part after it if `sep` occurs. -/
def cutAt (sep : Char) : List Char → List Char × Option (List Char)
  | [] => ([], none)
  | c :: r =>
    if c = sep then ([], some r)
    else
      let (before, after) := cutAt sep r
      (c :: before, after)

/-- The pieces between the occurrences of `sep`; always at least one. -/
def splitOn (sep : Char) : List Char → List (List Char)
  | [] => [[]]
  | c :: r =>
    if c = sep then [] :: splitOn sep r
    else
      match splitOn sep r with
      | [] => [[c]]
      | p :: ps => (c :: p) :: ps

/-- The pieces between the arrows `->`; always at least one. -/
def splitArrows : List Char → List (List Char)
  | [] => [[]]
  | '-' :: '>' :: r => [] :: splitArrows r
  | c :: r =>
    match splitArrows r with
    | [] => [[c]]
    | p :: ps => (c :: p) :: ps

/-- The parts before and after the first occurrence of the text `sep`, if it occurs. -/
def cutAtText? (sep : List Char) : List Char → Option (List Char × List Char)
  | [] => if sep.isEmpty then some ([], []) else none
  | c :: r =>
    if sep.isPrefixOf (c :: r) then some ([], (c :: r).drop sep.length)
    else (cutAtText? sep r).map fun (before, after) => (c :: before, after)

/-- The text `part` occurs in `s`. -/
def occursIn (part s : List Char) : Bool :=
  (cutAtText? part s).isSome

/-- The pieces with `sep` between them. -/
def joinWith (sep : List Char) : List (List Char) → List Char
  | [] => []
  | [p] => p
  | p :: q :: ps => p ++ sep ++ joinWith sep (q :: ps)

theorem splitOn_ne_nil (sep : Char) (s : List Char) : splitOn sep s ≠ [] := by
  cases s with
  | nil => simp [splitOn]
  | cons c r => unfold splitOn; split <;> (try split) <;> simp

theorem joinWith_splitOn (sep : Char) (s : List Char) : joinWith [sep] (splitOn sep s) = s := by
  induction s with
  | nil => rfl
  | cons c r ih =>
    unfold splitOn
    split
    · next h =>
      subst h
      cases hs : splitOn c r with
      | nil => exact absurd hs (splitOn_ne_nil c r)
      | cons p ps => rw [hs] at ih; simp [joinWith, ih]
    · cases hs : splitOn sep r with
      | nil => exact absurd hs (splitOn_ne_nil sep r)
      | cons p ps =>
        rw [hs] at ih
        cases ps with
        | nil => simpa [joinWith] using ih
        | cons q qs => simpa [joinWith] using ih

end ProxyTestbed.Text
