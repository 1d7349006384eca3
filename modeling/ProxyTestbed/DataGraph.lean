import ProxyTestbed.Datum

/-!
# Data inside themselves

A sequence or mapping may stand inside itself. Then the data are a graph: all sequences and mappings on the
way back have numbers, and a datum holds marks in their places.

The text of such a datum is that of the datum with all marks replaced by what they stand for. What is being
replaced already is not replaced again, and stays a mark.
-/

namespace ProxyTestbed

/-- Sequences and mappings that stand inside themselves, by their numbers. -/
abbrev Parts := List (Nat × Datum)

/-- A datum, and what its marks stand for. -/
structure DataGraph where
  root : Datum
  parts : Parts

/-- All parts but one. -/
def Parts.without (parts : Parts) (number : Nat) : Parts :=
  parts.filter fun p => p.1 != number

namespace Datum

/-- The datum itself, where there is only a mark. -/
def here (parts : Parts) : Datum → Datum
  | again part => (parts.lookup part.number).getD (again part)
  | d => d

mutual

/-- The datum with its marks replaced. -/
def replace (f : Part → Datum) : Datum → Datum
  | again part => f part
  | list xs => list (replaceAll f xs)
  | tuple xs => tuple (replaceAll f xs)
  | set xs => set (replaceAll f xs)
  | map entries => map (replaceEntries f entries)
  | d => d

def replaceAll (f : Part → Datum) : List Datum → List Datum
  | [] => []
  | x :: xs => replace f x :: replaceAll f xs

def replaceEntries (f : Part → Datum) : List (Datum × Datum) → List (Datum × Datum)
  | [] => []
  | (k, v) :: es => (replace f k, replace f v) :: replaceEntries f es

end

/-- The datum with its marks replaced, of which at most `depth` are inside each other. -/
def wholeTo : Nat → Parts → Datum → Datum
  | 0, _, d => d
  | depth + 1, parts, d =>
    d.replace fun part =>
      (parts.lookup part.number).elim (again part) (wholeTo depth (parts.without part.number))

/-- The datum with its marks replaced, but for those of a part inside itself. -/
def whole (parts : Parts) (d : Datum) : Datum :=
  d.wholeTo parts.length parts

end Datum

end ProxyTestbed
