/-!
# Dictionaries in order of insertion

A dictionary is a list of keys with values in which no key is written twice: `put` replaces the value
of a key that is there and keeps its place, and adds a new key at the end.

* `put_of_not_mem`: a new key is added at the end.
-/

namespace ProxyTestbed

/-- Texts with values, in order of insertion. -/
abbrev Dictionary (α : Type) := List (String × α)

namespace Dictionary

variable {α : Type}

def get? (d : Dictionary α) (key : String) : Option α :=
  (d.find? fun e => e.1 == key).map (·.2)

def put : Dictionary α → String → α → Dictionary α
  | [], key, value => [(key, value)]
  | (k, v) :: d, key, value => if k = key then (k, value) :: d else (k, v) :: put d key value

def erase (d : Dictionary α) (key : String) : Dictionary α :=
  d.filter fun e => e.1 != key

/-- The dictionary with all the pairs put into it, from first to last. -/
def putAll (d : Dictionary α) (pairs : List (String × α)) : Dictionary α :=
  pairs.foldl (fun d e => put d e.1 e.2) d

/-- The dictionary built from pairs, of which the last one with a key counts. -/
def ofPairs (pairs : List (String × α)) : Dictionary α :=
  putAll [] pairs

theorem get?_eq_none_iff {d : Dictionary α} {key : String} : get? d key = none ↔ key ∉ d.map (·.1) := by
  simp only [get?, Option.map_eq_none_iff, List.find?_eq_none, beq_iff_eq, List.mem_map, not_exists, not_and]

theorem put_of_not_mem {d : Dictionary α} {key : String} (h : key ∉ d.map (·.1)) (value : α) :
    put d key value = d ++ [(key, value)] := by
  induction d with
  | nil => rfl
  | cons p d ih =>
    obtain ⟨k, v⟩ := p
    simp only [List.map_cons, List.mem_cons, not_or] at h
    rw [put, if_neg (Ne.symm h.1), ih h.2, List.cons_append]

theorem erase_of_not_mem {d : Dictionary α} {key : String} (h : key ∉ d.map (·.1)) : erase d key = d := by
  refine List.filter_eq_self.mpr fun p hp => ?_
  have hne : p.1 ≠ key := fun he => h (he ▸ List.mem_map_of_mem hp)
  simpa using hne

end Dictionary

end ProxyTestbed
