import Mathlib.Data.List.DropRight
import ProxyTestbed.Text.Blank

/-!
# Trimmed texts

What trimming leaves of a text, and which texts it leaves alone. Blanks are looked for at the two ends
separately, since a path may begin with one and must not end with one.

* `trim_eq_self`: a text without blanks at its ends is left alone.
* `trimmed_trim`: a trimmed text has no blank at either end.
* `trim_within`: a trimmed text stands in the text.
-/

namespace ProxyTestbed.Text

/-- The text does not begin with a blank. -/
def NoBlankFirst (s : List Char) : Prop :=
  ∀ c, s.head? = some c → isBlank c = false

/-- The text does not end with a blank. -/
def NoBlankLast (s : List Char) : Prop :=
  ∀ c, s.getLast? = some c → isBlank c = false

/-- The text neither begins nor ends with a blank. -/
structure Trimmed (s : List Char) : Prop where
  first : NoBlankFirst s
  last : NoBlankLast s

instance (s : List Char) : Decidable (NoBlankFirst s) :=
  decidable_of_iff (s.head?.all fun c => !isBlank c) (by cases h : s.head? <;> simp [NoBlankFirst, h])

instance (s : List Char) : Decidable (NoBlankLast s) :=
  decidable_of_iff (s.getLast?.all fun c => !isBlank c) (by cases h : s.getLast? <;> simp [NoBlankLast, h])

instance (s : List Char) : Decidable (Trimmed s) :=
  decidable_of_iff (NoBlankFirst s ∧ NoBlankLast s) ⟨fun h => ⟨h.1, h.2⟩, fun h => ⟨h.first, h.last⟩⟩

theorem trimmed_nil : Trimmed [] := by
  constructor <;> simp [NoBlankFirst, NoBlankLast]

theorem NoBlankFirst.append {s : List Char} (h : NoBlankFirst s) (hs : s ≠ []) (t : List Char) :
    NoBlankFirst (s ++ t) := by
  intro c hc
  rw [List.head?_append_of_ne_nil s hs] at hc
  exact h c hc

theorem NoBlankLast.append {t : List Char} (h : NoBlankLast t) (ht : t ≠ []) (s : List Char) :
    NoBlankLast (s ++ t) := by
  intro c hc
  rw [List.getLast?_append_of_ne_nil s ht] at hc
  exact h c hc

theorem NoBlankLast.cons {s : List Char} (h : NoBlankLast s) {c : Char} (hc : isBlank c = false) :
    NoBlankLast (c :: s) := by
  cases s with
  | nil => simpa [NoBlankLast] using hc
  | cons d s => exact h.append (List.cons_ne_nil d s) [c]

theorem NoBlankFirst.of_begins {s t : List Char} (h : NoBlankFirst t) (hst : s <+: t) : NoBlankFirst s := by
  obtain ⟨r, rfl⟩ := hst
  intro c hc
  exact h c (by simp [List.head?_append, hc])

theorem NoBlankLast.of_ends {s t : List Char} (h : NoBlankLast t) (hst : s <:+ t) : NoBlankLast s := by
  obtain ⟨r, rfl⟩ := hst
  intro c hc
  exact h c (by simp [List.getLast?_append, hc])

/-- Without any blank there is none at the end. -/
theorem noBlankLast_of_forall {s : List Char} (h : ∀ c ∈ s, isBlank c = false) : NoBlankLast s :=
  fun c hc => h c (List.mem_of_getLast? hc)

/-! ## What trimming does -/

theorem trimEnd_cons (c : Char) (r : List Char) :
    trimEnd (c :: r) = if trimEnd r = [] ∧ isBlank c = true then [] else c :: trimEnd r := by
  rw [trimEnd]
  cases trimEnd r with
  | nil => simp
  | cons d ds => simp

theorem trimEnd_concat (s : List Char) (c : Char) :
    trimEnd (s ++ [c]) = if isBlank c then trimEnd s else s ++ [c] := by
  induction s with
  | nil => simp [trimEnd]
  | cons d s ih =>
    rw [List.cons_append, trimEnd_cons, ih]
    cases h : isBlank c with
    | true => simp [trimEnd_cons]
    | false => simp

/-- Trimming the right end by recursion from the left is dropping from the right. -/
theorem trimEnd_eq_rdropWhile (s : List Char) : trimEnd s = s.rdropWhile isBlank := by
  induction s using List.reverseRecOn with
  | nil => rfl
  | append_singleton s c ih => rw [trimEnd_concat, List.rdropWhile_concat, ih]

theorem trimStart_eq_self {s : List Char} (h : NoBlankFirst s) : trimStart s = s := by
  cases s with
  | nil => rfl
  | cons c s => rw [trimStart, List.dropWhile_cons, h c rfl]; simp

theorem trimEnd_eq_self {s : List Char} (h : NoBlankLast s) : trimEnd s = s := by
  rw [trimEnd_eq_rdropWhile, List.rdropWhile_eq_self_iff]
  intro hs
  simp [h _ (List.getLast?_eq_some_getLast hs)]

/-- A text without blanks at its ends is left alone. -/
theorem trim_eq_self {s : List Char} (h : Trimmed s) : trim s = s := by
  rw [trim, trimStart_eq_self h.first, trimEnd_eq_self h.last]

theorem trim_cons_blank {c : Char} (hc : isBlank c = true) (s : List Char) : trim (c :: s) = trim s := by
  rw [trim, trimStart, List.dropWhile_cons, if_pos hc]
  rfl

theorem trim_concat_blank {c : Char} (hc : isBlank c = true) (s : List Char) : trim (s ++ [c]) = trim s := by
  unfold trim trimStart
  rw [List.dropWhile_append]
  split
  · next h =>
    rw [List.isEmpty_iff] at h
    simp [h, hc]
  · rw [trimEnd_concat, if_pos hc]

/-! ## What trimming leaves -/

theorem noBlankFirst_trimStart (s : List Char) : NoBlankFirst (trimStart s) := by
  intro c hc
  have h := List.head?_dropWhile_not isBlank s
  rw [trimStart] at hc
  rwa [hc] at h

theorem trimEnd_begins (s : List Char) : trimEnd s <+: s := by
  rw [trimEnd_eq_rdropWhile]
  exact List.rdropWhile_prefix isBlank s

theorem noBlankLast_trimEnd (s : List Char) : NoBlankLast (trimEnd s) := by
  intro c hc
  rw [trimEnd_eq_rdropWhile] at hc
  have hne : s.rdropWhile isBlank ≠ [] := by
    intro h
    simp [h] at hc
  rw [List.getLast?_eq_some_getLast hne] at hc
  cases hc
  simpa using List.rdropWhile_last_not isBlank s hne

/-- A trimmed text has no blank at either end. -/
theorem trimmed_trim (s : List Char) : Trimmed (trim s) :=
  ⟨(noBlankFirst_trimStart s).of_begins (trimEnd_begins _), noBlankLast_trimEnd _⟩

/-- A trimmed text stands in the text. -/
theorem trim_within (s : List Char) : trim s <:+: s :=
  (trimEnd_begins _).isInfix.trans (List.dropWhile_suffix isBlank).isInfix

/-! ## Dropping every blank -/

theorem dropBlanks_append (s t : List Char) : dropBlanks (s ++ t) = dropBlanks s ++ dropBlanks t :=
  List.filter_append s t

theorem isBlank_of_mem_dropBlanks {s : List Char} {c : Char} (h : c ∈ dropBlanks s) : isBlank c = false := by
  simpa using (List.mem_filter.mp h).2

/-- A text without blanks is left alone. -/
theorem dropBlanks_eq_self {s : List Char} (h : ∀ c ∈ s, isBlank c = false) : dropBlanks s = s := by
  rw [dropBlanks, List.filter_eq_self]
  intro c hc
  simp [h c hc]

end ProxyTestbed.Text
