import Mathlib
import ProxyTestbed.Proofs.Certificate.Hostname

/-!
# The grammar of host names

A host name is one or more labels joined by single dots, after `*.` or not. The check that splits a text at its
dots, and the regular expression of host names, accept the texts of this grammar; both accept a line feed behind
them too.

* `isName_iff`: the check and the grammar.
* `mem_pattern_iff`: the regular expression and the grammar.
* `isAccepted_iff`: the names that certificates are issued for.
-/

namespace ProxyTestbed

namespace Hostname

/-! ## The grammar -/

/-- A label: 1 to 63 letters, digits and hyphens of ASCII, without a hyphen at either end. -/
structure Label (s : List Char) : Prop where
  ne_nil : s ≠ []
  length_le : s.length ≤ 63
  chars : ∀ c ∈ s, c.isAlphanum = true ∨ c = '-'
  first : s.head? ≠ some '-'
  last : s.getLast? ≠ some '-'

/-- One or more labels joined by single dots. -/
inductive Labels : List Char → Prop
  | last {s : List Char} (h : Label s) : Labels s
  | more {s r : List Char} (h : Label s) (hr : Labels r) : Labels (s ++ '.' :: r)

/-- Labels, after a wildcard or not. -/
inductive Name : List Char → Prop
  | plain {s : List Char} (h : Labels s) : Name s
  | wildcard {s : List Char} (h : Labels s) : Name ('*' :: '.' :: s)

variable {s r : List Char} {c : Char} {name : String}

theorem Label.not_mem_dot (h : Label s) : '.' ∉ s :=
  fun hdot => absurd (h.chars '.' hdot) (by decide)

/-! ## The check -/

theorem isAlnum_eq (c : Char) : isAlnum c = c.isAlphanum := by
  rw [Bool.eq_iff_iff]
  simp only [isAlnum, Char.isAlphanum, Char.isAlpha, Char.isUpper, Char.isLower, Char.isDigit, Bool.or_eq_true,
    Bool.and_eq_true, decide_eq_true_eq]
  rw [or_comm (a := 'a' ≤ c ∧ c ≤ 'z')]
  rfl

/-- The first and the last character of a label are letters or digits. -/
theorem any_isAlnum_iff (hchars : ∀ c ∈ s, c.isAlphanum = true ∨ c = '-') {end? : Option Char}
    (hend : ∀ c, end? = some c → c ∈ s) : end?.any isAlnum = true ↔ end? ≠ none ∧ end? ≠ some '-' := by
  cases end? with
  | none => simp
  | some c =>
    have hc := hchars c (hend c rfl)
    simp only [Option.any_some, isAlnum_eq]
    constructor
    · rintro halnum
      refine ⟨nofun, ?_⟩
      rintro ⟨⟩
      cases halnum
    · rintro ⟨-, hne⟩
      exact hc.resolve_right fun heq => hne (congrArg some heq)

theorem isLabel_iff : isLabel s = true ↔ Label s := by
  have hall : s.all (fun c => isAlnum c || c == '-') = true ↔ ∀ c ∈ s, c.isAlphanum = true ∨ c = '-' := by
    simp only [List.all_eq_true, Bool.or_eq_true, isAlnum_eq, beq_iff_eq]
  rw [isLabel, Bool.and_eq_true, Bool.and_eq_true, Bool.and_eq_true, decide_eq_true_eq, hall]
  constructor
  · rintro ⟨⟨⟨hlength, hchars⟩, hfirst⟩, hlast⟩
    rw [any_isAlnum_iff hchars fun c => List.mem_of_head?] at hfirst
    rw [any_isAlnum_iff hchars fun c => List.mem_of_getLast?] at hlast
    exact ⟨fun hnil => hfirst.1 (by rw [hnil]; rfl), hlength, hchars, hfirst.2, hlast.2⟩
  · rintro ⟨hne, hlength, hchars, hfirst, hlast⟩
    refine ⟨⟨⟨hlength, hchars⟩, ?_⟩, ?_⟩
    · rw [any_isAlnum_iff hchars fun c => List.mem_of_head?]
      exact ⟨by simpa using hne, hfirst⟩
    · rw [any_isAlnum_iff hchars fun c => List.mem_of_getLast?]
      exact ⟨by simpa using hne, hlast⟩

theorem isLabels_iff : isLabels s = true ↔ Labels s := by
  simp only [isLabels, List.all_eq_true, isLabel_iff]
  constructor
  · intro h
    rw [← Text.joinWith_splitOn '.' s]
    have hne := Text.splitOn_ne_nil '.' s
    generalize Text.splitOn '.' s = pieces at h hne
    induction pieces with
    | nil => exact absurd rfl hne
    | cons p pieces ih =>
      obtain ⟨hp, hpieces⟩ := List.forall_mem_cons.mp h
      cases pieces with
      | nil => exact .last hp
      | cons q pieces => simpa [Text.joinWith] using .more hp (ih hpieces (by simp))
  · intro h
    induction h with
    | @last s h =>
      have hsplit : Text.splitOn '.' s = [s] := Text.splitOn_of_not_mem h.not_mem_dot
      simpa [hsplit] using h
    | @more s r h _ ih =>
      rw [Text.splitOn_append_cons, Text.splitOn_of_not_mem h.not_mem_dot, List.singleton_append]
      exact List.forall_mem_cons.mpr ⟨h, ih⟩

theorem isName_iff : isName s = true ↔ Name s := by
  simp only [isName, Bool.or_eq_true, isLabels_iff]
  constructor
  · rintro (h | h)
    · exact .plain h
    · split at h
      · exact .wildcard (isLabels_iff.mp h)
      · cases h
  · rintro (h | h)
    · exact .inl h
    · exact .inr (isLabels_iff.mpr h)

/-! ## The regular expression -/

/-- One of some characters. -/
def oneOf : List Char → RegularExpression Char
  | [] => 0
  | c :: cs => .char c + oneOf cs

/-- What the expression matches, or nothing. -/
def optional (p : RegularExpression Char) : RegularExpression Char :=
  1 + p

/-- At most `n` times what the expression matches. -/
def upTo (p : RegularExpression Char) : Nat → RegularExpression Char
  | 0 => 1
  | n + 1 => optional (p * upTo p n)

/-- The letters and digits of ASCII. -/
def alnumChars : List Char :=
  "ABCDEFGHIJKLMNOPQRSTUVWXYZabcdefghijklmnopqrstuvwxyz0123456789".toList

/-- A label, as `[A-Za-z0-9]([A-Za-z0-9-]{0,61}[A-Za-z0-9])?`. -/
def labelPattern : RegularExpression Char :=
  oneOf alnumChars * optional (upTo (oneOf ('-' :: alnumChars)) 61 * oneOf alnumChars)

/-- Labels, as `(label)(\.label)*`. -/
def labelsPattern : RegularExpression Char :=
  labelPattern * (.char '.' * labelPattern).star

/-- Labels after a wildcard or not, as `(\*\.)?(label)(\.label)*`. -/
def pattern : RegularExpression Char :=
  optional (.char '*' * .char '.') * labelsPattern

/-- The end of a text, or the line feed that it ends with. -/
def lineEnd : RegularExpression Char :=
  optional (.char '\n')

theorem mem_alnumChars_iff : c ∈ alnumChars ↔ c.isAlphanum = true := by
  have hall : ∀ n < 128, (Char.ofNat n).isAlphanum = true → Char.ofNat n ∈ alnumChars := by decide +kernel
  have hmem : alnumChars.all Char.isAlphanum = true := by decide
  refine ⟨List.all_eq_true.mp hmem c, fun h => ?_⟩
  have hlt : c.toNat < 128 := by
    simp only [Char.isAlphanum, Char.isAlpha, Char.isUpper, Char.isLower, Char.isDigit, Bool.or_eq_true,
      Bool.and_eq_true, decide_eq_true_eq, UInt32.le_iff_toNat_le] at h
    have hsmall : c.toNat ≤ 122 := by
      rcases h with (⟨-, h⟩ | ⟨-, h⟩) | ⟨-, h⟩
      · exact h.trans (by decide)
      · exact h.trans (by decide)
      · exact h.trans (by decide)
    omega
  rw [← Char.ofNat_toNat c] at h ⊢
  exact hall _ hlt h

theorem mem_char_iff : s ∈ (RegularExpression.char c).matches' ↔ s = [c] :=
  Iff.rfl

theorem mem_mul_iff {p q : RegularExpression Char} :
    s ∈ (p * q).matches' ↔ ∃ a ∈ p.matches', ∃ b ∈ q.matches', a ++ b = s := by
  rw [RegularExpression.matches'_mul, Language.mem_mul]

theorem mem_oneOf_iff {cs : List Char} : s ∈ (oneOf cs).matches' ↔ ∃ c ∈ cs, s = [c] := by
  induction cs with
  | nil => simp [oneOf, RegularExpression.matches'_zero, Language.notMem_zero]
  | cons c cs ih =>
    rw [oneOf, RegularExpression.matches'_add, Language.mem_add, ih, mem_char_iff]
    simp

theorem mem_optional_iff {p : RegularExpression Char} :
    s ∈ (optional p).matches' ↔ s = [] ∨ s ∈ p.matches' := by
  rw [optional, RegularExpression.matches'_add, Language.mem_add, RegularExpression.matches'_epsilon,
    Language.mem_one]

theorem mem_upTo_iff {cs : List Char} {n : Nat} :
    s ∈ (upTo (oneOf cs) n).matches' ↔ s.length ≤ n ∧ ∀ c ∈ s, c ∈ cs := by
  induction n generalizing s with
  | zero =>
    rw [upTo, RegularExpression.matches'_epsilon, Language.mem_one]
    cases s <;> simp
  | succ n ih =>
    simp only [upTo, mem_optional_iff, mem_mul_iff, mem_oneOf_iff, ih]
    constructor
    · rintro (rfl | ⟨_, ⟨c, hc, rfl⟩, r, ⟨hlength, hr⟩, rfl⟩)
      · simp
      · exact ⟨by simpa using hlength, List.forall_mem_cons.mpr ⟨hc, hr⟩⟩
    · rintro ⟨hlength, hs⟩
      cases s with
      | nil => exact .inl rfl
      | cons c r =>
        obtain ⟨hc, hr⟩ := List.forall_mem_cons.mp hs
        exact .inr ⟨[c], ⟨c, hc, rfl⟩, r, ⟨by simpa using hlength, hr⟩, rfl⟩

theorem mem_labelPattern_iff : s ∈ labelPattern.matches' ↔ Label s := by
  have hhyphen {c : Char} (h : c.isAlphanum = true) : c ≠ '-' := by
    rintro rfl
    cases h
  have hlast (c d : Char) (m : List Char) : (c :: (m ++ [d])).getLast? = some d := by
    rw [← List.cons_append, List.getLast?_concat]
  simp only [labelPattern, mem_mul_iff, mem_optional_iff, mem_oneOf_iff, mem_upTo_iff, List.mem_cons,
    mem_alnumChars_iff]
  constructor
  · rintro ⟨_, ⟨c, hc, rfl⟩, _, rfl | ⟨m, ⟨hlength, hm⟩, _, ⟨d, hd, rfl⟩, rfl⟩, rfl⟩
    · exact ⟨by simp, by simp, by simp [hc], by simpa using hhyphen hc, by simpa using hhyphen hc⟩
    · refine ⟨by simp, by simp; omega, ?_, by simpa using hhyphen hc, by simpa [hlast] using hhyphen hd⟩
      simp only [List.singleton_append, List.mem_cons, List.mem_append, List.not_mem_nil, or_false]
      rintro x (rfl | hx | rfl)
      · exact .inl hc
      · exact (hm x hx).symm
      · exact .inl hd
  · intro h
    cases s with
    | nil => exact absurd rfl h.ne_nil
    | cons c r =>
      have hc : c.isAlphanum = true :=
        (h.chars c List.mem_cons_self).resolve_right fun heq => h.first (congrArg some heq)
      refine ⟨[c], ⟨c, hc, rfl⟩, r, ?_, rfl⟩
      rcases List.eq_nil_or_concat r with rfl | ⟨m, d, rfl⟩
      · exact .inl rfl
      · rw [List.concat_eq_append] at h
        have hd : d.isAlphanum = true :=
          (h.chars d (by simp)).resolve_right fun heq => h.last (by rw [hlast, heq])
        have hlength := h.length_le
        simp only [List.length_cons, List.length_append, List.length_nil] at hlength
        exact .inr ⟨m, ⟨by omega, fun x hx => (h.chars x (by simp [hx])).symm⟩, [d], ⟨d, hd, rfl⟩, by simp⟩

/-- A dot and a label, any number of times behind a label. -/
theorem mem_labelsPattern_iff : s ∈ labelsPattern.matches' ↔ Labels s := by
  simp only [labelsPattern, mem_mul_iff, RegularExpression.matches'_star, Language.mem_kstar, mem_labelPattern_iff,
    mem_char_iff]
  constructor
  · rintro ⟨a, ha, _, ⟨parts, rfl, hparts⟩, rfl⟩
    induction parts generalizing a with
    | nil => simpa using .last ha
    | cons part parts ih =>
      obtain ⟨⟨_, rfl, b, hb, rfl⟩, hrest⟩ := List.forall_mem_cons.mp hparts
      simpa using .more ha (ih b hb hrest)
  · intro h
    induction h with
    | @last s h => exact ⟨s, h, [], ⟨[], rfl, by simp⟩, by simp⟩
    | @more s r h _ ih =>
      obtain ⟨b, hb, _, ⟨parts, rfl, hparts⟩, rfl⟩ := ih
      exact ⟨s, h, _, ⟨('.' :: b) :: parts, rfl, List.forall_mem_cons.mpr ⟨⟨['.'], rfl, b, hb, rfl⟩, hparts⟩⟩,
        by simp⟩

/-- The regular expression matches the names of the grammar. -/
theorem mem_pattern_iff : s ∈ pattern.matches' ↔ Name s := by
  rw [pattern, mem_mul_iff]
  simp only [mem_optional_iff, mem_labelsPattern_iff, mem_mul_iff, mem_char_iff]
  constructor
  · rintro ⟨_, rfl | ⟨_, rfl, _, rfl, rfl⟩, b, hb, rfl⟩
    · exact .plain hb
    · exact .wildcard hb
  · rintro (h | h)
    · exact ⟨[], .inl rfl, _, h, rfl⟩
    · exact ⟨['*', '.'], .inr ⟨['*'], rfl, ['.'], rfl, rfl⟩, _, h, rfl⟩

theorem mem_pattern_lineEnd_iff :
    s ∈ (pattern * lineEnd).matches' ↔ Name s ∨ ∃ r, s = r ++ ['\n'] ∧ Name r := by
  simp only [mem_mul_iff, mem_pattern_iff, lineEnd, mem_optional_iff, mem_char_iff]
  constructor
  · rintro ⟨r, hr, _, rfl | rfl, rfl⟩
    · exact .inl (by simpa using hr)
    · exact .inr ⟨r, rfl, hr⟩
  · rintro (h | ⟨r, rfl, hr⟩)
    · exact ⟨s, h, [], .inl rfl, by simp⟩
    · exact ⟨r, hr, ['\n'], .inr rfl, rfl⟩

/-! ## Accepted names -/

/-- The check of the form is that of the regular expression. -/
theorem matchesForm_iff : matchesForm name = true ↔ name.toList ∈ (pattern * lineEnd).matches' := by
  rw [mem_pattern_lineEnd_iff, matchesForm, Bool.or_eq_true, isName_iff, isName_iff, withoutFinalNewline]
  constructor
  · rintro (h | h)
    · exact .inl h
    · split at h
      · rename_i hlast
        exact .inr ⟨_, (List.dropLast_append_getLast? _ hlast).symm, h⟩
      · exact .inl h
  · rintro (h | ⟨r, hname, hr⟩)
    · exact .inl h
    · refine .inr ?_
      rw [hname, List.getLast?_concat, if_pos rfl, List.dropLast_concat]
      exact hr

/-- The names that certificates are documented to be issued for. -/
structure Documented (name : String) : Prop where
  length_pos : 1 ≤ name.length
  length_le : name.length ≤ 253
  form : Name name.toList

/-- A name of the grammar with a line feed behind it. -/
structure Trailed (name : String) : Prop where
  length_le : name.length ≤ 253
  form : ∃ s, name.toList = s ++ ['\n'] ∧ Name s

theorem isAccepted_iff_pattern : isAccepted name = true ↔
    1 ≤ name.length ∧ name.length ≤ 253 ∧ name.toList ∈ (pattern * lineEnd).matches' := by
  have hpos : (!name.isEmpty) = true ↔ 1 ≤ name.length := by
    simp [Nat.one_le_iff_ne_zero, String.length_eq_zero_iff]
  rw [isAccepted, Bool.and_eq_true, Bool.and_eq_true, hpos, decide_eq_true_eq, matchesForm_iff, and_assoc]
  rfl

theorem isAccepted_iff : isAccepted name = true ↔ Documented name ∨ Trailed name := by
  rw [isAccepted_iff_pattern, mem_pattern_lineEnd_iff]
  constructor
  · rintro ⟨hpos, hle, h | h⟩
    · exact .inl ⟨hpos, hle, h⟩
    · exact .inr ⟨hle, h⟩
  · rintro (⟨hpos, hle, h⟩ | ⟨hle, s, hs, h⟩)
    · exact ⟨hpos, hle, .inl h⟩
    · refine ⟨?_, hle, .inr ⟨s, hs, h⟩⟩
      rw [← String.length_toList, hs]
      simp

/-- No name of the grammar holds a line feed. -/
theorem Trailed.not_documented (h : Trailed name) : ¬ Documented name := by
  obtain ⟨-, s, hs, -⟩ := h
  intro hdocumented
  have hfeed : '\n' ∈ name.toList := by simp [hs]
  exact absurd (of_mem_isName (isName_iff.mpr hdocumented.form) hfeed) (by decide)

end Hostname

end ProxyTestbed
