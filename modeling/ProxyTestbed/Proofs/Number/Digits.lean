import Mathlib.Algebra.Ring.Nat
import Mathlib.Data.List.Induction
import ProxyTestbed.Number.Read

/-!
# Numerals

A numeral is a text of at most `maxDigits` decimal digits, of any script. Numerals are the texts of
characters that look like digits which are read as integers, and every natural number with a text has
a numeral.

* `Numeral.readInteger`: a numeral is read as the number that its digits write.
* `numeral_of_readInteger`: what is read without a sign, blanks or underscores is a numeral.
* `numeral_toDigits`, `Numeral.length_toDigits_le`: the text of a number is a numeral of it, and a number
  with a numeral has a text.
-/

namespace ProxyTestbed

namespace Text

theorem exists_zero_of_digitValue? {c : Char} {d : Nat} (h : digitValue? c = some d) :
    ∃ z ∈ decimalZeros, c = Char.ofNat (z + d) := by
  obtain ⟨z, hz, rfl⟩ := Option.map_eq_some_iff.mp h
  have hfound := List.find?_some hz
  simp only [Bool.and_eq_true, decide_eq_true_eq] at hfound
  refine ⟨z, List.mem_of_find?_eq_some hz, ?_⟩
  rw [Nat.add_sub_cancel' hfound.1, Char.ofNat_toNat]

/-- Nothing that looks like a digit is a blank. -/
theorem isBlank_of_isDigitLike {c : Char} (h : isDigitLike c = true) : isBlank c = false := by
  have hzeros : ∀ z ∈ decimalZeros, ∀ d < 10, isBlank (Char.ofNat (z + d)) = false := by
    decide +kernel
  have hsigns : ∀ r ∈ digitSigns, ∀ d < r.2 + 1 - r.1, isBlank (Char.ofNat (r.1 + d)) = false := by
    decide +kernel
  rw [isDigitLike, Bool.or_eq_true] at h
  rcases h with h | h
  · obtain ⟨d, hd⟩ := Option.isSome_iff_exists.mp h
    obtain ⟨z, hz, rfl⟩ := exists_zero_of_digitValue? hd
    exact hzeros z hz d (digitValue?_lt hd)
  · obtain ⟨r, hr, hin⟩ := List.any_eq_true.mp h
    simp only [Bool.and_eq_true, decide_eq_true_eq] at hin
    have hc : c = Char.ofNat (r.1 + (c.toNat - r.1)) := by
      rw [Nat.add_sub_cancel' hin.1, Char.ofNat_toNat]
    rw [hc]
    exact hsigns r hr _ (by omega)

theorem digitValue?_of_isDigit {c : Char} (h : c.isDigit = true) :
    digitValue? c = some (c.toNat - '0'.toNat) := by
  have hrange : 48 ≤ c.toNat ∧ c.toNat < 58 := by
    simp only [Char.isDigit, Bool.and_eq_true, decide_eq_true_eq, UInt32.le_iff_toNat_le] at h
    exact ⟨h.1, Nat.lt_succ_of_le h.2⟩
  simp [digitValue?, decimalZeros, hrange]

end Text

namespace Number

open Text

/-! ## Digits -/

theorem digitTo?_ten (c : Char) : digitTo? 10 c = digitValue? c := by
  unfold digitTo?
  cases h : digitValue? c with
  | some d => simp [digitValue?_lt h]
  | none =>
    -- a letter stands for ten or more
    have hlow : 'a' ≤ c → 97 ≤ c.toNat := fun hc => hc
    have hhigh : 'A' ≤ c → 65 ≤ c.toNat := fun hc => hc
    simp only [Option.none_or, Option.filter_eq_none_iff, decide_eq_true_eq]
    intro d hd
    split at hd
    · next hc =>
      simp only [Bool.and_eq_true, decide_eq_true_eq] at hc
      have := hlow hc.1
      cases hd
      omega
    · split at hd
      · next hc =>
        simp only [Bool.and_eq_true, decide_eq_true_eq] at hc
        have := hhigh hc.1
        cases hd
        omega
      · cases hd

/-- Without underscores the digits of a text are those of its characters. -/
theorem takeDigits?_eq_some_iff {base : Nat} {text : List Char} (h : '_' ∉ text) {ds : List Nat} :
    takeDigits? base text = some (ds, []) ↔ text.map (digitTo? base) = ds.map some := by
  induction text generalizing ds with
  | nil => cases ds <;> simp [takeDigits?]
  | cons c r ih =>
    obtain ⟨hc, hr⟩ := List.ne_and_not_mem_of_not_mem_cons h
    have hpattern (r' : List Char) : r = '_' :: r' → False := by
      rintro rfl
      exact hr List.mem_cons_self
    rw [takeDigits?]
    · cases hd : digitTo? base c with
      | none => cases ds <;> simp [Ne.symm hc, hd]
      | some d =>
        cases ds with
        | nil => simp
        | cons d' ds =>
          rw [List.map_cons, List.map_cons, List.cons.injEq, ← ih hr, hd]
          simp only [Option.map_eq_some_iff, Prod.exists, Prod.mk.injEq, List.cons.injEq, Option.some.injEq]
          constructor
          · rintro ⟨_, _, htake, ⟨rfl, rfl⟩, rfl⟩
            exact ⟨rfl, htake⟩
          · rintro ⟨rfl, htake⟩
            exact ⟨ds, [], htake, ⟨rfl, rfl⟩, rfl⟩
    · exact hpattern

theorem ofDigits_append (base : Nat) (ds : List Nat) (d : Nat) :
    ofDigits base (ds ++ [d]) = base * ofDigits base ds + d := by
  simp [ofDigits]

theorem ofDigits_lt {base : Nat} {ds : List Nat} (h : ∀ d ∈ ds, d < base) :
    ofDigits base ds < base ^ ds.length := by
  induction ds using List.reverseRecOn with
  | nil => simp [ofDigits]
  | append_singleton ds d ih =>
    have hds := ih fun e he => h e (List.mem_append_left _ he)
    have hd := h d (by simp)
    rw [ofDigits_append, List.length_append, List.length_singleton, Nat.pow_succ, Nat.mul_comm]
    calc ofDigits base ds * base + d < ofDigits base ds * base + base := by omega
      _ = (ofDigits base ds + 1) * base := by rw [Nat.add_mul, Nat.one_mul]
      _ ≤ base ^ ds.length * base := Nat.mul_le_mul_right base hds

/-! ## Numerals -/

/-- A text of decimal digits, not too many, that write the number. -/
structure Numeral (text : List Char) (n : Nat) : Prop where
  ne_nil : text ≠ []
  length_le : text.length ≤ maxDigits
  digits : ∃ ds, text.map digitValue? = ds.map some ∧ ofDigits 10 ds = n

namespace Numeral

variable {text : List Char} {n : Nat}

theorem exists_digitValue? (h : Numeral text n) {c : Char} (hc : c ∈ text) : ∃ d, digitValue? c = some d := by
  obtain ⟨ds, hds, _⟩ := h.digits
  have hmem : digitValue? c ∈ ds.map some := hds ▸ List.mem_map_of_mem hc
  obtain ⟨d, _, hd⟩ := List.mem_map.mp hmem
  exact ⟨d, hd.symm⟩

theorem isDigitLike (h : Numeral text n) {c : Char} (hc : c ∈ text) : isDigitLike c = true := by
  obtain ⟨d, hd⟩ := h.exists_digitValue? hc
  exact isDigitLike_of_digitValue? hd

theorem isBlank (h : Numeral text n) {c : Char} (hc : c ∈ text) : isBlank c = false :=
  isBlank_of_isDigitLike (h.isDigitLike hc)

/-- A character without a value is in no numeral. -/
theorem not_mem (h : Numeral text n) {c : Char} (hc : digitValue? c = none) : c ∉ text := by
  intro hmem
  obtain ⟨d, hd⟩ := h.exists_digitValue? hmem
  rw [hc] at hd
  cases hd

end Numeral

theorem stripOuter_eq_self {s : List Char} (h : ∀ c ∈ s, isBlank c = false) : stripOuter s = s := by
  have hfirst {t : List Char} (ht : ∀ c ∈ t, isBlank c = false) : t.dropWhile isOuterBlank = t := by
    cases t with
    | nil => rfl
    | cons c t => simp [isOuterBlank, ht c List.mem_cons_self]
  rw [stripOuter, hfirst h, hfirst (by simpa using h), List.reverse_reverse]

theorem takeSign_eq_self {s : List Char} (h : ∀ c ∈ s, Text.isDigitLike c = true) :
    takeSign s = (false, s) := by
  unfold takeSign
  split
  · exact absurd (h '+' List.mem_cons_self) (by decide)
  · exact absurd (h '-' List.mem_cons_self) (by decide)
  · rfl

theorem dropMark_ten (s : List Char) : dropMark 10 s = s := by
  unfold dropMark
  split
  · rw [if_neg (by simp [baseLetter?])]
  · rfl

/-- Reading an integer comes down to taking digits, where all characters look like digits. -/
theorem readInteger_eq {text : List Char} (h : ∀ c ∈ text, Text.isDigitLike c = true) :
    readInteger (String.ofList text) =
      match takeDigits? 10 text with
      | none => .error (.malformed 10 (Text.quoted (String.ofList text)))
      | some (ds, rest) =>
        if maxDigits < ds.length then .error (.tooLong ds.length)
        else if ds.isEmpty || !rest.isEmpty then .error (.malformed 10 (Text.quoted (String.ofList text)))
        else .ok (ofDigits 10 ds) := by
  rw [readInteger, readIntegerTo, String.toList_ofList,
    stripOuter_eq_self fun c hc => isBlank_of_isDigitLike (h c hc), takeSign_eq_self h]
  simp only [dropMark_ten]
  cases takeDigits? 10 text with
  | none => rfl
  | some x => simp

/-- A numeral is read as the number that its digits write. -/
theorem Numeral.readInteger {text : List Char} {n : Nat} (h : Numeral text n) :
    readInteger (String.ofList text) = .ok n := by
  obtain ⟨ds, hds, rfl⟩ := h.digits
  have htake : takeDigits? 10 text = some (ds, []) := by
    rw [takeDigits?_eq_some_iff (h.not_mem (by decide)), funext digitTo?_ten, hds]
  have hlength : ds.length = text.length := by
    simpa using (congrArg List.length hds).symm
  have hne : ds ≠ [] := by
    rintro rfl
    exact h.ne_nil (List.length_eq_zero_iff.mp hlength.symm)
  rw [readInteger_eq fun c hc => h.isDigitLike hc, htake]
  simp [hlength, Nat.not_lt.mpr h.length_le, hne]

/-- What is read of characters that look like digits is a numeral. -/
theorem numeral_of_readInteger {text : List Char} (htext : ∀ c ∈ text, Text.isDigitLike c = true) {n : Int}
    (h : readInteger (String.ofList text) = .ok n) : ∃ m : Nat, n = m ∧ Numeral text m := by
  have hunderscore : '_' ∉ text := fun hmem => absurd (htext '_' hmem) (by decide)
  rw [readInteger_eq htext] at h
  split at h
  · cases h
  · next ds rest htake =>
    split at h
    · cases h
    · next hlength =>
      split at h
      · cases h
      · next hrest =>
        simp only [Bool.or_eq_true, Bool.not_eq_true', List.isEmpty_iff, List.isEmpty_eq_false_iff,
          not_or, Decidable.not_not, ne_eq] at hrest
        obtain ⟨hne, rfl⟩ := hrest
        cases h
        rw [takeDigits?_eq_some_iff hunderscore, funext digitTo?_ten] at htake
        have heq : text.length = ds.length := by
          simpa using congrArg List.length htake
        refine ⟨_, rfl, ?_, by omega, ds, htake, rfl⟩
        rintro rfl
        exact hne (List.length_eq_zero_iff.mp heq.symm)

/-! ## The text of a number -/

theorem ofDigits_toDigits (n : Nat) :
    ofDigits 10 ((Nat.toDigits 10 n).map fun c => c.toNat - '0'.toNat) = n := by
  rw [ofDigits, List.foldl_map, ← Nat.ofDigitChars_eq_foldl]
  exact Nat.ofDigitChars_toDigits (by decide) (by decide)

/-- The text of a number is a numeral of it. -/
theorem numeral_toDigits {n : Nat} (h : (Nat.toDigits 10 n).length ≤ maxDigits) :
    Numeral (Nat.toDigits 10 n) n := by
  refine ⟨Nat.toDigits_ne_nil, h, _, ?_, ofDigits_toDigits n⟩
  rw [List.map_map]
  refine List.map_congr_left fun c hc => ?_
  exact digitValue?_of_isDigit (Nat.isDigit_of_mem_toDigits (by decide) (by decide) hc)

/-- A number with a numeral has a text. -/
theorem Numeral.length_toDigits_le {text : List Char} {n : Nat} (h : Numeral text n) :
    (Nat.toDigits 10 n).length ≤ maxDigits := by
  obtain ⟨ds, hds, rfl⟩ := h.digits
  have hlength : text.length = ds.length := by
    simpa using congrArg List.length hds
  have hdigits : ∀ d ∈ ds, d < 10 := by
    intro d hd
    have hmem : some d ∈ text.map digitValue? := hds ▸ List.mem_map_of_mem hd
    obtain ⟨c, _, hc⟩ := List.mem_map.mp hmem
    exact digitValue?_lt hc
  have hpos : 0 < text.length := List.length_pos_iff.mpr h.ne_nil
  refine Nat.le_trans ?_ h.length_le
  rw [Nat.length_toDigits_le_iff (by decide) hpos, hlength]
  exact ofDigits_lt hdigits

theorem toString_natCast (n : Nat) : toString (n : Int) = String.ofList (Nat.toDigits 10 n) := by
  rw [← Nat.toString_eq_ofList_toDigits]
  rfl

/-- An integer is written if it does not have too many digits. -/
theorem isOk_writeInteger_iff {n : Int} : (writeInteger n).isOk = true ↔ n.natAbs < 10 ^ maxDigits := by
  have hlength := Nat.length_toDigits_le_iff (b := 10) (n := n.natAbs) (k := maxDigits) (by decide) (by decide)
  rw [← hlength, writeInteger]
  split
  · simpa only [Except.isOk, Except.toBool, Bool.false_eq_true, false_iff, Nat.not_le]
  · simpa only [Except.isOk, Except.toBool, true_iff, ← Nat.not_lt]

theorem writeInteger_natCast {n : Nat} (h : (Nat.toDigits 10 n).length ≤ maxDigits) :
    writeInteger n = .ok (String.ofList (Nat.toDigits 10 n)) := by
  rw [writeInteger, Int.natAbs_natCast, if_neg (Nat.not_lt.mpr h), toString_natCast]

end Number

end ProxyTestbed
