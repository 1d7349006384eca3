import Mathlib.Algebra.Order.Ring.Nat
import ProxyTestbed.Number.Binary

/-!
# The range of the reals

An integer is a real number of seconds if the nearest double is not infinite. That is so below `2 ^ 1024` less half
the distance of the last two doubles, where the tie goes to the even neighbour, which is infinity.

* `roundDiv_lt_iff`: a quotient is rounded to less than an even number up to half a unit below it.
* `nearestBits_lt_infinityBits_iff`: the integers whose nearest double is not infinite.
-/

namespace ProxyTestbed

namespace Number

/-! ## Rounding -/

/-- The half below an even number goes to that number. -/
theorem roundDiv_lt_iff {n p k : Nat} (hp : 0 < p) : roundDiv n (2 * p) < 2 * k ↔ n + p < 2 * k * (2 * p) := by
  have hpos : 0 < 2 * p := by omega
  have hdiv := Nat.div_add_mod n (2 * p)
  have hmod := Nat.mod_lt n hpos
  rw [← Nat.div_lt_iff_lt_mul hpos (x := n + p)]
  simp only [roundDiv]
  generalize n / (2 * p) = q at hdiv ⊢
  generalize n % (2 * p) = r at hdiv hmod ⊢
  rw [← hdiv, Nat.add_assoc, Nat.mul_add_div hpos]
  by_cases hr : r < p
  · rw [if_pos (by omega), Nat.div_eq_of_lt (by omega)]
    rfl
  · rw [if_neg (by omega), Nat.div_eq_of_lt_le (k := 1) (by omega) (by omega)]
    split <;> omega

theorem le_roundDiv (num den : Nat) : num / den ≤ roundDiv num den := by
  simp only [roundDiv]
  split
  · exact le_rfl
  · split <;> omega

theorem roundDiv_le (num den : Nat) : roundDiv num den ≤ num / den + 1 := by
  simp only [roundDiv]
  split
  · omega
  · split <;> omega

/-! ## Integers -/

/-- The first 53 bits of an integer, with zeros if it has fewer, are the whole part of a quotient. -/
theorem leading_quotient {n : Nat} (hn : n ≠ 0) :
    2 ^ 52 ≤ n * 2 ^ (52 - n.log2) / 2 ^ (n.log2 - 52) ∧ n * 2 ^ (52 - n.log2) / 2 ^ (n.log2 - 52) < 2 ^ 53 := by
  have hlow := Nat.mul_le_mul_right (2 ^ (52 - n.log2)) (Nat.log2_self_le hn)
  have hhigh := Nat.mul_lt_mul_of_pos_right (Nat.lt_log2_self (n := n)) (Nat.two_pow_pos (52 - n.log2))
  rw [← Nat.pow_add] at hlow hhigh
  rw [Nat.le_div_iff_mul_le (Nat.two_pow_pos _), Nat.div_lt_iff_lt_mul (Nat.two_pow_pos _), ← Nat.pow_add,
    ← Nat.pow_add, show 52 + (n.log2 - 52) = n.log2 + (52 - n.log2) by omega,
    show 53 + (n.log2 - 52) = n.log2 + 1 + (52 - n.log2) by omega]
  exact ⟨hlow, hhigh⟩

/-- The first 53 bits of an integer, rounded if it has more. -/
def leadingBits (n : Nat) : Nat :=
  roundDiv (n * 2 ^ (52 - n.log2)) (2 ^ (n.log2 - 52))

theorem leadingBits_bounds {n : Nat} (hn : n ≠ 0) : 2 ^ 52 ≤ leadingBits n ∧ leadingBits n ≤ 2 ^ 53 := by
  obtain ⟨hlow, hhigh⟩ := leading_quotient hn
  exact ⟨hlow.trans (le_roundDiv _ _), (roundDiv_le _ _).trans hhigh⟩

/-- The bits of an integer as a double: its exponent above its first bits. -/
theorem nearestBits_one {n : Nat} (hn : n ≠ 0) :
    nearestBits n 1 = min ((n.log2 + 1022) * 2 ^ 52 + leadingBits n) infinityBits := by
  have hlow := (leadingBits_bounds hn).1
  have hlog : Nat.log2 1 = 0 := by decide
  unfold nearestBits
  rw [if_neg hn]
  extract_lets size scaled guess fits unit field
  have hguess : guess = (n.log2 : Int) - 52 := by
    simp [guess, size, hlog]
  have hscaled : scaled guess = (n * 2 ^ (52 - n.log2), 2 ^ (n.log2 - 52)) := by
    simp only [scaled, hguess, twoTo, Nat.pow_eq, one_mul]
    split
    · rw [show ((n.log2 : Int) - 52).toNat = n.log2 - 52 by omega, show 52 - n.log2 = 0 by omega, pow_zero, mul_one]
    · rw [show (-((n.log2 : Int) - 52)).toNat = 52 - n.log2 by omega, show n.log2 - 52 = 0 by omega, pow_zero]
  have hfits : ¬ fits < twoTo 52 := by
    simp only [fits, hscaled]
    exact (leading_quotient hn).1.not_gt
  have hunit : unit = guess := by
    simp only [unit, if_neg hfits]
    omega
  have hfield : field = n.log2 + 1022 := by
    simp only [field, hunit]
    omega
  rw [hunit, hscaled, hfield]
  exact congrArg (min · infinityBits) (if_neg hlow.not_gt)

/-- An integer stays below a power of two even if half a unit of that size is added: it is less than half the power,
or its first bits are not rounded up to the power. -/
theorem add_half_lt_iff {n k top : Nat} (hn : n ≠ 0) (htop : k + 54 = top) :
    n + 2 ^ k < 2 ^ top ↔ n.log2 < k + 53 ∨ n.log2 = k + 53 ∧ leadingBits n < 2 ^ 53 := by
  subst htop
  have hdouble : 2 ^ (k + 54) = 2 * 2 ^ (k + 53) := Nat.pow_succ'
  rcases Nat.lt_trichotomy n.log2 (k + 53) with hlog | hlog | hlog
  · have hpower : n < 2 ^ (k + 53) := Nat.lt_log2_self.trans_le (Nat.pow_le_pow_right (by decide) hlog)
    have hhalf : 2 ^ k ≤ 2 ^ (k + 53) := Nat.pow_le_pow_right (by decide) (by omega)
    exact iff_of_true (by omega) (.inl hlog)
  · have hunit : 2 ^ (n.log2 - 52) = 2 * 2 ^ k := by
      rw [hlog, show k + 53 - 52 = k + 1 by omega, Nat.pow_succ']
    have hfull : 2 * 2 ^ 52 * (2 * 2 ^ k) = 2 ^ (k + 54) := by
      rw [← Nat.pow_succ', ← Nat.pow_succ', ← Nat.pow_add, Nat.add_comm, show k + 1 + (52 + 1) = k + 54 by omega]
    have hround : leadingBits n < 2 * 2 ^ 52 ↔ n + 2 ^ k < 2 ^ (k + 54) := by
      rw [leadingBits, hunit, show 52 - n.log2 = 0 by omega, Nat.pow_zero, Nat.mul_one, ← hfull]
      exact roundDiv_lt_iff (Nat.two_pow_pos k)
    rw [← hround]
    omega
  · have hpower : 2 ^ (k + 54) ≤ n := (Nat.pow_le_pow_right (by decide) hlog).trans (Nat.log2_self_le hn)
    exact iff_of_false (hpower.trans (Nat.le_add_right _ _)).not_gt (by omega)

/-- The least integer whose nearest double is infinite. -/
def leastInfinite : Nat := 2 ^ 1024 - 2 ^ 970

theorem nearestBits_lt_infinityBits_iff {n : Nat} : nearestBits n 1 < infinityBits ↔ n < leastInfinite := by
  rw [leastInfinite, Nat.lt_sub_iff_add_lt]
  rcases Nat.eq_zero_or_pos n with rfl | hpos
  · have hhalf : 2 ^ 970 < 2 ^ 1024 := pow_lt_pow_right₀ one_lt_two (by decide)
    rw [Nat.zero_add]
    exact iff_of_true (by decide) hhalf
  · have hbounds := leadingBits_bounds hpos.ne'
    have hinfinity : infinityBits = 2047 * 2 ^ 52 := rfl
    rw [nearestBits_one hpos.ne', min_lt_iff, add_half_lt_iff hpos.ne' rfl]
    omega

end Number

end ProxyTestbed
