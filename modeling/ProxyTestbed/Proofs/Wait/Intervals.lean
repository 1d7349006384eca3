import Mathlib.Order.Monotone.Basic
import ProxyTestbed.Proofs.Wait.Rounds

/-!
# The intervals of a policy

A policy is made from four numbers, of which three are checked: the greatest interval may be any number, also
one below the first interval. It cuts off every interval but the first one.

* `RetryPolicy.nth_succ_eq`: every interval but the first is the one that is due.
* `RetryPolicy.intervals_promised_iff`: what the greatest interval has to be, for the intervals to be positive,
  to rise, to be bounded, and to be those that are due.
-/

namespace ProxyTestbed

namespace RetryPolicy

/-- The interval that is due: it has grown once for each number before it, and it is cut off at the greatest. -/
def due (policy : RetryPolicy Rat) (number : Nat) : Rat :=
  match policy.maxInterval with
  | none => policy.interval * policy.backoff ^ number
  | some greatest => min (policy.interval * policy.backoff ^ number) greatest

/-- The greatest interval of a policy, if it has one, is not below the first one. -/
def Fits (policy : RetryPolicy Rat) : Prop :=
  ∀ greatest, policy.maxInterval = some greatest → policy.interval ≤ greatest

/-- No interval of a policy is greater than its greatest one, if it has one. -/
def Capped (policy : RetryPolicy Rat) : Prop :=
  ∀ greatest, policy.maxInterval = some greatest → ∀ number, policy.nth number ≤ greatest

/-- A policy is what its own numbers make. -/
theorem make_self {τ : Type} [Seconds τ] (policy : RetryPolicy τ) :
    make policy.timeout policy.interval policy.backoff policy.maxInterval = .ok policy := by
  rw [make, dif_neg policy.not_negative, dif_neg policy.not_still, dif_neg policy.not_shrinking]

variable {policy : RetryPolicy Rat}

theorem nth_succ_none (hmax : policy.maxInterval = none) (number : Nat) :
    policy.nth (number + 1) = policy.nth number * policy.backoff := by
  rw [nth_succ, after, hmax]

theorem nth_succ_some {greatest : Rat} (hmax : policy.maxInterval = some greatest) (number : Nat) :
    policy.nth (number + 1) = min (policy.nth number * policy.backoff) greatest := by
  rw [nth_succ, after, hmax]
  exact Seconds.least_rat _ _

/-- Growth that is cut off before its last factor is cut off after it all the same. -/
theorem min_mul_min {a greatest factor : Rat} (hgreatest : 0 ≤ greatest) (hfactor : 1 ≤ factor) :
    min (min a greatest * factor) greatest = min (a * factor) greatest := by
  have hle : greatest ≤ greatest * factor := le_mul_of_one_le_right hgreatest hfactor
  rw [min_mul_of_nonneg _ _ (zero_le_one.trans hfactor), min_assoc, min_eq_right hle]

/-- Every interval but the first is the one that is due, unless the greatest is a time before now. -/
theorem nth_succ_eq (hmax : ∀ greatest, policy.maxInterval = some greatest → 0 ≤ greatest) (number : Nat) :
    policy.nth (number + 1) = policy.due (number + 1) := by
  cases h : policy.maxInterval with
  | none =>
    induction number with
    | zero => simp only [nth_succ_none h, nth_zero, due, h, zero_add, pow_one]
    | succ number ih =>
      rw [nth_succ_none h, ih]
      simp only [due, h]
      rw [mul_assoc, ← pow_succ]
  | some greatest =>
    induction number with
    | zero => simp only [nth_succ_some h, nth_zero, due, h, zero_add, pow_one]
    | succ number ih =>
      rw [nth_succ_some h, ih]
      simp only [due, h]
      rw [min_mul_min (hmax greatest h) policy.one_le_backoff, mul_assoc, ← pow_succ]

/-- A greatest interval that is a time before now grows as an interval does. -/
theorem nth_succ_of_neg {greatest : Rat} (hmax : policy.maxInterval = some greatest) (hneg : greatest < 0)
    (number : Nat) : policy.nth (number + 1) = greatest * policy.backoff ^ number := by
  have hbackoff := policy.one_le_backoff
  induction number with
  | zero =>
    have hgrown : 0 ≤ policy.interval * policy.backoff :=
      mul_nonneg policy.zero_lt_interval.le (zero_le_one.trans hbackoff)
    rw [nth_succ_some hmax, nth_zero, min_eq_right (hneg.le.trans hgrown), pow_zero, mul_one]
  | succ number ih =>
    have hpow : 1 ≤ policy.backoff ^ (number + 1) := one_le_pow₀ hbackoff
    have hle : greatest * policy.backoff ^ (number + 1) ≤ greatest := by nlinarith
    rw [nth_succ_some hmax, ih, mul_assoc, ← pow_succ, min_eq_left hle]

theorem Fits.sleeps (h : policy.Fits) : policy.Sleeps := by
  intro greatest hmax
  exact lt_of_lt_of_le policy.zero_lt_interval (h greatest hmax)

theorem Fits.nth_eq (h : policy.Fits) (number : Nat) : policy.nth number = policy.due number := by
  cases number with
  | zero =>
    cases hmax : policy.maxInterval with
    | none => simp only [nth_zero, due, hmax, pow_zero, mul_one]
    | some greatest => simp only [nth_zero, due, hmax, pow_zero, mul_one, min_eq_left (h greatest hmax)]
  | succ number => exact nth_succ_eq (fun greatest hmax => (h.sleeps greatest hmax).le) number

theorem Fits.capped (h : policy.Fits) : policy.Capped := by
  intro greatest hmax number
  rw [h.nth_eq, due, hmax]
  exact min_le_right _ _

theorem Fits.monotone (h : policy.Fits) : Monotone policy.nth := by
  refine monotone_nat_of_le_succ fun number => ?_
  have hgrown : policy.nth number ≤ policy.nth number * policy.backoff :=
    le_mul_of_one_le_right (zero_lt_nth h.sleeps number).le policy.one_le_backoff
  cases hmax : policy.maxInterval with
  | none => rwa [nth_succ_none hmax]
  | some greatest =>
    rw [nth_succ_some hmax]
    exact le_min hgrown (h.capped greatest hmax number)

theorem fits_of_capped (h : policy.Capped) : policy.Fits := by
  intro greatest hmax
  exact h greatest hmax 0

theorem fits_of_monotone (h : Monotone policy.nth) : policy.Fits := by
  intro greatest hmax
  have hrises : policy.interval ≤ policy.nth 1 := h (Nat.zero_le 1)
  rw [nth_succ_some hmax] at hrises
  exact hrises.trans (min_le_right _ _)

theorem fits_of_eq_due (h : ∀ number, policy.nth number = policy.due number) : policy.Fits := by
  intro greatest hmax
  have hfirst : policy.interval = policy.due 0 := h 0
  simp only [due, hmax, pow_zero, mul_one] at hfirst
  exact min_eq_left_iff.mp hfirst.symm

theorem sleeps_of_positive (h : ∀ number, 0 < policy.nth number) : policy.Sleeps := by
  intro greatest hmax
  have hsecond := h 1
  rw [nth_succ_some hmax] at hsecond
  exact hsecond.trans_le (min_le_right _ _)

/-- **What the greatest interval of a policy has to be.** For each policy that can be made: all intervals are
positive if and only if the greatest is; they never decrease, none of them is above the greatest, and each of
them is the one that is due, if and only if the greatest is not below the first. Otherwise the first interval
alone is not cut off, and a negative greatest interval grows on. -/
theorem intervals_promised_iff (policy : RetryPolicy Rat) :
    make policy.timeout policy.interval policy.backoff policy.maxInterval = .ok policy ∧
      ((∀ number, 0 < policy.nth number) ↔ policy.Sleeps) ∧
      (Monotone policy.nth ↔ policy.Fits) ∧
      (policy.Capped ↔ policy.Fits) ∧
      ((∀ number, policy.nth number = policy.due number) ↔ policy.Fits) ∧
      policy.nth 0 = policy.interval ∧
      ((∀ greatest, policy.maxInterval = some greatest → 0 ≤ greatest) →
        ∀ number, policy.nth (number + 1) = policy.due (number + 1)) ∧
      ∀ greatest, policy.maxInterval = some greatest → greatest < 0 →
        ∀ number, policy.nth (number + 1) = greatest * policy.backoff ^ number :=
  ⟨policy.make_self, ⟨sleeps_of_positive, zero_lt_nth⟩, ⟨fits_of_monotone, Fits.monotone⟩,
    ⟨fits_of_capped, Fits.capped⟩, ⟨fits_of_eq_due, Fits.nth_eq⟩, policy.nth_zero, nth_succ_eq,
    fun _ => nth_succ_of_neg⟩

/-- A policy may be made that sleeps for five seconds first, although its greatest interval is one second. -/
theorem intervals_promised_iff_first :
    ∃ policy : RetryPolicy Rat, make 10 5 1 (some 1) = .ok policy ∧ policy.nth 0 = 5 ∧ policy.nth 1 = 1 ∧
      (∀ number, 0 < policy.nth number) ∧ ¬ Monotone policy.nth ∧ ¬ policy.Capped ∧
      ¬ ∀ number, policy.nth number = policy.due number := by
  let policy : RetryPolicy Rat :=
    ⟨10, 5, 1, some 1, by decide +kernel, by decide +kernel, by decide +kernel⟩
  obtain ⟨hmake, hpositive, hmonotone, hcapped, hdue, _⟩ := intervals_promised_iff policy
  have hsleeps : policy.Sleeps := by
    intro greatest hgreatest
    cases hgreatest
    norm_num
  have hfits : ¬ policy.Fits := by
    intro h
    have hle : (5 : Rat) ≤ 1 := h 1 rfl
    norm_num at hle
  exact ⟨policy, hmake, rfl, by decide +kernel, hpositive.mpr hsleeps, mt hmonotone.mp hfits,
    mt hcapped.mp hfits, mt hdue.mp hfits⟩

end RetryPolicy

end ProxyTestbed
