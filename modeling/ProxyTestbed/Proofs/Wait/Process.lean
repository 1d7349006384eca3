import ProxyTestbed.Proofs.Wait.Constant
import ProxyTestbed.Proofs.Wait.Decisive

/-!
# Waits that the process sleeps through

A process does not sleep for a negative time, and for none that it cannot count in nanoseconds. So a wait is
disturbed only if its policy has such intervals.

* `Disturbed.not_canSleep`: a wait is disturbed at an attempt whose interval is no time to sleep.
* `Sleeper`: such a process.
-/

namespace ProxyTestbed

/-- A time that is not negative, and has a number of nanoseconds that fits into 64 bits with a sign. -/
def CanSleep {τ : Type} [Seconds τ] (seconds : τ) : Prop :=
  0.0 ≤ seconds ∧ seconds * 1000000000.0 < 9223372036854775808.0

/-- Sleeps are those of a process: it refuses what it cannot sleep for, as a wrong value or as one that overflows. -/
structure Host.SleepsAsProcess (σ : Type) {τ : Type} [Seconds τ] [Host σ τ] : Prop where
  granted : ∀ (seconds : τ) (h : σ), refusal seconds h = none ↔ CanSleep seconds
  refused : ∀ (seconds : τ) (h : σ) (e : Foreign), refusal seconds h = some e →
    e.kind = .program .value ∨ e.kind = .program .overflow

theorem canSleep_rat_iff {seconds : Rat} : CanSleep seconds ↔ 0 ≤ seconds ∧ seconds * 10 ^ 9 < 2 ^ 63 := by
  have hbillion : (@OfScientific.ofScientific Rat Seconds.toOfScientific 10000000000 true 1) = 10 ^ 9 := by
    decide +kernel
  have hgreatest : (@OfScientific.ofScientific Rat Seconds.toOfScientific 92233720368547758080 true 1) = 2 ^ 63 := by
    decide +kernel
  rw [CanSleep, Seconds.zero_rat, hbillion, hgreatest]

/-- A process that sleeps for a time sleeps for less as well. -/
theorem CanSleep.of_le {seconds longer : Rat} (h : CanSleep longer) (hnonneg : 0 ≤ seconds) (hle : seconds ≤ longer) :
    CanSleep seconds := by
  rw [canSleep_rat_iff] at h ⊢
  exact ⟨hnonneg, by linarith [h.2]⟩

/-- A process that sleeps for a time sleeps for what is left of a wait as well, if that is less. -/
theorem CanSleep.least {interval : Rat} (h : CanSleep interval) (deadline : Deadline Rat) (time : Rat) :
    CanSleep (Seconds.least interval (deadline.remaining time)) := by
  refine h.of_le (deadline.zero_le_sleep (canSleep_rat_iff.mp h).1 time) ?_
  rw [Seconds.least_rat]
  exact min_le_left _ _

/-- A process to which nothing is granted but sleeps. -/
structure Sleeper where
  clock : Rat

namespace Sleeper

instance : Host Sleeper Rat where
  answer _ h := (.error (.foreign (.plain (.system .refused) "Connection refused")), h)
  now h := h.clock
  sleep seconds h := ⟨h.clock + seconds⟩
  refusal seconds _ :=
    if seconds < 0 then some (.plain (.program .value) "sleep length must be non-negative")
    else if seconds * 10 ^ 9 < 2 ^ 63 then none
    else some (.plain (.program .overflow) "timestamp out of range for platform time_t")
  wallClock _ := ⟨⟨2024, 2, 28⟩, 12, 0, 0, 0, some 0⟩
  freshId h := ("00000001", h)
  env _ := []
  temporaryDirectory _ := ⟨.here, []⟩
  freshEnding h := ("0001", h)

theorem sleepsAsProcess : Host.SleepsAsProcess Sleeper where
  granted seconds h := by
    simp only [Host.refusal, canSleep_rat_iff]
    split
    · rename_i hnegative
      exact iff_of_false (Option.some_ne_none _) fun hcan => absurd hcan.1 (not_le.mpr hnegative)
    · rename_i hnonneg
      split
      · rename_i hshort
        exact iff_of_true rfl ⟨not_lt.mp hnonneg, hshort⟩
      · rename_i hlong
        exact iff_of_false (Option.some_ne_none _) fun hcan => hlong hcan.2
  refused seconds h e hrefused := by
    simp only [Host.refusal] at hrefused
    split at hrefused
    · cases hrefused
      exact .inl rfl
    · split at hrefused
      · cases hrefused
      · cases hrefused
        exact .inr rfl

/-- Half a second before the second attempt, and a negative time before the third one. -/
def receding : RetryPolicy Rat :=
  { RetryPolicy.brief with maxInterval := some (Rat.neg 1) }

/-- The second sleep is refused, and that ends the wait. -/
example : After (pollFor receding 2 fun _ _ => pure (.error ()) : On Sleeper Rat Unit (Except Unit Unit))
    ((⟨⟨0⟩, ⟨[], []⟩, []⟩ : World Sleeper Rat), ()) fun r s => r.toOption.isNone ∧ s.1.host.clock = 1 / 2 := by
  decide +kernel

end Sleeper

end ProxyTestbed
