import Mathlib.Algebra.Order.Field.Rat
import Mathlib.Tactic.Linarith
import ProxyTestbed.Proofs.World.Requests

/-!
# Waits on a steady clock

On exact seconds, and with a clock that every sleep moves on, a wait comes to its end within the attempts that
are followed: each attempt but the last one is followed by a sleep of at least the least interval of the
policy, or by one that ends at the deadline; or the sleep is refused, and then that ends the wait.

* `after_pollFor_ticking`: the rule for a wait that begins now, which then is never stalled.
-/

namespace ProxyTestbed

/-- A sleep moves the clock on at least by its length, and no answer turns it back. -/
structure Host.Ticking (σ : Type) [Host σ Rat] : Prop where
  sleep : ∀ (seconds : Rat) (h : σ), 0 ≤ seconds → now h + seconds ≤ now (sleep seconds h)
  answer : ∀ (r : Request Rat) (h : σ), now h ≤ now (answer r h).2

/-- Moreover, only sleeps of a negative length are refused. -/
structure Host.Steady (σ : Type) [Host σ Rat] : Prop extends Host.Ticking σ where
  rests : ∀ (seconds : Rat) (h : σ), 0 ≤ seconds → refusal seconds h = none

/-- The clock is not turned back. -/
def Onward {σ : Type} [Host σ Rat] (w w' : World σ Rat) : Prop :=
  Host.now w.host ≤ Host.now w'.host

section

variable {σ : Type} [Host σ Rat]

instance : IsPreorder (World σ Rat) Onward where
  refl w := le_refl (Host.now w.host)
  trans _ _ _ h h' := le_trans (α := Rat) h h'

theorem Logs.onward {w w' : World σ Rat} (h : Logs w w') : Onward w w' := by
  obtain ⟨es, rfl, _⟩ := h
  exact refl_of Onward w

theorem Host.Ticking.keeps_ask (hticking : Host.Ticking σ) (r : Request Rat) :
    Keeps Onward (ask r : Act σ Rat r.Answer) := by
  refine fun w => (after_ask r w).mono fun _ w' h => ?_
  unfold Onward
  rw [h.2.2.1]
  exact hticking.answer r w.host

/-- A sleep of no negative length moves the clock on by that, or is refused. -/
theorem after_sleep_ticking (hticking : Host.Ticking σ) {seconds : Rat} (h : 0 ≤ seconds) (w : World σ Rat) :
    After (sleep seconds) w fun r w' => r = .ok () → Host.now w.host + seconds ≤ Host.now w'.host := by
  refine (after_sleep seconds w).mono fun r w' hpost hr => ?_
  obtain ⟨-, -, rfl⟩ | ⟨e, -, rfl, -⟩ := hpost
  · exact hticking.sleep seconds w.host h
  · cases hr

end

namespace Seconds

theorem zero_rat : (@OfScientific.ofScientific Rat Seconds.toOfScientific 0 true 1) = 0 := by
  decide +kernel

theorem one_rat : (@OfScientific.ofScientific Rat Seconds.toOfScientific 10 true 1) = 1 := by
  decide +kernel

theorem least_rat (a b : Rat) : least a b = min a b := by
  rw [least, min_comm, min_def]
  split
  · rename_i h
    rw [if_pos (le_of_lt h)]
  · rename_i h
    split
    · rename_i hba
      exact le_antisymm (not_lt.mp h) hba
    · rfl

theorem greatest_rat (a b : Rat) : greatest a b = max a b := by
  rw [greatest, max_def]
  split
  · rename_i h
    rw [if_pos (le_of_lt h)]
  · rename_i h
    split
    · rename_i hab
      exact le_antisymm hab (not_lt.mp h)
    · rfl

end Seconds

namespace Deadline

variable {deadline : Deadline Rat} {time : Rat}

theorem isOver_iff : deadline.isOver time = true ↔ deadline.expires ≤ time :=
  decide_eq_true_iff

theorem not_isOver_iff : deadline.isOver time = false ↔ time < deadline.expires := by
  rw [← not_le, ← isOver_iff, Bool.not_eq_true]

theorem remaining_of_not_isOver (h : deadline.isOver time = false) :
    deadline.remaining time = deadline.expires - time := by
  have hlt := not_isOver_iff.mp h
  rw [remaining, Seconds.greatest_rat, Seconds.zero_rat]
  exact max_eq_right (by linarith)

theorem zero_le_sleep (deadline : Deadline Rat) {interval : Rat} (h : 0 ≤ interval) (time : Rat) :
    0 ≤ Seconds.least interval (deadline.remaining time) := by
  rw [remaining, Seconds.least_rat, Seconds.greatest_rat, Seconds.zero_rat]
  exact le_min h (le_max_left _ _)

end Deadline

namespace RetryPolicy

/-- The greatest interval of a policy, if it has one, is a time to sleep. -/
def Sleeps (policy : RetryPolicy Rat) : Prop :=
  ∀ greatest, policy.maxInterval = some greatest → 0 < greatest

variable {policy : RetryPolicy Rat}

theorem zero_lt_interval (policy : RetryPolicy Rat) : 0 < policy.interval := by
  have h := policy.not_still
  rw [Seconds.zero_rat] at h
  exact not_le.mp h

theorem one_le_backoff (policy : RetryPolicy Rat) : 1 ≤ policy.backoff := by
  have h := policy.not_shrinking
  rw [Seconds.one_rat] at h
  exact not_lt.mp h

theorem zero_lt_leastInterval (h : policy.Sleeps) : 0 < policy.leastInterval := by
  unfold leastInterval
  split
  · exact policy.zero_lt_interval
  · rename_i greatest hmax
    rw [Seconds.least_rat]
    exact lt_min policy.zero_lt_interval (h greatest hmax)

theorem leastInterval_le_interval (policy : RetryPolicy Rat) : policy.leastInterval ≤ policy.interval := by
  unfold leastInterval
  split
  · exact le_refl _
  · rw [Seconds.least_rat]
    exact min_le_left _ _

/-- The intervals of a policy do not fall below the least one. -/
theorem leastInterval_le_after (h : policy.Sleeps) {current : Rat}
    (hcurrent : policy.leastInterval ≤ current) : policy.leastInterval ≤ policy.after current := by
  have hpos := zero_lt_leastInterval h
  have hgrown : policy.leastInterval ≤ current * policy.backoff := by
    have hbackoff := policy.one_le_backoff
    nlinarith
  unfold after
  split
  · exact hgrown
  · rename_i greatest hmax
    have hgreatest : policy.leastInterval ≤ greatest := by
      have hleast : policy.leastInterval = Seconds.least policy.interval greatest := by
        rw [leastInterval, hmax]
      rw [hleast, Seconds.least_rat]
      exact min_le_right _ _
    rw [Seconds.least_rat]
    exact le_min hgrown hgreatest

/-- A time to wait and an interval make a policy, which always sleeps. -/
theorem exists_fixed {timeout interval : Rat} (htimeout : 0 ≤ timeout) (hinterval : 0 < interval) :
    ∃ policy, fixed timeout interval = .ok policy ∧ policy.Sleeps := by
  have hnegative : ¬ timeout < 0.0 := by
    rw [Seconds.zero_rat]
    exact not_lt.mpr htimeout
  have hstill : ¬ interval ≤ 0.0 := by
    rw [Seconds.zero_rat]
    exact not_le.mpr hinterval
  have hshrinking : ¬ (usualBackoff : Rat) < 1.0 := by
    decide +kernel
  refine ⟨⟨timeout, interval, usualBackoff, none, hnegative, hstill, hshrinking⟩, ?_, by simp [Sleeps]⟩
  rw [fixed, make, dif_neg hnegative, dif_neg hstill, dif_neg hshrinking]

end RetryPolicy

section

variable {σ ω α β : Type} [Host σ Rat] {policy : RetryPolicy Rat}

/-- The attempts that are left are enough for the time that is left, if every sleep but one that ends at the
deadline is at least the least interval. -/
def Enough (policy : RetryPolicy Rat) (deadline : Deadline Rat) (fuel : Nat) (time : Rat) : Prop :=
  1 ≤ fuel ∧ (deadline.expires ≤ time ∨
    ∃ k : Nat, fuel = k + 2 ∧ deadline.expires ≤ time + k * policy.leastInterval)

theorem enough_start (h : policy.Sleeps) (time timeout : Rat) :
    Enough policy (Deadline.start time timeout) (Seconds.attempts timeout policy.leastInterval) time := by
  have hpos := RetryPolicy.zero_lt_leastInterval h
  let k := (timeout / policy.leastInterval).ceil.toNat
  have hfuel : Seconds.attempts timeout policy.leastInterval = k + 2 := by
    show (if policy.leastInterval ≤ 0 then Seconds.manyAttempts else k + 2) = k + 2
    rw [if_neg (not_le.mpr hpos)]
  have hceil : timeout / policy.leastInterval ≤ k := by
    have htoNat : (timeout / policy.leastInterval).ceil ≤ (k : Int) := Int.self_le_toNat _
    exact_mod_cast Rat.ceil_le_iff.mp htoNat
  refine ⟨by omega, .inr ⟨k, hfuel, ?_⟩⟩
  have htime : timeout ≤ k * policy.leastInterval := (div_le_iff₀ hpos).mp hceil
  show time + timeout ≤ _
  linarith

/-- An attempt that decides nothing, and the sleep after it, leave enough attempts. -/
theorem Enough.next {deadline : Deadline Rat} {fuel : Nat} {time time' time'' interval : Rat}
    (henough : Enough policy deadline (fuel + 1) time) (htime : time ≤ time')
    (hover : deadline.isOver time' = false) (hinterval : policy.leastInterval ≤ interval)
    (hsleep : time' + Seconds.least interval (deadline.remaining time') ≤ time'') :
    Enough policy deadline fuel time'' := by
  have hlt : time' < deadline.expires := Deadline.not_isOver_iff.mp hover
  rw [Deadline.remaining_of_not_isOver hover, Seconds.least_rat] at hsleep
  obtain ⟨-, hpassed | ⟨k, hk, hleft⟩⟩ := henough
  · exact absurd hlt (by linarith)
  · cases k with
    | zero => exact absurd hlt (by push_cast at hleft; linarith)
    | succ k =>
      refine ⟨by omega, ?_⟩
      rcases le_total (deadline.expires - time') interval with hshort | hlong
      · rw [min_eq_right hshort] at hsleep
        exact .inl (by linarith)
      · rw [min_eq_left hlong] at hsleep
        push_cast at hleft
        exact .inr ⟨k, by omega, by linarith⟩

/-- The rule for the loop of a wait on a clock that ticks, as long as there are enough attempts. -/
theorem after_poll_ticking (hticking : Host.Ticking σ) (h : policy.Sleeps) {deadline : Deadline Rat}
    {try_ : Nat → On σ Rat ω (Except β α)} {I : World σ Rat × ω → Prop}
    {Q : Except (Fault Rat) (Except β α) → World σ Rat × ω → Prop}
    (htry : ∀ number s, I s → After (try_ number) s fun r s' => Q r s' ∧
      ∀ seen, r = .ok (.error seen) → I s' ∧ Host.now s.1.host ≤ Host.now s'.1.host)
    (hsleep : ∀ seconds s, I s → After (world (sleep seconds)) s fun r s' =>
      (r = .ok () → I s') ∧ ∀ e, r = .error e → Q (.error e) s')
    (fuel number : Nat) {interval : Rat} (hinterval : policy.leastInterval ≤ interval)
    {s : World σ Rat × ω} (henough : Enough policy deadline fuel (Host.now s.1.host)) (hs : I s) :
    After (poll policy deadline try_ fuel number interval) s Q := by
  induction fuel generalizing number interval s with
  | zero => exact absurd henough.1 (by omega)
  | succ fuel ih =>
    cases hrun : try_ number s with
    | error e s' =>
      rw [After, poll_fault hrun]
      exact ((htry number s hs).error hrun).1
    | ok r s' =>
      obtain ⟨hQ, hI⟩ := (htry number s hs).ok hrun
      cases r with
      | ok a =>
        rw [After, poll_decided hrun]
        exact hQ
      | error seen =>
        cases hover : deadline.isOver (Host.now s'.1.host) with
        | true =>
          rw [After, poll_over hrun hover]
          exact hQ
        | false =>
          obtain ⟨hs', htime⟩ := hI seen rfl
          have hpos : 0 < interval := lt_of_lt_of_le (RetryPolicy.zero_lt_leastInterval h) hinterval
          have htick :=
            (after_sleep_ticking hticking (deadline.zero_le_sleep hpos.le (Host.now s'.1.host)) s'.1).world
          refine after_poll_again hrun hover ((hsleep _ s' hs').and htick) (fun s₂ hs₂ => ?_) fun e s₂ hs₂ => hs₂.1.2 e rfl
          exact ih (number + 1) (RetryPolicy.leastInterval_le_after h hinterval)
            (henough.next htime hover hinterval (hs₂.2.1 rfl)) (hs₂.1.1 rfl)

/-- The rule for a wait on a clock that ticks. -/
theorem after_pollFor_ticking (hticking : Host.Ticking σ) (h : policy.Sleeps) {timeout : Rat}
    {try_ : Deadline Rat → Nat → On σ Rat ω (Except β α)} {I : World σ Rat × ω → Prop}
    {Q : Except (Fault Rat) (Except β α) → World σ Rat × ω → Prop}
    (htry : ∀ deadline number s, I s → After (try_ deadline number) s fun r s' => Q r s' ∧
      ∀ seen, r = .ok (.error seen) → I s' ∧ Host.now s.1.host ≤ Host.now s'.1.host)
    (hsleep : ∀ seconds s, I s → After (world (sleep seconds)) s fun r s' =>
      (r = .ok () → I s') ∧ ∀ e, r = .error e → Q (.error e) s')
    {s : World σ Rat × ω} (hs : I s) : After (pollFor policy timeout try_) s Q :=
  after_poll_ticking hticking h (htry _) hsleep _ _ policy.leastInterval_le_interval
    (enough_start h _ timeout) hs

end

end ProxyTestbed
