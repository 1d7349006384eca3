import ProxyTestbed.Proofs.Wait.Steady

/-!
# The rounds of a wait

A wait goes in rounds: an attempt, and then a sleep, unless the attempt was the last one. `Rounds` says which
rounds a loop goes through, with no bound on their number, and `Round` keeps the times of one of them.

* `after_pollFor_rounds`: on a steady clock, a wait goes through rounds to its end.
* `Rounds.gaveUp_iff`, `Rounds.idle`: what the outcome says about the attempts, and the attempts about rounds.
-/

namespace ProxyTestbed

/-- The time on the clock of a world. -/
def World.time {σ τ : Type} [Host σ τ] (w : World σ τ) : τ :=
  Host.now w.host

/-- A sleep moves the clock on by its length, and is refused only if that is negative; and no answer turns the clock
back. -/
structure Host.Exact (σ : Type) [Host σ Rat] : Prop where
  sleep : ∀ (seconds : Rat) (h : σ), 0 ≤ seconds → now (sleep seconds h) = now h + seconds
  answer : ∀ (r : Request Rat) (h : σ), now h ≤ now (answer r h).2
  rests : ∀ (seconds : Rat) (h : σ), 0 ≤ seconds → refusal seconds h = none

/-- One attempt of a wait, and how long the wait slept after it, if it was not the last one. -/
structure Round where
  begun : Rat
  ended : Rat
  /-- The attempt decided something, or it failed. -/
  decided : Bool
  slept : Option Rat

/-- No attempt decided anything. -/
def GaveUp {τ α β : Type} (outcome : Except (Fault τ) (Except β α)) : Prop :=
  ∃ seen, outcome = .ok (.error seen)

section

variable {σ ω α β : Type} [Host σ Rat]

theorem Logs.time {w w' : World σ Rat} (h : Logs w w') : w'.time = w.time := by
  obtain ⟨es, rfl, _⟩ := h
  rfl

theorem Host.Exact.steady (h : Host.Exact σ) : Host.Steady σ where
  sleep seconds host hseconds := le_of_eq (h.sleep seconds host hseconds).symm
  answer := h.answer
  rests := h.rests

/-- On a steady clock, a sleep of no negative length is not refused. -/
theorem after_sleep_steady (hsteady : Host.Steady σ) {seconds : Rat} (h : 0 ≤ seconds) (w : World σ Rat) :
    After (sleep seconds) w fun r w' => r = .ok () ∧ w.time + seconds ≤ w'.time := by
  have htick := (after_sleep_ticking hsteady.toTicking h w).and (after_sleep seconds w)
  refine htick.mono fun r w' hpost => ?_
  obtain ⟨htime, ⟨-, hr, -⟩ | ⟨e, hrefusal, -, -⟩⟩ := hpost
  · exact ⟨hr, htime hr⟩
  · cases (hsteady.rests seconds w.host h).symm.trans hrefusal

theorem time_sleep (hexact : Host.Exact σ) {seconds : Rat} (h : 0 ≤ seconds) {w w' : World σ Rat}
    (hsleep : sleep seconds w = .ok () w') : w'.time = w.time + seconds := by
  rw [(of_sleep_ok hsleep).2]
  exact hexact.sleep seconds w.host h

/-- From `s` a loop goes through rounds, of which the first has a number, and ends in an outcome at `s'`. An
attempt that decides something, or fails, is the last one, and so is one that ends at the deadline or past
it. -/
inductive Rounds (policy : RetryPolicy Rat) (deadline : Deadline Rat)
    (try_ : Nat → On σ Rat ω (Except β α)) :
    Nat → World σ Rat × ω → List Round → Except (Fault Rat) (Except β α) → World σ Rat × ω → Prop
  | last (decided : Bool) {number : Nat} {s s' : World σ Rat × ω} {outcome : Except (Fault Rat) (Except β α)}
      (hrun : attempt (try_ number) s = .ok outcome s') (hdecided : decided = false ↔ GaveUp outcome)
      (hover : GaveUp outcome → deadline.isOver s'.1.time = true) :
      Rounds policy deadline try_ number s [⟨s.1.time, s'.1.time, decided, none⟩] outcome s'
  | again {number : Nat} {s s₁ s₂ s' : World σ Rat × ω} {seen : β} {seconds : Rat} {rounds : List Round}
      {outcome : Except (Fault Rat) (Except β α)} (hrun : try_ number s = .ok (.error seen) s₁)
      (hover : deadline.isOver s₁.1.time = false)
      (hseconds : seconds = Seconds.least (policy.nth number) (deadline.remaining s₁.1.time))
      (hsleep : world (sleep seconds) s₁ = .ok () s₂)
      (hrest : Rounds policy deadline try_ (number + 1) s₂ rounds outcome s') :
      Rounds policy deadline try_ number s (⟨s.1.time, s₁.1.time, false, some seconds⟩ :: rounds) outcome s'

/-- The rounds of a wait that begins at `s`. -/
abbrev RoundsFor (policy : RetryPolicy Rat) (timeout : Rat)
    (try_ : Deadline Rat → Nat → On σ Rat ω (Except β α)) (s : World σ Rat × ω) :
    List Round → Except (Fault Rat) (Except β α) → World σ Rat × ω → Prop :=
  Rounds policy (Deadline.start s.1.time timeout) (try_ (Deadline.start s.1.time timeout)) 0 s

namespace RetryPolicy

variable {policy : RetryPolicy Rat}

theorem leastInterval_le_nth (h : policy.Sleeps) (number : Nat) :
    policy.leastInterval ≤ policy.nth number := by
  induction number with
  | zero => exact policy.leastInterval_le_interval
  | succ number ih => exact leastInterval_le_after h ih

theorem zero_lt_nth (h : policy.Sleeps) (number : Nat) : 0 < policy.nth number :=
  lt_of_lt_of_le (zero_lt_leastInterval h) (leastInterval_le_nth h number)

theorem zero_le_timeout (policy : RetryPolicy Rat) : 0 ≤ policy.timeout := by
  have h := policy.not_negative
  rw [Seconds.zero_rat] at h
  exact not_lt.mp h

/-- The intervals of the policy stay the same. -/
def IsFixed (policy : RetryPolicy Rat) : Prop :=
  ∀ number, policy.nth number = policy.interval

theorem of_fixed {timeout interval : Rat} (h : fixed timeout interval = .ok policy) :
    policy.timeout = timeout ∧ policy.interval = interval ∧ policy.backoff = usualBackoff ∧
      policy.maxInterval = none := by
  unfold fixed make at h
  split at h
  · cases h
  · split at h
    · cases h
    · split at h
      · cases h
      · cases h
        exact ⟨rfl, rfl, rfl, rfl⟩

theorem isFixed_of_fixed {timeout interval : Rat} (h : fixed timeout interval = .ok policy) :
    policy.IsFixed := by
  obtain ⟨_, _, hbackoff, hmax⟩ := of_fixed h
  intro number
  induction number with
  | zero => rfl
  | succ number ih =>
    rw [nth_succ, ih, after, hmax, hbackoff]
    show policy.interval * (1.0 : Rat) = policy.interval
    rw [Seconds.one_rat, mul_one]

end RetryPolicy

variable {policy : RetryPolicy Rat} {deadline : Deadline Rat} {try_ : Nat → On σ Rat ω (Except β α)}

/-! ## A loop goes through rounds -/

/-- As long as there are enough attempts, a loop goes through rounds to its end. -/
theorem after_poll_rounds (hsteady : Host.Steady σ) (h : policy.Sleeps)
    (htry : ∀ number, Keeps (Beside Onward) (try_ number)) (fuel number : Nat) {s : World σ Rat × ω}
    (henough : Enough policy deadline fuel s.1.time) :
    After (poll policy deadline try_ fuel number (policy.nth number)) s fun outcome s' =>
      ∃ rounds, Rounds policy deadline try_ number s rounds outcome s' := by
  -- on the attempts that are left: `Enough` says that the time runs out before they do
  induction fuel generalizing number s with
  | zero => exact absurd henough.1 (by omega)
  | succ fuel ih =>
    cases hrun : try_ number s with
    | error e s' =>
      rw [After, poll_fault hrun]
      exact ⟨_, .last true (by simp only [attempt, hrun]) (by simp [GaveUp]) (by simp [GaveUp])⟩
    | ok r s₁ =>
      have hattempt : attempt (try_ number) s = .ok (.ok r) s₁ := by simp only [attempt, hrun]
      cases r with
      | ok a =>
        rw [After, poll_decided hrun]
        exact ⟨_, .last true hattempt (by simp [GaveUp]) (by simp [GaveUp])⟩
      | error seen =>
        cases hover : deadline.isOver s₁.1.time with
        | true =>
          rw [After, poll_over hrun hover]
          exact ⟨_, .last false hattempt (by simp [GaveUp]) fun _ => hover⟩
        | false =>
          have hnonneg := deadline.zero_le_sleep (RetryPolicy.zero_lt_nth h number).le s₁.1.time
          have hsleep := (after_run _ s₁).and (after_sleep_steady hsteady hnonneg s₁.1).world
          refine after_poll_again hrun hover hsleep (fun s₂ hpost => ?_) fun e s₂ hpost => ?_
          · obtain ⟨hslept, ⟨-, htime⟩, -⟩ := hpost
            have henough₂ : Enough policy deadline fuel s₂.1.time :=
              henough.next ((htry number).of_ok hrun) hover (RetryPolicy.leastInterval_le_nth h number) htime
            refine (ih (number + 1) henough₂).mono ?_
            rintro outcome s' ⟨rounds, hrounds⟩
            exact ⟨_, .again hrun hover rfl (of_attempt_ok hslept) hrounds⟩
          · obtain ⟨-, ⟨hno, -⟩, -⟩ := hpost
            cases hno

/-- On a steady clock a wait goes through rounds to its end. -/
theorem after_pollFor_rounds (hsteady : Host.Steady σ) (h : policy.Sleeps) (timeout : Rat)
    {try_ : Deadline Rat → Nat → On σ Rat ω (Except β α)}
    (htry : ∀ deadline number, Keeps (Beside Onward) (try_ deadline number)) (s : World σ Rat × ω) :
    After (pollFor policy timeout try_) s fun outcome s' =>
      ∃ rounds, RoundsFor policy timeout try_ s rounds outcome s' :=
  after_poll_rounds hsteady h (htry _) _ 0 (enough_start h s.1.time timeout)

/-! ## Attempts and rounds -/

section

variable {number : Nat} {s s' : World σ Rat × ω} {rounds : List Round}
  {outcome : Except (Fault Rat) (Except β α)}

/-- A loop gives up if and only if no attempt is decisive. -/
theorem Rounds.gaveUp_iff (hrounds : Rounds policy deadline try_ number s rounds outcome s') :
    GaveUp outcome ↔ ∀ x ∈ rounds, x.decided = false := by
  induction hrounds with
  | last _ _ hdecided _ => simp [hdecided]
  | again _ _ _ _ _ ih => simp [ih]

/-- Attempts that decide nothing and take no time make idle rounds. -/
theorem Rounds.idle (hidle : ∀ number s, After (try_ number) s fun r s' =>
      GaveUp r ∧ s'.1.time = s.1.time)
    (hrounds : Rounds policy deadline try_ number s rounds outcome s') :
    ∀ x ∈ rounds, x.decided = false ∧ x.ended = x.begun := by
  induction hrounds with
  | @last decided number s s' outcome hrun hdecided _ =>
    obtain ⟨hgaveUp, htime⟩ := (hidle number s).attempted hrun
    simpa using ⟨hdecided.mpr hgaveUp, htime⟩
  | @again number s s₁ s₂ s' seen seconds rounds outcome hrun _ _ _ _ ih =>
    exact List.forall_mem_cons.mpr ⟨⟨rfl, ((hidle number s).ok hrun).2⟩, ih⟩

end

end

end ProxyTestbed
