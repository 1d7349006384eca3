import ProxyTestbed.Proofs.Backend.Leak
import ProxyTestbed.Proofs.Wait.Loops
import ProxyTestbed.Proofs.Wait.Timetable

/-!
# Bounds of the waits

The four waits are the same loop, so what holds of the rounds of every loop holds of each of them.

* `waits_onTime`: no wait outlives its deadline by more than one attempt.
* `waits_counted`: every wait makes a bounded number of attempts.
-/

namespace ProxyTestbed

/-- What is said of rounds: by which policy, from when on and for how long a wait goes on, its rounds, the
outcome of its loop, and when the last attempt has ended. -/
abbrev OfRounds : Type 1 :=
  (β α : Type) → RetryPolicy Rat → Rat → Rat → List Round → Except (Fault Rat) (Except β α) → Rat → Prop

/-- Each of the four waits comes to an end, through rounds that `P` holds of. -/
structure EveryWait (σ : Type) [Host σ Rat] (P : OfRounds) : Prop where
  reachable : ∀ (host : String) (port : Int) (timeout settle connectTimeout : Rat)
    (given : Option (RetryPolicy Rat)) (w : World σ Rat),
    0 ≤ timeout → (∀ policy, given = some policy → policy.Sleeps) →
    After (Wait.untilReachable host port timeout given settle connectTimeout) w fun r w' =>
      ∃ policy rounds outcome w₂, Wait.Takes given timeout policy ∧
        Wait.ReachableBy host port timeout settle connectTimeout policy w rounds outcome w₂ r w' ∧
        P Nat Nat policy w.time timeout rounds outcome w₂.time
  logged : ∀ (container : Container) (name needle : String) (policy : RetryPolicy Rat) (w : World σ Rat),
    policy.Sleeps →
    After (Wait.untilLogged container name needle policy) w fun r w' =>
      ∃ rounds outcome, Wait.LoggedBy container name needle policy w rounds outcome r w' ∧
        P Unit Unit policy w.time policy.timeout rounds outcome w'.time
  accepted : ∀ {ω α : Type} (action : On σ Rat ω α) (accepts : α → On σ Rat ω Bool)
    (observe : α → Observation) (policy : RetryPolicy Rat) (condition : String) (s : World σ Rat × ω),
    policy.Sleeps → Keeps (Beside Onward) action → (∀ a, Keeps (Beside Onward) (accepts a)) →
    After (Wait.eventually action accepts observe policy condition) s fun r s' =>
      ∃ rounds outcome,
        Wait.AcceptedBy action accepts observe policy condition s rounds outcome r s' ∧
        P Observation α policy s.1.time policy.timeout rounds outcome s'.1.time
  listening : ∀ (policy : RetryPolicy Rat) (s : World σ Rat × Backend Rat), policy.Sleeps →
    After (Backend.waitListening policy) s fun r s' =>
      ∃ rounds outcome s₂, Backend.ListeningBy policy s rounds outcome s₂ r s' ∧
        P Unit Unit policy s.1.time policy.timeout rounds outcome s₂.1.time

section

variable {σ : Type} [Host σ Rat]

/-- What holds of the rounds of every loop, holds of every wait. -/
theorem everyWait (hexact : Host.Exact σ) {P : OfRounds}
    (hP : ∀ {ω β α : Type} {policy : RetryPolicy Rat} {timeout : Rat}
      {try_ : Deadline Rat → Nat → On σ Rat ω (Except β α)} {s s' : World σ Rat × ω} {rounds : List Round}
      {outcome : Except (Fault Rat) (Except β α)}, policy.Sleeps → 0 ≤ timeout →
      (∀ deadline number, Keeps (Beside Onward) (try_ deadline number)) →
      RoundsFor policy timeout try_ s rounds outcome s' →
      P β α policy s.1.time timeout rounds outcome s'.1.time) : EveryWait σ P where
  reachable host port timeout settle connectTimeout given w htimeout hsleeps := by
    refine (Wait.after_untilReachable_rounds hexact htimeout hsleeps host port settle connectTimeout w).mono ?_
    rintro r w' ⟨policy, rounds, outcome, w₂, htakes, hsleeps, hby⟩
    obtain ⟨w₁, hlogs, hloop⟩ := hby.loop
    refine ⟨policy, rounds, outcome, w₂, htakes, hby, ?_⟩
    rw [← hlogs.time]
    exact hP hsleeps htimeout (Wait.keeps_connectOnce hexact.steady.keeps_ask host port connectTimeout) hloop
  logged container name needle policy w hsleeps := by
    refine (Wait.after_untilLogged_rounds hexact.steady hsleeps container name needle w).mono ?_
    rintro r w' ⟨rounds, outcome, hby⟩
    have htry := Wait.keeps_lookOnce hexact.steady.keeps_ask (fun _ _ => Logs.onward) container name needle
    exact ⟨rounds, outcome, hby, hP hsleeps policy.zero_le_timeout htry hby.loop⟩
  accepted action accepts observe policy condition s hsleeps haction haccepts := by
    refine (Wait.after_eventually_rounds hexact.steady hsleeps haction haccepts observe condition s).mono ?_
    rintro r s' ⟨rounds, outcome, hby⟩
    have htry := Wait.keeps_actOnce haction haccepts observe
    exact ⟨rounds, outcome, hby, hP hsleeps policy.zero_le_timeout htry hby.loop⟩
  listening policy s hsleeps := by
    refine (Backend.after_waitListening_rounds hexact.steady hsleeps s).mono ?_
    rintro r s' ⟨rounds, outcome, s₂, hby⟩
    have htry := Backend.keeps_checkListening (fun r _ => hexact.steady.keeps_ask r) fun _ _ => Logs.onward
    have hrounds := hP hsleeps policy.zero_le_timeout (fun _ _ => htry) hby.loop
    exact ⟨rounds, outcome, s₂, hby, hrounds⟩

/-- **No wait outlives its deadline by more than one attempt.** The first attempt comes before any sleep, no
attempt begins after the deadline, the sleeps between attempts take some time, but not more than their
intervals and than what is left, and only at the deadline a wait is given up. -/
theorem waits_onTime (hexact : Host.Exact σ) : EveryWait σ fun _ _ => OnTime :=
  everyWait hexact fun hsleeps htimeout htry hloop => hloop.onTime hexact hsleeps htimeout htry

end

theorem Backend.BrokenDaemon.exact : Host.Exact Backend.BrokenDaemon where
  sleep _ _ _ := rfl
  answer r h := by rw [Backend.BrokenDaemon.answer_snd]
  rests _ _ _ := rfl

/-- A wait for a port that refuses all connections, on a clock that shows nothing. -/
theorem waits_onTime_refused :
    After (Wait.untilReachable "localhost" 80 1 none 2 1)
      (⟨⟨0⟩, ⟨[], []⟩, []⟩ : World Backend.BrokenDaemon Rat) fun r w' =>
        w'.time = 1 ∧ ∃ policy rounds outcome w₂, Wait.Takes none 1 policy ∧
          Wait.ReachableBy "localhost" 80 1 2 1 policy ⟨⟨0⟩, ⟨[], []⟩, []⟩ rounds outcome w₂ r w' ∧
          OnTime policy 0 1 rounds outcome w₂.time := by
  have hwait := (waits_onTime Backend.BrokenDaemon.exact).reachable "localhost" 80 1 2 1 none ⟨⟨0⟩, ⟨[], []⟩, []⟩
    (by decide +kernel) (by simp)
  have htime : After (Wait.untilReachable "localhost" 80 1 none 2 1)
      (⟨⟨0⟩, ⟨[], []⟩, []⟩ : World Backend.BrokenDaemon Rat) fun _ w' => w'.host.clock = 1 := by
    decide +kernel
  exact (htime.and hwait).mono fun r w' h => h

section

variable {σ : Type} [Host σ Rat]

/-- **Every wait makes a bounded number of attempts.** There is one for each least interval that fits into the
timeout, and one more; with a fixed policy, and attempts that decide nothing and take no time, there are just
as many, and the wait is given up at the deadline. -/
theorem waits_counted (hexact : Host.Exact σ) : EveryWait σ fun _ _ => Counted :=
  everyWait hexact fun hsleeps htimeout htry hloop => hloop.counted hexact hsleeps htimeout htry

end

/-- A condition that never holds is tried four times in one second, if it is tried every two fifths. -/
theorem waits_counted_never :
    ∃ policy, RetryPolicy.fixed 1 (2 / 5) = .ok policy ∧
      After (Wait.eventually (pure ()) (fun _ => pure false) (fun _ => .nothing) policy "a condition")
        ((⟨⟨0⟩, ⟨[], []⟩, []⟩, ()) : World Backend.BrokenDaemon Rat × Unit) fun _ s' =>
          s'.1.time = 1 ∧ ∃ rounds outcome, GaveUp outcome ∧ rounds.length = 4 ∧
            RoundsFor policy 1 (Wait.actOnce (pure ()) (fun _ => pure false) fun _ => .nothing)
              (⟨⟨0⟩, ⟨[], []⟩, []⟩, ()) rounds outcome s' := by
  obtain ⟨policy, hpolicy, hsleeps⟩ :=
    RetryPolicy.exists_fixed (show (0 : Rat) ≤ 1 by norm_num) (show (0 : Rat) < 2 / 5 by norm_num)
  obtain ⟨htimeout, hinterval, _, _⟩ := RetryPolicy.of_fixed hpolicy
  have hwait := (waits_counted Backend.BrokenDaemon.exact).accepted (pure ()) (fun _ => pure false)
    (fun _ => .nothing) policy "a condition" (⟨⟨0⟩, ⟨[], []⟩, []⟩, ()) hsleeps (.pure ()) fun _ => .pure false
  refine ⟨policy, hpolicy, hwait.mono ?_⟩
  rintro r s' ⟨rounds, outcome, hby, hcounted⟩
  have hloop := hby.loop
  have htry (deadline : Deadline Rat) (number : Nat) (s : World Backend.BrokenDaemon Rat × Unit) :
      After (Wait.actOnce (pure ()) (fun _ => pure false) (fun _ => .nothing) deadline number) s
        fun r s' => GaveUp r ∧ s'.1.time = s.1.time :=
    ⟨⟨_, rfl⟩, rfl⟩
  have hidle : ∀ x ∈ rounds, x.decided = false ∧ x.ended = x.begun := hloop.idle (htry _)
  obtain ⟨hgaveUp, hlength, hfinish⟩ := hcounted.idle (RetryPolicy.isFixed_of_fixed hpolicy) hidle
  rw [htimeout] at hloop hlength hfinish
  rw [hinterval] at hlength
  refine ⟨hfinish.trans (zero_add 1), rounds, outcome, hgaveUp, ?_, hloop⟩
  have hceil : ⌈(1 : Rat) / (2 / 5)⌉₊ = 3 := by
    rw [Nat.ceil_eq_iff (by norm_num)]
    norm_num
  rw [hlength, hceil]

end ProxyTestbed
