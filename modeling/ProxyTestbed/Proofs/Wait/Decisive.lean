import ProxyTestbed.Proofs.Wait.Rounds

/-!
# The decisive attempt of a wait

A wait makes attempts until one of them decides something, or comes at the deadline or past it. What an
attempt did is told by a value, from which its outcome can be read. `GoesOn` lists the attempts after which a
loop goes on, and `Stops` adds the one that the loop stops at. Nothing is assumed of the clock or of the policy,
so the sleep after an attempt may also be refused, and a loop may run out of the attempts that are followed; on a
steady clock neither happens.

* `GoesOn.forall_mem`, `Stops.finds`: what all attempts after which a loop goes on have in common, and what is
  found in the events of a loop.
* `after_pollFor_stops`: a wait stops at its first decisive attempt, or a sleep is refused, or the wait runs out of
  attempts. How many attempts are followed is up to the type of the seconds, which may let it be any number.
* `not_runsOut`, `not_disturbed_steady`: on a clock that ticks, no wait runs out of attempts; on a steady one, none is
  disturbed either.
* `GoesOn.time_le`: on an exact clock, no attempt begins after the deadline.
-/

namespace ProxyTestbed

variable {σ τ ω α β γ : Type}

section

variable [Seconds τ] [Host σ τ]

/-- From `s` a loop makes attempts, of which the first has a number, and goes on after each of them, up to `s'`:
the attempt decides nothing, and ends before the deadline; one sleep follows, as long as the interval, or as the
time that is left. `tells s x s'` says that from `s` to `s'` one attempt did `x`. -/
inductive GoesOn (policy : RetryPolicy τ) (deadline : Deadline τ)
    (tells : World σ τ × ω → γ → World σ τ × ω → Prop) (outcome : γ → Except (Fault τ) (Except β α)) :
    Nat → World σ τ × ω → List γ → World σ τ × ω → Prop
  | stop (number : Nat) (s : World σ τ × ω) : GoesOn policy deadline tells outcome number s [] s
  | next {number : Nat} {s s₁ s₂ s' : World σ τ × ω} {x : γ} {rest : List γ} (htells : tells s x s₁)
      (hundecided : GaveUp (outcome x)) (hearly : deadline.isOver s₁.1.time = false)
      (hsleep : world (sleep (Seconds.least (policy.nth number) (deadline.remaining s₁.1.time))) s₁ = .ok () s₂)
      (hrest : GoesOn policy deadline tells outcome (number + 1) s₂ rest s') :
      GoesOn policy deadline tells outcome number s (x :: rest) s'

/-- From `s` a loop goes on after some attempts, of which the first has a number, and stops at the one after them,
which ends at `s'`. If that one decides nothing, it ends at the deadline or past it. -/
structure Stops (policy : RetryPolicy τ) (deadline : Deadline τ)
    (tells : World σ τ × ω → γ → World σ τ × ω → Prop) (outcome : γ → Except (Fault τ) (Except β α)) (number : Nat)
    (s : World σ τ × ω) (earlier : List γ) (last : γ) (s' : World σ τ × ω) : Prop where
  attempts : ∃ s₁, GoesOn policy deadline tells outcome number s earlier s₁ ∧ tells s₁ last s'
  late : GaveUp (outcome last) → deadline.isOver s'.1.time = true

/-- The attempts of a wait that begins at `s`. -/
abbrev StopsFor (policy : RetryPolicy τ) (timeout : τ) (tells : World σ τ × ω → γ → World σ τ × ω → Prop)
    (outcome : γ → Except (Fault τ) (Except β α)) (s : World σ τ × ω) :
    List γ → γ → World σ τ × ω → Prop :=
  Stops policy (Deadline.start s.1.time timeout) tells outcome 0 s

/-- A wait that begins at `s` goes on after every attempt that is followed. -/
structure RunsOut (policy : RetryPolicy τ) (timeout : τ) (tells : World σ τ × ω → γ → World σ τ × ω → Prop)
    (outcome : γ → Except (Fault τ) (Except β α)) (s : World σ τ × ω) (earlier : List γ)
    (s' : World σ τ × ω) : Prop where
  attempts : GoesOn policy (Deadline.start s.1.time timeout) tells outcome 0 s earlier s'
  length : earlier.length = Seconds.attempts timeout policy.leastInterval

/-- From `s` a loop goes on after some attempts, of which the first has a number; the one after them decides nothing
either, and ends before the deadline, but then the sleep is refused. -/
structure Disturbed (policy : RetryPolicy τ) (deadline : Deadline τ)
    (tells : World σ τ × ω → γ → World σ τ × ω → Prop) (outcome : γ → Except (Fault τ) (Except β α)) (number : Nat)
    (s : World σ τ × ω) (earlier : List γ) (last : γ) (cause : Foreign) (s' : World σ τ × ω) : Prop where
  attempts : ∃ s₁ s₂, GoesOn policy deadline tells outcome number s earlier s₁ ∧ tells s₁ last s₂ ∧
    deadline.isOver s₂.1.time = false ∧
    world (sleep (Seconds.least (policy.nth (number + earlier.length)) (deadline.remaining s₂.1.time))) s₂ =
      .error (.foreign cause) s'
  undecided : GaveUp (outcome last)

/-- The attempts of a wait that begins at `s`, up to a sleep that is refused. -/
abbrev DisturbedFor (policy : RetryPolicy τ) (timeout : τ) (tells : World σ τ × ω → γ → World σ τ × ω → Prop)
    (outcome : γ → Except (Fault τ) (Except β α)) (s : World σ τ × ω) :
    List γ → γ → Foreign → World σ τ × ω → Prop :=
  Disturbed policy (Deadline.start s.1.time timeout) tells outcome 0 s

variable {policy : RetryPolicy τ} {deadline : Deadline τ} {tells : World σ τ × ω → γ → World σ τ × ω → Prop}
  {outcome : γ → Except (Fault τ) (Except β α)}

/-- What holds of every attempt that decides nothing, holds of those after which a loop goes on. -/
theorem GoesOn.forall_mem {p : γ → Prop} (hp : ∀ s x s', tells s x s' → GaveUp (outcome x) → p x) {number : Nat}
    {s s' : World σ τ × ω} {earlier : List γ} (h : GoesOn policy deadline tells outcome number s earlier s') :
    ∀ x ∈ earlier, p x := by
  induction h with
  | stop => simp
  | next htells hundecided _ _ _ ih => exact List.forall_mem_cons.mpr ⟨hp _ _ _ htells hundecided, ih⟩

theorem Disturbed.forall_mem {p : γ → Prop} (hp : ∀ s x s', tells s x s' → GaveUp (outcome x) → p x) {number : Nat}
    {s s' : World σ τ × ω} {earlier : List γ} {last : γ} {cause : Foreign}
    (h : Disturbed policy deadline tells outcome number s earlier last cause s') : ∀ x ∈ earlier ++ [last], p x := by
  obtain ⟨s₁, s₂, hgoes, hlast, -, -⟩ := h.attempts
  exact List.forall_mem_append.mpr ⟨hgoes.forall_mem hp, by simpa using hp _ _ _ hlast h.undecided⟩

/-- The sleep that is refused is the one after the last attempt. -/
theorem Disturbed.refused {number : Nat} {s s' : World σ τ × ω} {earlier : List γ} {last : γ} {cause : Foreign}
    (h : Disturbed policy deadline tells outcome number s earlier last cause s') :
    ∃ (time : τ) (host : σ), Host.refusal
      (Seconds.least (policy.nth (number + earlier.length)) (deadline.remaining time)) host = some cause := by
  obtain ⟨s₁, s₂, -, -, -, hsleep⟩ := h.attempts
  obtain ⟨cause', hrefusal, ⟨⟩, -⟩ := of_sleep_error (of_world_error hsleep).1
  exact ⟨_, _, hrefusal⟩

section

variable {δ : Type} {pick : Event τ → Option δ} {found : γ → List δ}
  (hpick : ∀ e : Event τ, (∀ r a, e ≠ .asked r a) → pick e = none)
  (hfound : ∀ s x s', tells s x s' → Finds pick s.1 (found x) s'.1)

include hpick hfound

/-- Where a loop goes on, nothing is found but what is found in its attempts. -/
theorem GoesOn.finds {number : Nat} {s s' : World σ τ × ω} {earlier : List γ}
    (h : GoesOn policy deadline tells outcome number s earlier s') :
    Finds pick s.1 (earlier.reverse.flatMap found) s'.1 := by
  induction h with
  | stop number s => exact (refl_of Logs s.1).finds hpick
  | @next number s s₁ s₂ s' x rest htells _ _ hsleep _ ih =>
    have hslept : Finds pick s₁.1 [] s₂.1 := finds_slept hpick (of_world_ok hsleep).1
    have hall := ((hfound _ _ _ htells).trans hslept).trans ih
    rw [List.nil_append] at hall
    rw [List.reverse_cons, List.flatMap_append, List.flatMap_singleton]
    exact hall

theorem Stops.finds {number : Nat} {s s' : World σ τ × ω} {earlier : List γ} {last : γ}
    (h : Stops policy deadline tells outcome number s earlier last s') :
    Finds pick s.1 ((earlier ++ [last]).reverse.flatMap found) s'.1 := by
  obtain ⟨s₁, hgoes, hlast⟩ := h.attempts
  rw [List.reverse_append, List.flatMap_append, List.reverse_singleton, List.flatMap_singleton]
  exact (hgoes.finds hpick hfound).trans (hfound _ _ _ hlast)

/-- Nothing is found in the refusal of a sleep, if it is not looked for. -/
theorem Disturbed.finds (hsleepless : ∀ seconds a, pick (.asked (.sleep seconds) a) = none) {number : Nat}
    {s s' : World σ τ × ω} {earlier : List γ} {last : γ} {cause : Foreign}
    (h : Disturbed policy deadline tells outcome number s earlier last cause s') :
    Finds pick s.1 ((earlier ++ [last]).reverse.flatMap found) s'.1 := by
  obtain ⟨s₁, s₂, hgoes, hlast, -, hrefused⟩ := h.attempts
  obtain ⟨-, -, -, hpast⟩ := of_sleep_error (of_world_error hrefused).1
  have hquiet : Finds pick s₂.1 [] s'.1 := by
    have hrefusal : Finds pick s₂.1 (pick _).toList s'.1 := finds_asked hpast
    rwa [hsleepless] at hrefusal
  rw [List.reverse_append, List.flatMap_append, List.reverse_singleton, List.flatMap_singleton]
  exact ((hgoes.finds hpick hfound).trans (hfound _ _ _ hlast)).trans hquiet

end

/-- Of a loop that is followed for `fuel` attempts: it stops at one of them and ends in its outcome, or a sleep is
refused and that ends it, or it goes on after all of them. -/
inductive Followed (policy : RetryPolicy τ) (deadline : Deadline τ) (tells : World σ τ × ω → γ → World σ τ × ω → Prop)
    (outcome : γ → Except (Fault τ) (Except β α)) (fuel number : Nat) (s : World σ τ × ω) :
    Except (Fault τ) (Except β α) → World σ τ × ω → Prop
  | stopped {earlier : List γ} {last : γ} {s' : World σ τ × ω}
      (h : Stops policy deadline tells outcome number s earlier last s') :
      Followed policy deadline tells outcome fuel number s (outcome last) s'
  | disturbed {earlier : List γ} {last : γ} {cause : Foreign} {s' : World σ τ × ω}
      (h : Disturbed policy deadline tells outcome number s earlier last cause s') :
      Followed policy deadline tells outcome fuel number s (.error (.foreign cause)) s'
  | stalled {earlier : List γ} {s' : World σ τ × ω} (h : GoesOn policy deadline tells outcome number s earlier s')
      (hlength : earlier.length = fuel) : Followed policy deadline tells outcome fuel number s (.error .stalled) s'

theorem Followed.next {fuel number : Nat} {s s₁ s₂ s' : World σ τ × ω} {x : γ} {r : Except (Fault τ) (Except β α)}
    (htells : tells s x s₁) (hundecided : GaveUp (outcome x)) (hearly : deadline.isOver s₁.1.time = false)
    (hsleep : world (sleep (Seconds.least (policy.nth number) (deadline.remaining s₁.1.time))) s₁ = .ok () s₂)
    (h : Followed policy deadline tells outcome fuel (number + 1) s₂ r s') :
    Followed policy deadline tells outcome (fuel + 1) number s r s' := by
  cases h with
  | stopped h =>
    obtain ⟨⟨s₃, hgoes, hlast⟩, hlate⟩ := h
    exact .stopped ⟨⟨s₃, .next htells hundecided hearly hsleep hgoes, hlast⟩, hlate⟩
  | @disturbed earlier last cause s' h =>
    obtain ⟨⟨s₃, s₄, hgoes, hlast, hearly', hrefused⟩, hundecided'⟩ := h
    have hnumber : number + 1 + earlier.length = number + (x :: earlier).length := by
      rw [List.length_cons]
      omega
    rw [hnumber] at hrefused
    exact .disturbed ⟨⟨s₃, s₄, .next htells hundecided hearly hsleep hgoes, hlast, hearly', hrefused⟩, hundecided'⟩
  | stalled h hlength =>
    refine .stalled (.next htells hundecided hearly hsleep h) ?_
    rw [List.length_cons, hlength]

theorem after_poll_stops {try_ : Nat → On σ τ ω (Except β α)} {I : World σ τ × ω → Prop}
    (htry : ∀ number s, I s → After (try_ number) s fun r s' => I s' ∧ ∃ x, tells s x s' ∧ outcome x = r)
    (hsleep : ∀ seconds s, I s → After (world (sleep seconds)) s fun _ s' => I s') (fuel number : Nat)
    {s : World σ τ × ω} (hs : I s) :
    After (poll policy deadline try_ fuel number (policy.nth number)) s
      (Followed policy deadline tells outcome fuel number s) := by
  induction fuel generalizing number s with
  | zero => exact after_throw (.stalled (.stop number s) rfl)
  | succ fuel ih =>
    have hstop {r : Except (Fault τ) (Except β α)} {s' : World σ τ × ω} {x : γ} (hx : tells s x s')
        (houtcome : outcome x = r) (hlate : GaveUp r → deadline.isOver s'.1.time = true) :
        Followed policy deadline tells outcome (fuel + 1) number s r s' := by
      subst houtcome
      exact .stopped ⟨⟨s, .stop number s, hx⟩, hlate⟩
    cases hrun : try_ number s with
    | error e s' =>
      obtain ⟨-, x, hx, houtcome⟩ := (htry number s hs).error hrun
      rw [After, poll_fault hrun]
      exact hstop hx houtcome (by simp [GaveUp])
    | ok r s₁ =>
      obtain ⟨hs₁, x, hx, houtcome⟩ := (htry number s hs).ok hrun
      cases r with
      | ok a =>
        rw [After, poll_decided hrun]
        exact hstop hx houtcome (by simp [GaveUp])
      | error seen =>
        cases hover : deadline.isOver s₁.1.time with
        | true =>
          rw [After, poll_over hrun hover]
          exact hstop hx houtcome fun _ => hover
        | false =>
          refine after_poll_again hrun hover ((after_run _ s₁).and (hsleep _ s₁ hs₁)) (fun s₂ hpost => ?_)
            fun e s₂ hpost => ?_
          · exact (ih (number + 1) hpost.2).mono fun r s' h => h.next hx ⟨seen, houtcome⟩ hover (of_attempt_ok hpost.1)
          · have hrefused := of_attempt_error hpost.1
            obtain ⟨cause, -, rfl, -⟩ := of_sleep_error (of_world_error hrefused).1
            have hdisturbed : Disturbed policy deadline tells outcome number s [] x cause s₂ :=
              ⟨⟨s, s₁, .stop number s, hx, hover, hrefused⟩, seen, houtcome⟩
            exact .disturbed hdisturbed

/-- A wait stops at its first decisive attempt, or a sleep is refused, or it runs out of attempts. The invariant holds
before every attempt. -/
theorem after_pollFor_stops_within {timeout : τ} {try_ : Deadline τ → Nat → On σ τ ω (Except β α)}
    {I : World σ τ × ω → Prop} {s : World σ τ × ω}
    (htry : ∀ number s₁, I s₁ → After (try_ (Deadline.start s.1.time timeout) number) s₁ fun r s' =>
      I s' ∧ ∃ x, tells s₁ x s' ∧ outcome x = r)
    (hsleep : ∀ seconds s₁, I s₁ → After (world (sleep seconds)) s₁ fun _ s' => I s') (hs : I s) :
    After (pollFor policy timeout try_) s fun r s' =>
      (∃ earlier last, StopsFor policy timeout tells outcome s earlier last s' ∧ r = outcome last) ∨
        (∃ earlier last cause, DisturbedFor policy timeout tells outcome s earlier last cause s' ∧
          r = .error (.foreign cause)) ∨
        r = .error .stalled ∧ ∃ earlier, RunsOut policy timeout tells outcome s earlier s' := by
  have hloop : After (pollFor policy timeout try_) s (Followed policy (Deadline.start s.1.time timeout) tells
      outcome (Seconds.attempts timeout policy.leastInterval) 0 s) :=
    after_poll_stops htry hsleep _ 0 hs
  refine hloop.mono fun r s' h => ?_
  cases h with
  | stopped h => exact .inl ⟨_, _, h, rfl⟩
  | disturbed h => exact .inr (.inl ⟨_, _, _, h, rfl⟩)
  | stalled h hlength => exact .inr (.inr ⟨rfl, _, h, hlength⟩)

theorem after_pollFor_stops {timeout : τ} {try_ : Deadline τ → Nat → On σ τ ω (Except β α)} {s : World σ τ × ω}
    (htry : ∀ number s₁, After (try_ (Deadline.start s.1.time timeout) number) s₁ fun r s' =>
      ∃ x, tells s₁ x s' ∧ outcome x = r) :
    After (pollFor policy timeout try_) s fun r s' =>
      (∃ earlier last, StopsFor policy timeout tells outcome s earlier last s' ∧ r = outcome last) ∨
        (∃ earlier last cause, DisturbedFor policy timeout tells outcome s earlier last cause s' ∧
          r = .error (.foreign cause)) ∨
        r = .error .stalled ∧ ∃ earlier, RunsOut policy timeout tells outcome s earlier s' :=
  after_pollFor_stops_within (I := fun _ => True)
    (fun number s₁ _ => (htry number s₁).mono fun _ _ hx => ⟨trivial, hx⟩) (fun _ _ _ => after_trivial) trivial

end

/-! ## On a steady clock -/

section

variable [Host σ Rat] {policy : RetryPolicy Rat} {deadline : Deadline Rat}
  {tells : World σ Rat × ω → γ → World σ Rat × ω → Prop} {outcome : γ → Except (Fault Rat) (Except β α)}

/-- On an exact clock, no attempt of a loop begins after the deadline. -/
theorem GoesOn.time_le (hexact : Host.Exact σ) (hsleeps : policy.Sleeps) {number : Nat} {s s' : World σ Rat × ω}
    {earlier : List γ} (h : GoesOn policy deadline tells outcome number s earlier s')
    (hs : s.1.time ≤ deadline.expires) : s'.1.time ≤ deadline.expires := by
  induction h with
  | stop => exact hs
  | @next number s s₁ s₂ s' x rest _ _ hearly hsleep _ ih =>
    refine ih ?_
    have hnonneg := deadline.zero_le_sleep (RetryPolicy.zero_lt_nth hsleeps number).le s₁.1.time
    rw [time_sleep hexact hnonneg (of_world_ok hsleep).1, Deadline.remaining_of_not_isOver hearly, Seconds.least_rat]
    have hleft := min_le_right (policy.nth number) (deadline.expires - s₁.1.time)
    linarith

theorem not_disturbed_steady (hsteady : Host.Steady σ) (hsleeps : policy.Sleeps) {number : Nat} {s s' : World σ Rat × ω}
    {earlier : List γ} {last : γ} {cause : Foreign} :
    ¬ Disturbed policy deadline tells outcome number s earlier last cause s' := by
  intro h
  obtain ⟨time, host, hrefusal⟩ := h.refused
  have hpos := RetryPolicy.zero_lt_nth hsleeps (number + earlier.length)
  rw [hsteady.rests _ _ (deadline.zero_le_sleep hpos.le _)] at hrefusal
  cases hrefusal

variable (hticking : Host.Ticking σ) (hsleeps : policy.Sleeps) (honward : ∀ s x s', tells s x s' → Onward s.1 s'.1)

include hticking hsleeps honward

/-- The time of a wait runs out before the attempts that are followed do. -/
theorem GoesOn.length_lt {number fuel : Nat} {s s' : World σ Rat × ω} {earlier : List γ}
    (h : GoesOn policy deadline tells outcome number s earlier s') (henough : Enough policy deadline fuel s.1.time) :
    earlier.length < fuel := by
  induction h generalizing fuel with
  | stop => exact henough.1
  | @next number s s₁ s₂ s' x rest htells _ hearly hsleep _ ih =>
    cases fuel with
    | zero => exact absurd henough.1 (by omega)
    | succ fuel =>
      have hslept : s₁.1.time + Seconds.least (policy.nth number) (deadline.remaining s₁.1.time) ≤ s₂.1.time := by
        rw [(of_sleep_ok (of_world_ok hsleep).1).2]
        exact hticking.sleep _ _ (deadline.zero_le_sleep (RetryPolicy.zero_lt_nth hsleeps number).le _)
      have hrest := ih (henough.next (honward _ _ _ htells) hearly (RetryPolicy.leastInterval_le_nth hsleeps number)
        hslept)
      rw [List.length_cons]
      omega

theorem not_runsOut {timeout : Rat} (s : World σ Rat × ω) (earlier : List γ) (s' : World σ Rat × ω) :
    ¬ RunsOut policy timeout tells outcome s earlier s' := by
  intro h
  have hlt := h.attempts.length_lt hticking hsleeps honward (enough_start hsleeps s.1.time timeout)
  have hlength := h.length
  omega

omit hticking in
/-- The rule for a wait on a steady clock. -/
theorem after_pollFor_stops_steady (hsteady : Host.Steady σ) {timeout : Rat}
    {try_ : Deadline Rat → Nat → On σ Rat ω (Except β α)} {s : World σ Rat × ω}
    (htry : ∀ number s₁, After (try_ (Deadline.start s.1.time timeout) number) s₁ fun r s' =>
      ∃ x, tells s₁ x s' ∧ outcome x = r) :
    After (pollFor policy timeout try_) s fun r s' =>
      ∃ earlier last, StopsFor policy timeout tells outcome s earlier last s' ∧ r = outcome last := by
  refine (after_pollFor_stops htry).mono fun r s' hends => ?_
  obtain hstops | ⟨earlier, last, cause, hdisturbed, -⟩ | ⟨-, earlier, hrunsOut⟩ := hends
  · exact hstops
  · exact absurd hdisturbed (not_disturbed_steady hsteady hsleeps)
  · exact absurd hrunsOut (not_runsOut hsteady.toTicking hsleeps honward s earlier s')

end

end ProxyTestbed
