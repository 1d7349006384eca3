import ProxyTestbed.Proofs.Backend.Requests
import ProxyTestbed.Proofs.Wait.Rounds

/-!
# The rounds of the four waits

A wait for a port, for a line in a log, for a condition or for a backend is a loop with an attempt of its own,
and an end that the outcome of the loop decides. For each of them, a `...By` says which rounds it went through
and how it ended.

* `after_untilReachable_rounds`, `after_untilLogged_rounds`, `after_eventually_rounds`,
  `after_waitListening_rounds`: on a steady clock, each wait goes through rounds to its end.
-/

namespace ProxyTestbed

variable {σ τ ω α β γ : Type}

/-- What a wait ends in, from the outcome of its loop: a result, the report of what the last attempt saw, or
the fault of an attempt. -/
def verdict (result : α → γ) (report : β → Fault τ) :
    Except (Fault τ) (Except β α) → Except (Fault τ) γ
  | .ok (.ok a) => .ok (result a)
  | .ok (.error seen) => .error (report seen)
  | .error e => .error e

theorem verdict_eq_ok_iff {result : α → γ} {report : β → Fault τ} {outcome : Except (Fault τ) (Except β α)} {c : γ} :
    verdict result report outcome = .ok c ↔ ∃ a, outcome = .ok (.ok a) ∧ result a = c := by
  unfold verdict
  split <;> simp

/-- A verdict is a fault of the loop, or the report. -/
theorem of_verdict_eq_error {F : Fault τ → Prop} {result : α → γ} {report : β → Fault τ}
    {outcome : Except (Fault τ) (Except β α)} (hreport : ∀ seen, F (report seen))
    (hfault : ∀ e, outcome = .error e → F e) {e : Fault τ} (h : verdict result report outcome = .error e) : F e := by
  unfold verdict at h
  split at h
  · cases h
  · cases h
    exact hreport _
  · cases h
    exact hfault _ rfl

namespace Wait

section

variable [Seconds τ] [Host σ τ]

/-! ## Attempts -/

/-- One attempt of a wait for a port. -/
def connectOnce (host : String) (port : Int) (connectTimeout : τ) (deadline : Deadline τ) (number : Nat) :
    On σ τ Unit (Except Nat Nat) := do
  let left := deadline.remaining (← world now)
  let up ← world (Socket.accepts host port (connectTime connectTimeout left))
  return if up then .ok (number + 1) else .error (number + 1)

/-- One attempt of a wait for a line. -/
def lookOnce (container : Container) (name needle : String) (_ : Deadline τ) (_ : Nat) :
    On σ τ Unit (Except Unit Unit) := do
  let logs := Text.ofBytes (← world (docker (.logs container .all)))
  if Text.occursIn needle.toList logs.toList then
    world (record .info .sync s!"{name} logged {Text.quoted needle}")
    return .ok ()
  else
    let report ← world (docker (.inspect container))
    if hasExited report.status then
      throw (.provisioning (.exited name needle (Text.tail logs Text.logTailLines)))
    else return .error ()

theorem hasExited_iff {status : String} : hasExited status = true ↔ status = "exited" ∨ status = "dead" := by
  simp [hasExited]

/-- One attempt of a wait for a condition. -/
def actOnce (action : On σ τ ω α) (accepts : α → On σ τ ω Bool) (observe : α → Observation)
    (_ : Deadline τ) (_ : Nat) : On σ τ ω (Except Observation α) := do
  match ← attempt action with
  | .ok result => if ← accepts result then return .ok result else return .error (observe result)
  | .error (.probe p) => return .error (.problem p)
  | .error e => throw e

section

variable {R : World σ τ → World σ τ → Prop} [IsPreorder (World σ τ) R]
  (hask : ∀ r : Request τ, Keeps R (ask r : Act σ τ r.Answer))

include hask

theorem keeps_connectOnce (host : String) (port : Int) (connectTimeout : τ) (deadline : Deadline τ)
    (number : Nat) : Keeps (Beside R) (connectOnce host port connectTimeout deadline number) := by
  have hnow : Keeps R (now : Act σ τ τ) := fun w => refl_of R w
  refine hnow.world.beside.bind fun _ => ?_
  exact (Socket.keeps_accepts (fun r _ => hask r) host port _).world.beside.bind fun _ => .pure _

omit [Seconds τ] in
theorem keeps_lookOnce (hlogs : ∀ w w' : World σ τ, Logs w w' → R w w') (container : Container)
    (name needle : String) (deadline : Deadline τ) (number : Nat) :
    Keeps (Beside R) (lookOnce container name needle deadline number) := by
  refine (hask _).world.beside.bind fun _ => .ite ?_ ?_
  · exact (keeps_record_of hlogs _ _ _).world.beside.bind fun _ => .pure _
  · exact (hask _).world.beside.bind fun _ => .ite (.throw _) (.pure _)

end

omit [Seconds τ] [Host σ τ] in
theorem keeps_actOnce {R : World σ τ × ω → World σ τ × ω → Prop} [IsPreorder (World σ τ × ω) R]
    {action : On σ τ ω α} {accepts : α → On σ τ ω Bool} (haction : Keeps R action)
    (haccepts : ∀ a, Keeps R (accepts a)) (observe : α → Observation) (deadline : Deadline τ) (number : Nat) :
    Keeps R (actOnce action accepts observe deadline number) := by
  refine haction.attempt.bind fun r => ?_
  split
  · exact (haccepts _).bind fun _ => .ite (.pure _) (.pure _)
  · exact .pure _
  · exact .throw _

end

/-! ## Waits as their loops -/

section

variable [Seconds τ] [Host σ τ]

/-- What is behind a port is given some time to settle, unless that sleep is refused. -/
def Settles (settle : τ) (w : World σ τ) (r : Except (Fault τ) Unit) (w' : World σ τ) : Prop :=
  ∃ w₁, Logs w w₁ ∧ attempt (if 0.0 < settle then sleep settle else pure () : Act σ τ Unit) w₁ = .ok r w'

/-- A wait for a port ends as its loop does, or if the port is reached, as settling does. -/
theorem after_untilReachable_of {P : Except (Fault τ) (Except Nat Nat) → World σ τ × Unit → Prop} {host : String}
    {port : Int} {timeout settle connectTimeout : τ} {policy : RetryPolicy τ} {w : World σ τ}
    (hloop : ∀ w₁, Logs w w₁ → After (pollFor policy timeout (connectOnce host port connectTimeout)) (w₁, ()) P) :
    After (untilReachable host port timeout (some policy) settle connectTimeout) w fun r w' =>
      ∃ outcome w₂, P outcome (w₂, ()) ∧
        ((∃ attempts, outcome = .ok (.ok attempts) ∧ Settles settle w₂ r w') ∨
          (∀ attempts, outcome ≠ .ok (.ok attempts)) ∧ w' = w₂ ∧ r = verdict (fun _ => ()) (fun attempts =>
            .notReady s!"{host}:{port}" timeout s!"{attempts} connection attempt(s) refused") outcome) := by
  rw [untilReachable, pure_bind]
  refine after_record_act_bind fun w₁ hlogs => ?_
  refine after_bind (P := fun x w₂ => ∃ outcome, x = .ok (outcome, ()) ∧ P outcome (w₂, ()))
    (after_start ((hloop w₁ hlogs).mono fun outcome s hP => ⟨outcome, rfl, hP⟩)) ?_ (by simp)
  intro x w₂ hloop
  obtain ⟨outcome, hx, hP⟩ := hloop
  cases hx
  refine after_conclude_bind (fun seen houtcome => ?_) fun e houtcome => ?_
  · subst houtcome
    cases seen with
    | error attempts => exact after_throw ⟨_, w₂, hP, .inr ⟨by simp, rfl, rfl⟩⟩
    | ok attempts =>
      refine after_record_act_bind fun w₃ hlogs₃ => (after_run _ w₃).mono fun r w₄ hrun => ?_
      exact ⟨_, w₂, hP, .inl ⟨attempts, rfl, w₃, hlogs₃, hrun⟩⟩
  · exact ⟨outcome, w₂, hP, .inr ⟨by simp [houtcome], rfl, by rw [houtcome, verdict]⟩⟩

/-- A wait for a line ends as its loop does. -/
theorem after_untilLogged_of {P : Except (Fault τ) (Except Unit Unit) → World σ τ × Unit → Prop}
    {container : Container} {name needle : String} {policy : RetryPolicy τ} {w : World σ τ}
    (hloop : After (pollFor policy policy.timeout (lookOnce container name needle)) (w, ()) P) :
    After (untilLogged container name needle policy) w fun r w' => ∃ outcome, P outcome (w', ()) ∧
      r = verdict id
        (fun _ => .notReady name policy.timeout s!"log line {Text.quoted needle} never appeared") outcome := by
  refine after_bind (P := fun x w₂ => ∃ outcome, x = .ok (outcome, ()) ∧ P outcome (w₂, ()))
    (after_start (hloop.mono fun outcome s hP => ⟨outcome, rfl, hP⟩)) ?_ (by simp)
  intro x w₂ hloop
  obtain ⟨outcome, hx, hP⟩ := hloop
  cases hx
  refine after_conclude_bind (fun seen houtcome => ?_) fun e houtcome => ?_
  · subst houtcome
    cases seen with
    | error _ => exact after_throw ⟨_, hP, rfl⟩
    | ok _ => exact after_pure ⟨_, hP, rfl⟩
  · exact ⟨outcome, hP, by rw [houtcome, verdict]⟩

/-- A wait for a condition ends as its loop does. -/
theorem after_eventually_of {P : Except (Fault τ) (Except Observation α) → World σ τ × ω → Prop}
    {action : On σ τ ω α} {accepts : α → On σ τ ω Bool} {observe : α → Observation} {policy : RetryPolicy τ}
    {condition : String} {s : World σ τ × ω}
    (hloop : After (pollFor policy policy.timeout (actOnce action accepts observe)) s P) :
    After (eventually action accepts observe policy condition) s fun r s' => ∃ outcome, P outcome s' ∧
      r = verdict id (fun last => .notConverged condition policy.timeout last) outcome := by
  refine after_bind hloop ?_ fun e s' hP => ⟨_, hP, rfl⟩
  intro outcome s' hP
  cases outcome with
  | error _ => exact after_throw ⟨_, hP, rfl⟩
  | ok _ => exact after_pure ⟨_, hP, rfl⟩

end

/-! ## For a port -/

section

variable [Host σ Rat]

/-- The policy that a wait for a port is made with: the given one, or else a fixed one. -/
def Takes (given : Option (RetryPolicy Rat)) (timeout : Rat) (policy : RetryPolicy Rat) : Prop :=
  match given with
  | some p => p = policy
  | none => RetryPolicy.fixed timeout RetryPolicy.usualInterval = .ok policy

/-- What a wait for a port did: it wrote log records, went through rounds up to `w₂`, and let what is behind
the port settle, unless it failed. -/
structure ReachableBy (host : String) (port : Int) (timeout settle connectTimeout : Rat)
    (policy : RetryPolicy Rat) (w : World σ Rat) (rounds : List Round)
    (outcome : Except (Fault Rat) (Except Nat Nat)) (w₂ : World σ Rat) (r : Except (Fault Rat) Unit)
    (w' : World σ Rat) : Prop where
  loop : ∃ w₁, Logs w w₁ ∧ RoundsFor policy timeout (connectOnce host port connectTimeout) (w₁, ())
    rounds outcome (w₂, ())
  /-- What is reported is the number of attempts. -/
  number : ∀ attempts, outcome = .ok (.error attempts) → attempts = rounds.length
  verdict : r = verdict (fun _ => ())
    (fun attempts => .notReady s!"{host}:{port}" timeout s!"{attempts} connection attempt(s) refused") outcome
  settled : r = .ok () → w'.time = w₂.time + max settle 0
  failed : ∀ e, r = .error e → w' = w₂

variable {policy : RetryPolicy Rat}

theorem after_connectOnce_number (host : String) (port : Int) (connectTimeout : Rat) (deadline : Deadline Rat)
    (number : Nat) (s : World σ Rat × Unit) :
    After (connectOnce host port connectTimeout deadline number) s fun r _ =>
      ∀ attempts, r = .ok (.error attempts) → attempts = number + 1 := by
  refine after_bind (after_run _ s) (fun left s₁ _ => ?_) (by simp)
  refine after_bind (after_run _ s₁) (fun up s₂ _ => after_pure ?_) (by simp)
  cases up with
  | true => simp
  | false => simp [eq_comm]

/-- A loop that gives up reports the number of the last attempt, counted from one. -/
theorem number_of_rounds {host : String} {port : Int} {connectTimeout : Rat} {deadline : Deadline Rat}
    {number : Nat} {s s' : World σ Rat × Unit} {rounds : List Round}
    {outcome : Except (Fault Rat) (Except Nat Nat)}
    (h : Rounds policy deadline (connectOnce host port connectTimeout deadline) number s rounds outcome s')
    {attempts : Nat} (hgaveUp : outcome = .ok (.error attempts)) : attempts = number + rounds.length := by
  induction h with
  | @last decided number s s' outcome hrun _ _ =>
    exact (after_connectOnce_number host port connectTimeout deadline number s).attempted hrun attempts hgaveUp
  | again _ _ _ _ _ ih =>
    rw [ih hgaveUp, List.length_cons]
    omega

theorem exists_takes {timeout : Rat} (htimeout : 0 ≤ timeout) {given : Option (RetryPolicy Rat)}
    (hsleeps : ∀ policy, given = some policy → policy.Sleeps) :
    ∃ policy, Takes given timeout policy ∧ policy.Sleeps := by
  cases given with
  | some policy => exact ⟨policy, rfl, hsleeps policy rfl⟩
  | none => exact RetryPolicy.exists_fixed htimeout (by decide +kernel)

theorem untilReachable_eq {given : Option (RetryPolicy Rat)} {timeout : Rat} (h : Takes given timeout policy)
    (host : String) (port : Int) (settle connectTimeout : Rat) :
    (untilReachable host port timeout given settle connectTimeout : Act σ Rat Unit) =
      untilReachable host port timeout (some policy) settle connectTimeout := by
  cases given with
  | some p => rw [show p = policy from h]
  | none =>
    unfold untilReachable
    dsimp only
    rw [show RetryPolicy.fixed timeout RetryPolicy.usualInterval = .ok policy from h, policyOr]

/-- On an exact clock, settling takes its time. -/
theorem Settles.time (hexact : Host.Exact σ) {settle : Rat} {w w' : World σ Rat} {r : Except (Fault Rat) Unit}
    (h : Settles settle w r w') : r = .ok () ∧ w'.time = w.time + max settle 0 := by
  obtain ⟨w₁, hlogs, hrun⟩ := h
  have hsettle : After (if 0.0 < settle then sleep settle else pure () : Act σ Rat Unit) w₁ fun r w' =>
      r = .ok () ∧ w'.time = w₁.time + max settle 0 := by
    rw [Seconds.zero_rat]
    refine after_ite (fun hpos => ?_) fun hnonpos => after_pure ⟨rfl, ?_⟩
    · rw [max_eq_left hpos.le]
      refine (after_sleep_steady hexact.steady hpos.le w₁).and (after_run _ w₁) |>.mono fun r w' hpost => ?_
      obtain ⟨⟨rfl, -⟩, hslept⟩ := hpost
      exact ⟨rfl, time_sleep hexact hpos.le (of_attempt_ok hslept)⟩
    · rw [max_eq_right (not_lt.mp hnonpos), add_zero]
  rw [← hlogs.time]
  exact hsettle.attempted hrun

/-- On an exact clock, a wait for a port ends as its loop does. -/
theorem verdict_of_exact (hexact : Host.Exact σ) {settle : Rat} {w₂ w' : World σ Rat} {r : Except (Fault Rat) Unit}
    {outcome : Except (Fault Rat) (Except β α)} {report : β → Fault Rat}
    (hends : (∃ a, outcome = .ok (.ok a) ∧ Settles settle w₂ r w') ∨
      (∀ a, outcome ≠ .ok (.ok a)) ∧ w' = w₂ ∧ r = verdict (fun _ => ()) report outcome) :
    r = verdict (fun _ => ()) report outcome ∧ (r = .ok () → w'.time = w₂.time + max settle 0) ∧
      ∀ e, r = .error e → w' = w₂ := by
  rcases hends with ⟨a, rfl, hsettles⟩ | ⟨hunreached, rfl, rfl⟩
  · obtain ⟨rfl, htime⟩ := hsettles.time hexact
    exact ⟨rfl, fun _ => htime, by simp⟩
  · refine ⟨rfl, fun hok => ?_, fun _ _ => rfl⟩
    obtain ⟨a, houtcome, _⟩ := verdict_eq_ok_iff.mp hok
    exact absurd houtcome (hunreached a)

theorem after_untilReachable_rounds (hexact : Host.Exact σ) {timeout : Rat} (htimeout : 0 ≤ timeout)
    {given : Option (RetryPolicy Rat)} (hsleeps : ∀ policy, given = some policy → policy.Sleeps)
    (host : String) (port : Int) (settle connectTimeout : Rat) (w : World σ Rat) :
    After (untilReachable host port timeout given settle connectTimeout) w fun r w' =>
      ∃ policy rounds outcome w₂, Takes given timeout policy ∧ policy.Sleeps ∧
        ReachableBy host port timeout settle connectTimeout policy w rounds outcome w₂ r w' := by
  obtain ⟨policy, htakes, hsleeps⟩ := exists_takes htimeout hsleeps
  have htry (deadline : Deadline Rat) (number : Nat) :
      Keeps (Beside Onward) (connectOnce host port connectTimeout deadline number : On σ Rat Unit _) :=
    keeps_connectOnce hexact.steady.keeps_ask host port connectTimeout deadline number
  have hloop (w₁ : World σ Rat) (hlogs : Logs w w₁) :
      After (pollFor policy timeout (connectOnce host port connectTimeout)) (w₁, ()) fun outcome s =>
        ∃ w₁ rounds, Logs w w₁ ∧
          RoundsFor policy timeout (connectOnce host port connectTimeout) (w₁, ()) rounds outcome s :=
    (after_pollFor_rounds hexact.steady hsleeps timeout htry (w₁, ())).mono
      fun outcome s ⟨rounds, hrounds⟩ => ⟨w₁, rounds, hlogs, hrounds⟩
  rw [untilReachable_eq htakes]
  refine (after_untilReachable_of hloop).mono fun r w' hends => ?_
  obtain ⟨outcome, w₂, ⟨w₁, rounds, hlogs, hrounds⟩, hends⟩ := hends
  obtain ⟨hr, htime, hfailed⟩ := verdict_of_exact hexact hends
  refine ⟨policy, rounds, outcome, w₂, htakes, hsleeps, ⟨w₁, hlogs, hrounds⟩, ?_, hr, htime, hfailed⟩
  intro attempts hgaveUp
  rw [number_of_rounds hrounds hgaveUp, Nat.zero_add]

/-! ## For a line in a log -/

/-- What a wait for a line did: it went through rounds, and then ended at once. -/
structure LoggedBy (container : Container) (name needle : String) (policy : RetryPolicy Rat) (w : World σ Rat)
    (rounds : List Round) (outcome : Except (Fault Rat) (Except Unit Unit)) (r : Except (Fault Rat) Unit)
    (w' : World σ Rat) : Prop where
  loop : RoundsFor policy policy.timeout (lookOnce container name needle) (w, ()) rounds outcome (w', ())
  verdict : r = verdict id
    (fun _ => .notReady name policy.timeout s!"log line {Text.quoted needle} never appeared") outcome

theorem after_untilLogged_rounds (hsteady : Host.Steady σ) (hsleeps : policy.Sleeps) (container : Container)
    (name needle : String) (w : World σ Rat) :
    After (untilLogged container name needle policy) w fun r w' =>
      ∃ rounds outcome, LoggedBy container name needle policy w rounds outcome r w' := by
  have htry (deadline : Deadline Rat) (number : Nat) :
      Keeps (Beside Onward) (lookOnce container name needle deadline number : On σ Rat Unit _) :=
    keeps_lookOnce hsteady.keeps_ask (fun _ _ => Logs.onward) container name needle deadline number
  have hloop := after_pollFor_rounds hsteady hsleeps policy.timeout htry (w, ())
  refine (after_untilLogged_of hloop).mono fun r w' hends => ?_
  obtain ⟨outcome, ⟨rounds, hrounds⟩, hr⟩ := hends
  exact ⟨rounds, outcome, hrounds, hr⟩

/-! ## For a condition -/

/-- What a wait for a condition did: it went through rounds, and then ended at once. -/
structure AcceptedBy (action : On σ Rat ω α) (accepts : α → On σ Rat ω Bool) (observe : α → Observation)
    (policy : RetryPolicy Rat) (condition : String) (s : World σ Rat × ω) (rounds : List Round)
    (outcome : Except (Fault Rat) (Except Observation α)) (r : Except (Fault Rat) α)
    (s' : World σ Rat × ω) : Prop where
  loop : RoundsFor policy policy.timeout (actOnce action accepts observe) s rounds outcome s'
  verdict : r = verdict id (fun last => .notConverged condition policy.timeout last) outcome

theorem after_eventually_rounds (hsteady : Host.Steady σ) (hsleeps : policy.Sleeps) {action : On σ Rat ω α}
    {accepts : α → On σ Rat ω Bool} (haction : Keeps (Beside Onward) action)
    (haccepts : ∀ a, Keeps (Beside Onward) (accepts a)) (observe : α → Observation) (condition : String)
    (s : World σ Rat × ω) :
    After (eventually action accepts observe policy condition) s fun r s' =>
      ∃ rounds outcome, AcceptedBy action accepts observe policy condition s rounds outcome r s' := by
  have hloop := after_pollFor_rounds hsteady hsleeps policy.timeout
    (fun deadline number => keeps_actOnce haction haccepts observe deadline number) s
  refine (after_eventually_of hloop).mono fun r s' hends => ?_
  obtain ⟨outcome, ⟨rounds, hrounds⟩, hr⟩ := hends
  exact ⟨rounds, outcome, hrounds, hr⟩

end

end Wait

/-! ## For a backend -/

namespace Backend

section

variable [Seconds τ] [Host σ τ]

/-- A wait for a backend ends as its loop does, after a request for the logs if it gave up. -/
theorem after_waitListening_of {P : Except (Fault τ) (Except Unit Unit) → World σ τ × Backend τ → Prop}
    {policy : RetryPolicy τ} {s : World σ τ × Backend τ}
    (hloop : After (pollFor policy policy.timeout fun _ _ => checkListening)
      (s.1, { s.2 with state := .starting }) P) :
    After (waitListening policy) s fun r s' => ∃ outcome s₂, P outcome s₂ ∧
      (∀ u, outcome = .ok (.ok u) → r = .ok () ∧ s' = s₂) ∧
      (∀ e, outcome = .error e → r = .error e ∧ s' = s₂) ∧
      (GaveUp outcome → ∃ logs, attempt lastLogs s₂ = .ok logs s' ∧
        r = logs.bind fun text => .error (s₂.2.late text)) := by
  refine after_change_bind (after_bind hloop ?_ ?_)
  · intro outcome s₂ hP
    cases outcome with
    | ok u => exact after_pure ⟨_, s₂, hP, fun _ _ => ⟨rfl, rfl⟩, by simp, by simp [GaveUp]⟩
    | error seen =>
      refine after_object_bind (after_bind (after_run lastLogs s₂) ?_ ?_)
      · exact fun text s₃ hlogs => after_throw ⟨_, s₂, hP, by simp, by simp, fun _ => ⟨_, hlogs, rfl⟩⟩
      · exact fun e s₃ hlogs => ⟨_, s₂, hP, by simp, by simp, fun _ => ⟨_, hlogs, rfl⟩⟩
  · intro e s₂ hP
    refine ⟨_, s₂, hP, by simp, fun e' he => ?_, by simp [GaveUp]⟩
    cases he
    exact ⟨rfl, rfl⟩

end

variable [Host σ Rat] {policy : RetryPolicy Rat}

/-- What a wait for a backend did: it went through rounds up to `s₂`, and then ended at once, unless it gave up
and asked for the logs first. -/
structure ListeningBy (policy : RetryPolicy Rat) (s : World σ Rat × Backend Rat) (rounds : List Round)
    (outcome : Except (Fault Rat) (Except Unit Unit)) (s₂ : World σ Rat × Backend Rat)
    (r : Except (Fault Rat) Unit) (s' : World σ Rat × Backend Rat) : Prop where
  loop : RoundsFor policy policy.timeout (fun _ _ => checkListening) (s.1, { s.2 with state := .starting })
    rounds outcome s₂
  decided : ∀ u, outcome = .ok (.ok u) → r = .ok () ∧ s' = s₂
  failed : ∀ e, outcome = .error e → r = .error e ∧ s' = s₂
  gaveUp : GaveUp outcome → ∃ logs, attempt lastLogs s₂ = .ok logs s' ∧
    r = logs.bind fun text => .error (s₂.2.late text)
  /-- Nothing but the request for the logs comes after the rounds. -/
  asked : GaveUp outcome →
    s'.1.host = (Host.answer (.docker (.logs s₂.2.container (.lines Text.logTailLines))) s₂.1.host).2

theorem after_lastLogs_host (s : World σ Rat × Backend Rat) :
    After lastLogs s fun _ s' =>
      s'.1.host = (Host.answer (.docker (.logs s.2.container (.lines Text.logTailLines))) s.1.host).2 := by
  refine after_object_bind (after_attempt_bind (after_docker _ s.1).world fun r s₁ hpost => ?_)
  obtain ⟨⟨_, _, hhost, _⟩, _⟩ := hpost
  cases r with
  | ok content => exact after_pure hhost
  | error e => exact after_ite (fun _ => after_pure hhost) fun _ => after_throw hhost

theorem after_waitListening_rounds (hsteady : Host.Steady σ) (hsleeps : policy.Sleeps)
    (s : World σ Rat × Backend Rat) :
    After (waitListening policy) s fun r s' =>
      ∃ rounds outcome s₂, ListeningBy policy s rounds outcome s₂ r s' := by
  have htry : Keeps (Beside Onward) (checkListening : On σ Rat (Backend Rat) _) :=
    keeps_checkListening (fun r _ => hsteady.keeps_ask r) fun _ _ => Logs.onward
  have hloop := after_pollFor_rounds hsteady hsleeps policy.timeout (fun _ _ => htry)
    (s.1, { s.2 with state := .starting })
  refine (after_waitListening_of hloop).mono fun r s' hends => ?_
  obtain ⟨outcome, s₂, ⟨rounds, hrounds⟩, hdecided, hfailed, hgaveUp⟩ := hends
  refine ⟨rounds, outcome, s₂, hrounds, hdecided, hfailed, hgaveUp, fun h => ?_⟩
  obtain ⟨logs, hlogs, -⟩ := hgaveUp h
  exact (after_lastLogs_host s₂).attempted hlogs

end Backend

end ProxyTestbed
