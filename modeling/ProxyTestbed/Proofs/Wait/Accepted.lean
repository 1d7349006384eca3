import ProxyTestbed.Proofs.Wait.Constant
import ProxyTestbed.Proofs.Wait.Decisive
import ProxyTestbed.Proofs.Wait.Loops

/-!
# The decisive trial of a condition

A trial of a condition calls an action, and if the action returns, a test on its result. A wait for a condition
makes trials, with nothing but sleeps between them, and ends by the last one: in a result that the test accepts,
in a fault other than that of a probe, or in a fault of the test. If the last trial decides nothing, its result,
or its probe problem, is what the wait reports.

* `eventually_firstDecisive`: a wait for a condition ends by its first decisive trial.
-/

namespace ProxyTestbed.Wait

variable {σ τ ω α : Type}

/-- What a trial of a condition came to: the action raised a fault, or the test judged its result, or raised a
fault over it. -/
inductive Trial (τ α : Type)
  | failed (fault : Fault τ)
  | judged (result : α) (accepted : Except (Fault τ) Bool)

namespace Trial

/-- What a wait concludes from a trial. -/
def outcome (observe : α → Observation) : Trial τ α → Except (Fault τ) (Except Observation α)
  | failed (.probe problem) => .ok (.error (.problem problem))
  | failed fault => .error fault
  | judged result (.ok true) => .ok (.ok result)
  | judged result (.ok false) => .ok (.error (observe result))
  | judged _ (.error fault) => .error fault

/-- One trial leads from `s` to `s'`: one call of the action, and one of the test if the action returns. -/
inductive Happens (action : On σ τ ω α) (accepts : α → On σ τ ω Bool) :
    World σ τ × ω → Trial τ α → World σ τ × ω → Prop
  | failed {s s' : World σ τ × ω} {fault : Fault τ} (haction : action s = .error fault s') :
      Happens action accepts s (.failed fault) s'
  | judged {s s₁ s' : World σ τ × ω} {result : α} {accepted : Except (Fault τ) Bool}
      (haction : action s = .ok result s₁) (htest : attempt (accepts result) s₁ = .ok accepted s') :
      Happens action accepts s (.judged result accepted) s'

end Trial

/-- One attempt of a wait for a condition is one trial. -/
theorem after_actOnce_trial (action : On σ τ ω α) (accepts : α → On σ τ ω Bool) (observe : α → Observation)
    (deadline : Deadline τ) (number : Nat) (s : World σ τ × ω) :
    After (actOnce action accepts observe deadline number) s fun r s' =>
      ∃ trial, Trial.Happens action accepts s trial s' ∧ trial.outcome observe = r := by
  refine after_attempt_run fun answer s₁ haction => ?_
  cases answer with
  | error fault =>
    have htrial : Trial.Happens action accepts s (.failed fault) s₁ := .failed (of_attempt_error haction)
    cases fault with
    | probe problem => exact after_pure ⟨_, htrial, rfl⟩
    | _ => exact after_throw ⟨_, htrial, rfl⟩
  | ok result =>
    have hresult := of_attempt_ok haction
    refine after_bind (after_run (accepts result) s₁) (fun accepted s' htest => ?_) fun fault s' htest => ?_
    · have htrial := Trial.Happens.judged hresult htest
      cases accepted with
      | true => exact after_pure ⟨_, htrial, rfl⟩
      | false => exact after_pure ⟨_, htrial, rfl⟩
    · exact ⟨_, .judged hresult htest, rfl⟩

theorem Trial.Happens.keeps {R : World σ τ × ω → World σ τ × ω → Prop} [IsPreorder (World σ τ × ω) R]
    {action : On σ τ ω α} {accepts : α → On σ τ ω Bool} (haction : Keeps R action) (haccepts : ∀ a, Keeps R (accepts a))
    {s s' : World σ τ × ω} {trial : Trial τ α} (h : Trial.Happens action accepts s trial s') : R s s' := by
  cases h with
  | failed hfault => exact (haction s).error hfault
  | judged hresult htest => exact trans_of R (haction.of_ok hresult) ((haccepts _ _).attempted htest)

/-- **A wait for a condition ends by its first decisive trial.** Earlier ones decide nothing and end before the
deadline, and a trial that decides something does so even past it. Only the refusal of a sleep ends a wait before that,
with its own error. On a steady clock no sleep is refused; without one, a wait may also go on for more trials than are
followed. -/
theorem eventually_firstDecisive :
    (∀ {σ τ ω α : Type} [Seconds τ] [Host σ τ] (action : On σ τ ω α) (accepts : α → On σ τ ω Bool)
      (observe : α → Observation) (policy : RetryPolicy τ) (condition : String) (s : World σ τ × ω),
      After (eventually action accepts observe policy condition) s fun r s' =>
        (∃ earlier last,
          StopsFor policy policy.timeout (Trial.Happens action accepts) (Trial.outcome observe) s earlier last s' ∧
          r = verdict id (fun seen => .notConverged condition policy.timeout seen) (last.outcome observe)) ∨
        (∃ earlier last cause,
          DisturbedFor policy policy.timeout (Trial.Happens action accepts) (Trial.outcome observe) s earlier last cause
            s' ∧ r = .error (.foreign cause)) ∨
        r = .error .stalled ∧ ∃ earlier,
          RunsOut policy policy.timeout (Trial.Happens action accepts) (Trial.outcome observe) s earlier s') ∧
    ∀ {σ ω α : Type} [Host σ Rat] (action : On σ Rat ω α) (accepts : α → On σ Rat ω Bool)
      (observe : α → Observation) (policy : RetryPolicy Rat), Host.Steady σ → policy.Sleeps →
      Keeps (Beside Onward) action → (∀ a, Keeps (Beside Onward) (accepts a)) →
      ∀ s earlier s',
        ¬ RunsOut policy policy.timeout (Trial.Happens action accepts) (Trial.outcome observe) s earlier s' ∧
        ∀ last cause, ¬ DisturbedFor policy policy.timeout (Trial.Happens action accepts) (Trial.outcome observe) s
          earlier last cause s' := by
  constructor
  · intro σ τ ω α _ _ action accepts observe policy condition s
    have hloop : After (pollFor policy policy.timeout (actOnce action accepts observe)) s _ :=
      after_pollFor_stops (after_actOnce_trial action accepts observe _)
    refine (after_eventually_of hloop).mono fun r s' hends => ?_
    obtain ⟨outcome, hloop, hr⟩ := hends
    obtain ⟨earlier, last, hstops, rfl⟩ | ⟨earlier, last, cause, hdisturbed, rfl⟩ | ⟨rfl, hrunsOut⟩ := hloop
    · exact .inl ⟨earlier, last, hstops, hr⟩
    · exact .inr (.inl ⟨earlier, last, cause, hdisturbed, hr⟩)
    · exact .inr (.inr ⟨hr, hrunsOut⟩)
  · intro σ ω α _ action accepts observe policy hsteady hsleeps haction haccepts s earlier s'
    refine ⟨?_, fun last cause => not_disturbed_steady hsteady hsleeps⟩
    exact not_runsOut hsteady.toTicking hsleeps (fun s₁ trial s₂ htrial => htrial.keeps haction haccepts) s earlier s'

/-- A probe that does not get through at first, and then returns how often it was called before. -/
def countingProbe {σ : Type} : On σ Rat Nat Nat := do
  let calls ← On.object
  On.change (· + 1)
  if calls = 0 then throw (.probe (.make .connection "refused" none)) else return calls

theorem keeps_countingProbe {σ : Type} [Host σ Rat] : Keeps (Beside Onward) (countingProbe : On σ Rat Nat Nat) := by
  have hcalls : Keeps (Beside Onward) (On.object : On σ Rat Nat Nat) := fun s => refl_of Onward s.1
  exact hcalls.bind fun calls => (keeps_change _).bind fun _ => .ite (.throw _) (.pure _)

/-- The first of three trials is a probe that does not get through, and the test accepts what the third returns. -/
theorem eventually_firstDecisive_third :
    After (eventually countingProbe (fun calls => pure (calls == 2)) (fun _ => .nothing) .brief "a condition")
      ((Constant.begin, 0) : World (Constant fun _ => .error .stalled) Rat × Nat) fun r s' =>
        (r.toOption = some 2 ∧ s'.2 = 3 ∧ s'.1.time = 3 / 2) ∧ ∃ earlier last,
          StopsFor .brief 2 (Trial.Happens countingProbe fun calls => pure (calls == 2))
            (Trial.outcome fun _ => .nothing) (Constant.begin, 0) earlier last s' ∧
          r = verdict id (fun seen => .notConverged "a condition" 2 seen) (last.outcome fun _ => .nothing) := by
  let s : World (Constant fun _ => .error .stalled) Rat × Nat := (Constant.begin, 0)
  have hrun : After (eventually countingProbe (fun calls => pure (calls == 2)) (fun _ => .nothing) .brief "a condition")
      s fun r s' => r.toOption = some 2 ∧ s'.2 = 3 ∧ s'.1.host.clock = 3 / 2 := by
    decide +kernel
  have hdecides := eventually_firstDecisive.1 countingProbe (fun calls => pure (calls == 2)) (fun _ => .nothing)
    .brief "a condition" s
  refine (hrun.and hdecides).mono fun r s' hpost => ⟨hpost.1, ?_⟩
  have hsteady (earlier : List (Trial Rat Nat)) := eventually_firstDecisive.2 countingProbe (fun calls => pure (calls == 2))
    (fun _ => .nothing) .brief Constant.exact.steady RetryPolicy.brief_sleeps keeps_countingProbe (fun _ => .pure _) s
    earlier s'
  obtain hstops | ⟨earlier, last, cause, hdisturbed, -⟩ | ⟨-, earlier, hrunsOut⟩ := hpost.2
  · exact hstops
  · exact absurd hdisturbed ((hsteady earlier).2 last cause)
  · exact absurd hrunsOut (hsteady earlier).1

end ProxyTestbed.Wait
