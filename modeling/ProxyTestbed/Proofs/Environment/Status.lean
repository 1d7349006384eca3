import ProxyTestbed.Environment.Use
import ProxyTestbed.Proofs.Wait.Constant
import ProxyTestbed.Proofs.Wait.Loops

/-!
# Waiting for a status

A wait for a status asks for the same page again and again: one request for each attempt, and nothing else.
An answer with the status ends it, and so does any attempt that ends at the deadline or past it; a request that
fails is an attempt like any other.

* `Http.after_get`: one probe is one request, and its errors become problems of the probe.
* `Rounds.tries`: the rounds of the wait as requests and answers.
* `awaitStatus_tries`: what a wait for a status asks for, and what it ends in.
-/

namespace ProxyTestbed

variable {σ τ : Type}

/-! ## Probes -/

namespace Http

/-- The response of a probe, of an answer of the server. -/
def reply (target : Target) (options : Options τ) (answer : HttpAnswer) : Response :=
  ⟨answer.status, answer.headers, answer.body, (request target options).url, target.host⟩

/-- The problem of a probe, of an error of the request. -/
def problem? [Seconds τ] (target : Target) (options : Options τ) (e : Foreign) : Option ProbeProblem :=
  problemOf (request target options).url target.host options.timeout e

/-- Every error of a request is a problem of the probe, which tells the error. -/
theorem exists_problem [Seconds τ] (target : Target) (options : Options τ) {e : Foreign}
    (h : e.isHttp = true) : ∃ p, problem? target options e = some p ∧ p.cause = some e := by
  unfold problem? problemOf
  by_cases htimeout : e.isHttpTimeout = true
  · exact ⟨_, if_pos htimeout, rfl⟩
  · by_cases hconnect : e.isHttpConnect = true
    · exact ⟨_, (if_neg htimeout).trans (if_pos hconnect), rfl⟩
    · exact ⟨_, (if_neg htimeout).trans ((if_neg hconnect).trans (if_pos h)), rfl⟩

variable [Host σ τ]

/-- From `w` to `w'` one request was asked, and nothing else happened but log records. -/
structure Answered (request : HttpRequest τ) (w : World σ τ) (a : Except (Fault τ) HttpAnswer)
    (w' : World σ τ) : Prop where
  answer : (Host.answer (.get request) w.host).1 = a
  logs : ∃ w₁, w₁.host = (Host.answer (.get request) w.host).2 ∧ w₁.past = .asked (.get request) a :: w.past ∧
    Logs w₁ w'

variable [Seconds τ]

/-- What a probe ends in, by what the server answered. -/
inductive Probed (target : Target) (options : Options τ) :
    Except (Fault τ) HttpAnswer → Except (Fault τ) Response → Prop
  | reply (answer : HttpAnswer) : Probed target options (.ok answer) (.ok (reply target options answer))
  | problem {e : Foreign} {p : ProbeProblem} (h : problem? target options e = some p) (hcause : p.cause = some e) :
    Probed target options (.error (.foreign e)) (.error (.probe p))

theorem keeps_get {R : World σ τ → World σ τ → Prop} [IsPreorder (World σ τ) R]
    (hask : ∀ r : Request τ, Keeps R (ask r : Act σ τ r.Answer)) (hlogs : ∀ w w' : World σ τ, Logs w w' → R w w')
    (target : Target) (options : Options τ) : Keeps R (get target options : Act σ τ Response) :=
  (hask _).reporting.bind fun _ => (keeps_record_of hlogs _ _ _).bind fun _ => .pure _

theorem after_get (hhttp : ∀ (r : HttpRequest τ) (h : σ) (e : Fault τ),
      (Host.answer (.get r) h).1 = .error e → e.comesFrom Foreign.isHttp = true)
    (target : Target) (options : Options τ) (w : World σ τ) :
    After (get target options) w fun r w' =>
      ∃ a, Answered (request target options) w a w' ∧ Probed target options a r := by
  have hask : After (ask (.get (request target options))) w fun r w' =>
      Answered (request target options) w r w' := by
    refine (after_ask (.get (request target options)) w).mono ?_
    rintro r w' ⟨hr, -, hhost, hpast⟩
    exact ⟨hr.symm, w', hhost, hpast, refl_of Logs w'⟩
  have hreport : After (reporting (fun e => (problem? target options e).map Fault.probe)
      (ask (.get (request target options)))) w fun r w' => ∃ a, Answered (request target options) w a w' ∧
        Probed target options a (r.map (reply target options)) := by
    refine after_reporting hask (fun answer w' h => ⟨_, h, .reply answer⟩) ?_ ?_
    · intro e w' h
      obtain ⟨p, hp, hcause⟩ := exists_problem target options (hhttp _ _ _ h.answer)
      refine ⟨_, h, ?_⟩
      rw [hp]
      exact .problem hp hcause
    · intro e w' h hforeign
      have hfamily := hhttp _ _ _ h.answer
      cases e with
      | foreign f => exact absurd rfl (hforeign f)
      | _ => cases hfamily
  unfold get
  refine after_bind hreport ?_ ?_
  · rintro answer w₁ ⟨a, ⟨hanswer, w₀, hhost, hpast, hlogs⟩, hprobed⟩
    refine after_record_act_bind fun w₂ hlog => after_pure ⟨a, ⟨hanswer, w₀, hhost, hpast, ?_⟩, hprobed⟩
    exact trans_of Logs hlogs hlog
  · exact fun e w₁ h => h

end Http

/-! ## Attempts -/

open Http

/-- The server answered with the status. -/
def HasStatus (status : Int) (a : Except (Fault τ) HttpAnswer) : Prop :=
  ∃ answer, a = .ok answer ∧ answer.status = status

/-- What an attempt to see a status ends in, by what the server answered. -/
inductive Tried [Seconds τ] (target : Target) (options : Options τ) (status : Int) :
    Except (Fault τ) HttpAnswer → Except (Fault τ) (Except Observation Response) → Prop
  | found {answer : HttpAnswer} (h : answer.status = status) :
    Tried target options status (.ok answer) (.ok (.ok (reply target options answer)))
  | other {answer : HttpAnswer} (h : answer.status ≠ status) :
    Tried target options status (.ok answer) (.ok (.error (.response (reply target options answer))))
  | failed {e : Foreign} {p : ProbeProblem} (h : problem? target options e = some p) (hcause : p.cause = some e) :
    Tried target options status (.error (.foreign e)) (.ok (.error (.problem p)))

section

variable [Seconds τ] {target : Target} {options : Options τ} {status : Int} {a : Except (Fault τ) HttpAnswer}
  {outcome : Except (Fault τ) (Except Observation Response)}

theorem Tried.hasStatus_or (h : Tried target options status a outcome) : HasStatus status a ∨ GaveUp outcome := by
  cases h with
  | found h => exact .inl ⟨_, rfl, h⟩
  | other _ => exact .inr ⟨_, rfl⟩
  | failed _ _ => exact .inr ⟨_, rfl⟩

theorem Tried.not_hasStatus (h : Tried target options status a outcome) (hgaveUp : GaveUp outcome) :
    ¬ HasStatus status a := by
  rintro ⟨answer, rfl, hstatus⟩
  obtain ⟨seen, rfl⟩ := hgaveUp
  cases h with
  | other hne => exact hne hstatus

theorem after_actOnce [Host σ τ] (hhttp : ∀ (r : HttpRequest τ) (h : σ) (e : Fault τ),
      (Host.answer (.get r) h).1 = .error e → e.comesFrom Foreign.isHttp = true)
    (deadline : Deadline τ) (number : Nat) (s : World σ τ × Unit) :
    After (Wait.actOnce (world (get target options)) (fun r => pure (r.status == status)) .response deadline number)
      s fun outcome s' =>
        ∃ a, Answered (request target options) s.1 a s'.1 ∧ Tried target options status a outcome := by
  refine after_attempt_bind (after_get hhttp target options s.1).world ?_
  rintro _ s₁ ⟨⟨a, hanswered, hprobed⟩, -⟩
  cases hprobed with
  | reply answer =>
    show After (if answer.status == status then _ else _) s₁ _
    refine after_ite (fun hstatus => ?_) fun hstatus => ?_
    · exact after_pure ⟨_, hanswered, .found (by simpa using hstatus)⟩
    · exact after_pure ⟨_, hanswered, .other (by simpa using hstatus)⟩
  | problem h hcause => exact after_pure ⟨_, hanswered, .failed h hcause⟩

end

/-! ## Whole waits -/

variable [Host σ Rat]

/-- From `w` to `w'` a request was asked again and again, with a sleep after each answer but the last one. None
but the last one has the status, or comes at the deadline or past it. -/
inductive Tries (request : HttpRequest Rat) (status : Int) (deadline : Deadline Rat) :
    World σ Rat → List (Except (Fault Rat) HttpAnswer) → World σ Rat → Prop
  | last {w w' : World σ Rat} {a : Except (Fault Rat) HttpAnswer} (h : Answered request w a w')
    (hend : HasStatus status a ∨ deadline.isOver w'.time = true) : Tries request status deadline w [a] w'
  | again {w w₁ w₂ w' : World σ Rat} {a : Except (Fault Rat) HttpAnswer}
    {rest : List (Except (Fault Rat) HttpAnswer)} {seconds : Rat} (h : Answered request w a w₁)
    (hother : ¬ HasStatus status a) (hearly : deadline.isOver w₁.time = false)
    (hsleep : sleep seconds w₁ = .ok () w₂) (hrest : Tries request status deadline w₂ rest w') :
    Tries request status deadline w (a :: rest) w'

section

variable {request : HttpRequest Rat} {status : Int} {deadline : Deadline Rat} {w w₁ w₂ w' : World σ Rat}

theorem Http.Answered.requests {a : Except (Fault Rat) HttpAnswer} (h : Answered request w a w') :
    Requests w [.get request] w' := by
  obtain ⟨w₁, -, hpast, hlogs⟩ := h.logs
  exact (requests_asked hpast).trans hlogs.requests

/-- There are as many requests as attempts. -/
theorem Tries.requests {answers : List (Except (Fault Rat) HttpAnswer)}
    (h : Tries request status deadline w answers w') :
    Requests w (List.replicate answers.length (.get request)) w' := by
  induction h with
  | last h _ => exact h.requests
  | @again w w₁ w₂ w' a rest seconds h _ _ hsleep _ ih =>
    have hall := (h.requests.trans (requests_slept hsleep)).trans ih
    rw [List.nil_append, ← List.replicate_succ'] at hall
    exact hall

end

/-- The rounds of a wait for a status are attempts to see it. -/
theorem Rounds.tries {policy : RetryPolicy Rat} {deadline : Deadline Rat}
    {try_ : Nat → On σ Rat Unit (Except Observation Response)} {target : Target} {options : Options Rat}
    {status : Int} {number : Nat} {s s' : World σ Rat × Unit} {rounds : List Round}
    {outcome : Except (Fault Rat) (Except Observation Response)}
    (htry : ∀ number s, After (try_ number) s fun outcome s' =>
      ∃ a, Answered (request target options) s.1 a s'.1 ∧ Tried target options status a outcome)
    (hrounds : Rounds policy deadline try_ number s rounds outcome s') :
    ∃ earlier last, Tries (request target options) status deadline s.1 (earlier ++ [last]) s'.1 ∧
      (∀ a ∈ earlier, ¬ HasStatus status a) ∧ Tried target options status last outcome := by
  induction hrounds with
  | @last decided number s s' outcome hrun _ hover =>
    obtain ⟨a, hanswered, htried⟩ := (htry number s).attempted hrun
    exact ⟨[], a, .last hanswered (htried.hasStatus_or.imp id hover), by simp, htried⟩
  | @again number s s₁ s₂ s' seen seconds rounds outcome hrun hover _ hsleep _ ih =>
    obtain ⟨a, hanswered, htried⟩ := (htry number s).ok hrun
    obtain ⟨earlier, last, htries, hothers, hlast⟩ := ih
    have hother : ¬ HasStatus status a := htried.not_hasStatus ⟨seen, rfl⟩
    exact ⟨a :: earlier, last, .again hanswered hother hover (of_world_ok hsleep).1 htries,
      List.forall_mem_cons.mpr ⟨hother, hothers⟩, hlast⟩

namespace Environment

/-- What a wait for a status did: it tried to see the status, and ended in the response of the last attempt or
in the report of what that attempt saw. -/
structure StatusBy (target : Target) (options : Options Rat) (status : Int) (condition : String) (timeout : Rat)
    (w : World σ Rat) (earlier : List (Except (Fault Rat) HttpAnswer)) (last : Except (Fault Rat) HttpAnswer)
    (outcome : Except (Fault Rat) (Except Observation Response)) (r : Except (Fault Rat) Response)
    (w' : World σ Rat) : Prop where
  attempts : Tries (request target options) status (Deadline.start w.time timeout) w (earlier ++ [last]) w'
  /-- Nothing else is asked for, and nothing more than once for each attempt. -/
  requests : Requests w (List.replicate (earlier.length + 1) (.get (request target options))) w'
  redirects : (request target options).followRedirects = false
  others : ∀ a ∈ earlier, ¬ HasStatus status a
  seen : Tried target options status last outcome
  verdict : r = verdict (fun response => response) (fun last => .notConverged condition timeout last) outcome

/-- What the probes of a wait for a status send besides their target. -/
def statusOptions [Seconds τ] (e : Environment τ) (secure : Bool) : Options τ :=
  ⟨secure, none, some e.settings.probeTimeout, []⟩

/-- **A wait for a status.** On a steady clock, with an interval in the settings and a timeout that is not
negative, and if requests fail only with errors of their own: the wait asks for the page once for each
attempt, without following redirects, and asks for nothing else. No attempt follows an answer with the status,
or an attempt that ended at the deadline or past it. If the last answer has the status, the wait ends in its
response, and else in the report of what the last attempt saw: its response, or the problem that its error
is. -/
theorem awaitStatus_tries (hsteady : Host.Steady σ)
    (hhttp : ∀ (r : HttpRequest Rat) (h : σ) (e : Fault Rat),
      (Host.answer (.get r) h).1 = .error e → e.comesFrom Foreign.isHttp = true)
    (e : Environment Rat) (hinterval : 0 < e.settings.pollInterval) (secure : Bool) (host path : String)
    (status : Int) (timeout : Option Rat) (htimeout : 0 ≤ timeout.getD e.settings.convergenceTimeout)
    (w : World σ Rat) :
    After (e.awaitStatus secure host path status timeout) w fun r w' => ∃ earlier last outcome,
      StatusBy (e.target secure host path) (e.statusOptions secure) status
        (statusCondition secure host path status) (timeout.getD e.settings.convergenceTimeout) w
        earlier last outcome r w' := by
  obtain ⟨policy, hpolicy, hsleeps⟩ := RetryPolicy.exists_fixed htimeout hinterval
  obtain ⟨hpolicyTimeout, -⟩ := RetryPolicy.of_fixed hpolicy
  have hpure : (e.convergencePolicy timeout : Act σ Rat (RetryPolicy Rat)) = pure policy := by
    rw [convergencePolicy, hpolicy]
    rfl
  have hprobe : Keeps Onward (e.probe ⟨secure, host, path, none, none, []⟩ : Act σ Rat Response) :=
    keeps_get hsteady.keeps_ask (fun _ _ => Logs.onward) _ _
  have hwait := Wait.after_eventually_rounds hsteady hsleeps hprobe.world.beside
    (fun r => .pure (r.status == status)) .response (statusCondition secure host path status) (w, ())
  unfold awaitStatus Environment.eventually
  rw [hpure]
  refine after_start_end (hwait.mono ?_)
  rintro r s' ⟨rounds, outcome, hloop, hverdict⟩
  obtain ⟨earlier, last, htries, hothers, hlast⟩ := hloop.tries fun number s => after_actOnce hhttp _ number s
  rw [hpolicyTimeout] at htries hverdict
  have hrequests := htries.requests
  rw [List.length_append, List.length_singleton] at hrequests
  exact ⟨earlier, last, outcome, htries, hrequests, rfl, hothers, hlast, hverdict⟩

/-- Every connection is refused. -/
def refusing (r : Request Rat) : Except (Fault Rat) r.Answer :=
  .error (.foreign (.plain (.http .connect) "Connection refused"))

/-- Nothing answers, so the wait is given up at the deadline. -/
theorem awaitStatus_tries_refused :
    let e : Environment Rat := .create "e1" .standard none
    After (e.awaitStatus false "a.example.com" "/" 200 (some 1)) (Constant.begin : World (Constant refusing) Rat)
      fun r w' => w'.time = 1 ∧ ∃ earlier last outcome,
        StatusBy (e.target false "a.example.com" "/") (e.statusOptions false) 200
          (statusCondition false "a.example.com" "/" 200) 1 Constant.begin earlier last outcome r w' := by
  intro e
  have hhttp (r : HttpRequest Rat) (h : Constant refusing) (e : Fault Rat)
      (he : (Host.answer (.get r) h).1 = .error e) : e.comesFrom Foreign.isHttp = true := by
    cases he
    rfl
  have hwait := awaitStatus_tries Constant.exact.steady hhttp e (by decide +kernel) false "a.example.com" "/" 200
    (some 1) (by decide +kernel) Constant.begin
  have htime : After (e.awaitStatus false "a.example.com" "/" 200 (some 1))
      (Constant.begin : World (Constant refusing) Rat) fun _ w' => w'.host.clock = 1 := by
    decide +kernel
  exact (htime.and hwait).mono fun r w' h => h

end Environment

end ProxyTestbed
