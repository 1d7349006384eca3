import Mathlib.Data.List.Induction
import ProxyTestbed.Proofs.Wait.Constant
import ProxyTestbed.Proofs.Wait.Loops

/-!
# What the state of a backend says

The state of a backend is honest if a stopped one was stopped last, and if the port of a listening one was
found open since its container was last started, restarted or stopped. Waiting makes a state honest, and
nothing else makes it dishonest but a start or restart that is not waited for: that leaves the state behind
which the backend had.

A removed backend stays removed until it is stopped or waited for; then it can be removed again.

* `after_waitListening`: what a wait makes of the state.
* `honest_iff`: after which operations states are honest, and during which ones a removed backend stays so.
-/

namespace ProxyTestbed

variable {σ τ : Type}

/-! ## What was done to a container -/

/-- Something that a daemon does to a container. -/
inductive Turn
  | start | restart | stop | remove
  deriving DecidableEq, Repr

/-- What the daemon did to the container, if the event is that it did something. -/
def Event.turn? (c : Container) : Event τ → Option Turn
  | .asked (.docker (.start c')) (.ok _) => if c' = c then some .start else none
  | .asked (.docker (.restart c' _)) (.ok _) => if c' = c then some .restart else none
  | .asked (.docker (.stop c' _)) (.ok _) => if c' = c then some .stop else none
  | .asked (.docker (.remove c')) (.ok _) => if c' = c then some .remove else none
  | _ => none

/-- The last thing that was done to the container, of what happened, the latest first. -/
def lastTurn (c : Container) (past : List (Event τ)) : Option Turn :=
  past.findSome? (·.turn? c)

/-- Between `w` and `w'` nothing is done to the container. -/
abbrev LeftAlone (c : Container) : World σ τ → World σ τ → Prop :=
  Asks fun r a => (Event.asked r a).turn? c = none

/-- Between `w` and `w'` the container is not started, restarted or stopped. -/
abbrev Undisturbed (c : Container) : World σ τ → World σ τ → Prop :=
  Asks fun r a => ∀ t, (Event.asked r a).turn? c = some t → t = .remove

section

variable {c : Container} {w w' : World σ τ}

theorem Event.turn?_error {r : Request τ} {e : Fault τ} :
    (Event.asked r (.error e)).turn? c = none := by
  unfold turn?
  split <;> first | rfl | (rename_i h; cases h)

theorem LeftAlone.undisturbed (h : LeftAlone c w w') : Undisturbed c w w' :=
  h.mono fun r a hnone t ht => by rw [hnone] at ht; cases ht

theorem LeftAlone.lastTurn_eq (h : LeftAlone c w w') : lastTurn c w'.past = lastTurn c w.past := by
  obtain ⟨es, hpast, hes⟩ := h
  have hnone : es.findSome? (·.turn? c) = none := by
    rw [List.findSome?_eq_none_iff]
    intro e he
    cases e with
    | asked r a => exact hes r a he
    | _ => rfl
  rw [lastTurn, hpast, List.findSome?_append, hnone, Option.none_or]
  rfl

theorem lastTurn_cons {e : Event τ} {t : Turn} (he : e.turn? c = some t) (past : List (Event τ)) :
    lastTurn c (e :: past) = some t := by
  simp [lastTurn, he]

end

/-! ## The last look at a port -/

/-- A socket was asked for last, or asked something. -/
def EndsInSocket (w : World σ τ) : Prop :=
  ∃ r a rest, Request.isSocket r = true ∧ w.past = Event.asked r a :: rest

theorem Event.turn?_of_isSocket {c : Container} {r : Request τ} (h : r.isSocket = true)
    (a : Except (Fault τ) r.Answer) : (Event.asked r a).turn? c = none := by
  unfold Request.isSocket at h
  split at h <;> first | rfl | cases h

theorem after_ask_socket [Host σ τ] {r : Request τ} (h : r.isSocket = true) (w : World σ τ) :
    After (ask r) w fun _ w' => EndsInSocket w' := by
  refine (after_ask r w).mono ?_
  rintro a w' ⟨-, -, -, hpast⟩
  exact ⟨r, a, w.past, h, hpast⟩

theorem after_isListening_socket [Seconds τ] [Host σ τ] (host : String) (port : Int) (timeout : τ)
    (w : World σ τ) : After (Socket.isListening host port timeout) w fun _ w' => EndsInSocket w' := by
  unfold Socket.isListening Socket.checkWith
  refine after_attempt_bind (P := fun _ w' => EndsInSocket w') ?_ ?_
  · refine after_bind (after_ask_socket rfl w) (fun socket w₁ _ => ?_) fun _ _ h => h
    -- whatever is read from the socket, it is closed in the end
    refine after_always after_trivial fun r w₂ _ => (after_ask_socket rfl w₂).mono ?_
    rintro (_ | _) w₃ h
    · exact h
    · exact h
  · rintro (e | up) w₁ h
    · exact after_ite (fun _ => after_pure h) fun _ => after_throw h
    · exact after_pure h

namespace Backend

variable [Seconds τ] [Host σ τ]

/-! ## Honest states -/

/-- The port was found open, and since then the container was not started, restarted or stopped. -/
def Checked (s : World σ τ × Backend τ) : Prop :=
  ∃ (w₁ w₂ : World σ τ) (port : Int), s.2.hostPort = some port ∧
    Socket.isListening s.2.address port s.2.connectTimeout w₁ = .ok true w₂ ∧
    Undisturbed s.2.container w₂ s.1

/-- The state does not contradict what was done to the container. -/
structure Honest (s : World σ τ × Backend τ) : Prop where
  stopped : s.2.state = .stopped → lastTurn s.2.container s.1.past = some .stop
  listening : s.2.state = .listening → Checked s

section

variable {s s' : World σ τ × Backend τ}

theorem Honest.of_state (hstopped : s.2.state ≠ .stopped) (hlistening : s.2.state ≠ .listening) : Honest s :=
  ⟨fun h => absurd h hstopped, fun h => absurd h hlistening⟩

theorem Honest.leftAlone (h : Honest s) (hsame : s'.2 = s.2) (hleft : LeftAlone s.2.container s.1 s'.1) :
    Honest s' := by
  refine ⟨fun hstate => ?_, fun hstate => ?_⟩
  · rw [hsame] at hstate ⊢
    rw [hleft.lastTurn_eq]
    exact h.stopped hstate
  · rw [hsame] at hstate
    obtain ⟨w₁, w₂, port, hport, hrun, hsince⟩ := h.listening hstate
    refine ⟨w₁, w₂, port, ?_⟩
    rw [hsame]
    exact ⟨hport, hrun, trans_of (Undisturbed _) hsince hleft.undisturbed⟩

/-- After the container was turned on or off, its port has not been found open yet. -/
theorem not_checked_of_turn {r : Request τ} {a : Except (Fault τ) r.Answer} {past : List (Event τ)} {t : Turn}
    (hpast : s.1.past = .asked r a :: past) (hturn : (Event.asked r a).turn? s.2.container = some t)
    (ht : t ≠ .remove) : ¬ Checked s := by
  rintro ⟨w₁, w₂, port, -, hrun, es, hes, hsince⟩
  rw [hpast] at hes
  cases es with
  | nil =>
    obtain ⟨r', a', rest, hsocket, hrest⟩ := (after_isListening_socket _ _ _ w₁).ok hrun
    rw [List.nil_append, hrest] at hes
    obtain ⟨hevent, -⟩ := List.cons.inj hes
    rw [hevent, Event.turn?_of_isSocket hsocket] at hturn
    cases hturn
  | cons e es =>
    obtain ⟨rfl, -⟩ := List.cons.inj hes
    exact ht (hsince r a List.mem_cons_self t hturn)

end

/-! ## Waits -/

/-- The backend starts, or it listens and its port was found open. -/
def Awaited (s : World σ τ × Backend τ) : Prop :=
  s.2.state = .starting ∨ s.2.state = .listening ∧ Checked s

theorem Awaited.honest {s : World σ τ × Backend τ} (h : Awaited s) : Honest s := by
  rcases h with h | ⟨h, hchecked⟩
  · exact .of_state (by simp [h]) (by simp [h])
  · exact ⟨by simp [h], fun _ => hchecked⟩

theorem Awaited.state_ne {s : World σ τ × Backend τ} (h : Awaited s) : s.2.state ≠ .removed := by
  rcases h with h | ⟨h, -⟩
  · simp [h]
  · simp [h]

section

variable {π : Type} {get : Backend τ → π}

/-- A look at a container records its address and port alone. -/
theorem keeps_same_refresh (hip : ∀ b ip, get { b with ip } = get b)
    (hport : ∀ b hostPort, get { b with hostPort } = get b) :
    Keeps (Same get) (refresh : On σ τ (Backend τ) String) := by
  have hread {α : Type} (found : Except InspectionProblem α) :
      Keeps (Same get) (inspected found : On σ τ (Backend τ) α) := by
    cases found with
    | ok a => exact .pure a
    | error p => exact .throw _
  unfold refresh
  refine Keeps.bind (fun _ => rfl) fun b => (keeps_same_world _).reporting.bind fun container => ?_
  refine (hread _).bind fun settings => (hread _).bind fun ip => Keeps.bind (fun s => hip s.2 ip) fun _ => ?_
  exact (hread _).bind fun port => Keeps.bind (fun s => hport s.2 port) fun _ => .pure _

theorem keeps_same_lastLogs : Keeps (Same get) (lastLogs : On σ τ (Backend τ) String) := by
  refine Keeps.bind (fun _ => rfl) fun b => (keeps_same_world _).attempt.bind fun r => ?_
  cases r with
  | ok content => exact .pure _
  | error e => exact .ite (.pure _) (.throw e)

end

theorem keeps_state_refresh : Keeps (Same state) (refresh : On σ τ (Backend τ) String) :=
  keeps_same_refresh (fun _ _ => rfl) fun _ _ => rfl

theorem keeps_state_lastLogs : Keeps (Same state) (lastLogs : On σ τ (Backend τ) String) :=
  keeps_same_lastLogs

/-- A look at a backend that starts: only a port that was found open changes its state. -/
theorem after_checkListening_state {s : World σ τ × Backend τ} (hstate : s.2.state = .starting) :
    After checkListening s fun r s' => Awaited s' ∧ ∀ seen, r = .ok (.error seen) → s'.2.state = .starting := by
  unfold checkListening
  refine after_bind (keeps_state_refresh s) ?_ fun e s₁ h₁ => ⟨.inl (h₁.trans hstate), by simp⟩
  intro status s₁ h₁
  have h₁ : s₁.2.state = .starting := Eq.trans h₁ hstate
  refine after_object_bind (after_ite (fun _ => ?_) fun _ => ?_)
  · refine after_bind (keeps_state_lastLogs s₁) (fun logs s₂ h₂ => ?_) fun e s₂ h₂ => ?_
    · exact after_throw ⟨.inl (Eq.trans h₂ h₁), by simp⟩
    · exact ⟨.inl (Eq.trans h₂ h₁), by simp⟩
  · split
    · exact after_pure ⟨.inl h₁, fun _ _ => h₁⟩
    · exact after_pure ⟨.inl h₁, fun _ _ => h₁⟩
    · rename_i port _ hport
      refine after_bind (after_run (Socket.isListening _ _ _) s₁.1).world ?_ ?_
      · rintro up s₂ ⟨hrun, hsame⟩
        refine after_ite (fun hup => after_change_bind (after_record_bind fun s₃ hlog => after_pure ?_))
          fun _ => after_pure ⟨.inl (by rw [hsame]; exact h₁), fun _ _ => by rw [hsame]; exact h₁⟩
        obtain ⟨hlogs, hs₃⟩ := hlog
        cases hup
        refine ⟨.inr ?_, by simp⟩
        rw [Checked, hs₃, hsame]
        exact ⟨rfl, s₁.1, s₂.1, port, hport, of_attempt_ok hrun, hlogs.asks⟩
      · rintro e s₂ ⟨-, hsame⟩
        exact ⟨.inl (by rw [hsame]; exact h₁), by simp⟩

/-- Whatever state a backend had, after a wait it starts, or it listens since its port was found open. -/
theorem after_waitListening (policy : RetryPolicy τ) (s : World σ τ × Backend τ) :
    After (waitListening policy) s fun _ s' => Awaited s' := by
  have hloop : After (pollFor policy policy.timeout fun _ _ => checkListening)
      (s.1, { s.2 with state := .starting }) fun r s' =>
        Awaited s' ∧ ∀ seen, r = .ok (.error seen) → s'.2.state = .starting := by
    refine after_pollFor (I := fun s => s.2.state = .starting) (fun _ _ s₁ h₁ => ?_) (fun seconds s₁ h₁ => ?_)
      (fun s₁ h₁ => ⟨.inl h₁, by simp⟩) rfl
    · exact (after_checkListening_state h₁).mono fun _ _ h => ⟨h, h.2⟩
    · have hslept : After (world (sleep seconds)) s₁ fun _ s₂ => Same Backend.state s₁ s₂ := keeps_same_world _ s₁
      refine hslept.mono fun _ s₂ h => ?_
      have h₂ : s₂.2.state = .starting := Eq.trans h h₁
      exact ⟨fun _ => h₂, fun _ _ => ⟨.inl h₂, by simp⟩⟩
  refine (after_waitListening_of hloop).mono fun r s' hends => ?_
  obtain ⟨outcome, s₂, ⟨hawaited, hstarting⟩, hdecided, hfailed, hgaveUp⟩ := hends
  rcases outcome with e | seen | u
  · rwa [(hfailed e rfl).2]
  · obtain ⟨logs, hlogs, -⟩ := hgaveUp ⟨seen, rfl⟩
    have hsame : s'.2.state = s₂.2.state := (keeps_state_lastLogs s₂).attempted hlogs
    exact .inl (hsame.trans (hstarting seen rfl))
  · rwa [(hdecided u rfl).2]

theorem after_waitUsual_state (s : World σ τ × Backend τ) : After waitUsual s fun _ s' => Awaited s' :=
  after_object_bind (after_waitListening _ s)

/-! ## Operations -/

/-- An operation on a backend. -/
inductive Operation (τ : Type) [Seconds τ]
  | stop (timeout : Int)
  | start (wait : Bool)
  | restart (timeout : Int) (wait : Bool)
  /-- Waits with a policy, or as the backend is usually waited for. -/
  | waitListening (policy : Option (RetryPolicy τ))
  | remove

/-- The daemon does what it is called for. -/
def Grants (s : World σ τ × Backend τ) (call : DockerCall) : Prop :=
  ∃ a, (Host.answer (.docker call) s.1.host).1 = .ok a

namespace Operation

def perform : Operation τ → On σ τ (Backend τ) Unit
  | stop timeout => Backend.stop timeout
  | start wait => Backend.start wait
  | restart timeout wait => Backend.restart timeout wait
  | waitListening (some policy) => Backend.waitListening policy
  | waitListening none => waitUsual
  | remove => Backend.remove

/-- The backend after the operation, whether or not it ends in a fault. -/
def next (op : Operation τ) (s : World σ τ × Backend τ) : World σ τ × Backend τ :=
  stateAfter op.perform s

/-- The backend after operations, from first to last. -/
def after (ops : List (Operation τ)) (s : World σ τ × Backend τ) : World σ τ × Backend τ :=
  ops.foldl (fun s op => op.next s) s

/-- A start or restart that succeeds and is not waited for. -/
def Turns (s : World σ τ × Backend τ) : Operation τ → Prop
  | start wait => wait = false ∧ Grants s (.start s.2.container)
  | restart timeout wait => wait = false ∧ Grants s (.restart s.2.container timeout)
  | _ => False

/-- The operation leaves a state behind that is not true any more. -/
def Misleads (s : World σ τ × Backend τ) (op : Operation τ) : Prop :=
  op.Turns s ∧ (s.2.state = .stopped ∨ s.2.state = .listening)

/-- The operation records a new state, whatever the old one was. -/
def Revives (s : World σ τ × Backend τ) : Operation τ → Prop
  | stop timeout => Grants s (.stop s.2.container timeout)
  | start wait => wait = true ∧ Grants s (.start s.2.container)
  | restart timeout wait => wait = true ∧ Grants s (.restart s.2.container timeout)
  | waitListening _ => True
  | remove => False

end Operation

/-! ## Calls of the daemon -/

/-- From `s` to `s'` the daemon was called for something and answered `r`; nothing else was asked for. -/
structure Called (s : World σ τ × Backend τ) (call : DockerCall) (r : Except (Fault τ) call.Answer)
    (s' : World σ τ × Backend τ) : Prop where
  answer : (Host.answer (.docker call) s.1.host).1 = r
  backend : s'.2 = s.2
  past : ∃ w, Logs s.1 w ∧ s'.1.past = .asked (.docker call) r :: w.past

theorem after_call {s s₁ : World σ τ × Backend τ} (hlog : Besides Logs s s₁) (call : DockerCall) :
    After (world (docker call)) s₁ (Called s call) := by
  obtain ⟨hlogs, hsame⟩ := hlog
  have hhost : s₁.1.host = s.1.host := by
    obtain ⟨es, hs₁, -⟩ := hlogs
    rw [hs₁]
  refine (after_docker call s₁.1).world.mono ?_
  rintro r s₂ ⟨⟨hr, -, -, hpast⟩, hs₂⟩
  exact ⟨by rw [← hhost, hr], hs₂.trans hsame, s₁.1, hlogs, hpast⟩

namespace Called

variable {s s' : World σ τ × Backend τ} {call : DockerCall} {r : Except (Fault τ) call.Answer}

theorem grants {a : call.Answer} (h : Called s call (.ok a) s') : Grants s call :=
  ⟨a, h.answer⟩

theorem not_grants {e : Fault τ} (h : Called s call (.error e) s') : ¬ Grants s call := by
  rintro ⟨a, ha⟩
  cases h.answer.symm.trans ha

theorem asks {P : (r : Request τ) → Except (Fault τ) r.Answer → Prop} (h : Called s call r s')
    (hP : P (.docker call) r) : Asks P s.1 s'.1 := by
  obtain ⟨w, hlogs, hpast⟩ := h.past
  exact hlogs.asks.ask hpast hP

theorem honest_of_error {e : Fault τ} (h : Called s call (.error e) s') (hs : Honest s) : Honest s' :=
  hs.leftAlone h.backend (h.asks Event.turn?_error)

end Called

theorem after_turn {level : Log.Level} {source : Log.Source} {message : String} {call : DockerCall}
    {wait : Bool} {s : World σ τ × Backend τ} {Q : World σ τ × Backend τ → Prop}
    (hwaited : wait = true → Grants s call → ∀ s', Awaited s' → Q s')
    (hunwaited : wait = false → ∀ a s', Called s call (.ok a) s' → Q s')
    (hrefused : ∀ e s', Called s call (.error e) s' → Q s') :
    After (world (record level source message) >>= fun _ => world (docker call) >>= fun _ =>
      if wait then waitUsual else pure ()) s fun _ s' => Q s' := by
  refine after_record_bind fun s₁ hlog => after_bind (after_call hlog call) (fun a s₂ h₂ => ?_)
    fun e s₂ h₂ => hrefused e s₂ h₂
  cases wait with
  | true => exact (after_waitUsual_state s₂).mono fun _ s₃ h₃ => hwaited rfl h₂.grants s₃ h₃
  | false => exact after_pure (hunwaited rfl a s₂ h₂)

theorem after_stop_state (timeout : Int) {s : World σ τ × Backend τ} {Q : World σ τ × Backend τ → Prop}
    (hstopped : ∀ s', Called s (.stop s.2.container timeout) (.ok ()) s' →
      Q (s'.1, { s'.2 with state := .stopped }))
    (hrefused : ∀ e s', Called s (.stop s.2.container timeout) (.error e) s' → Q s') :
    After (stop timeout) s fun _ s' => Q s' := by
  refine after_object_bind (after_record_bind fun s₁ hlog => ?_)
  refine after_bind (after_call hlog (.stop s.2.container timeout)) ?_ fun e s₂ h₂ => hrefused e s₂ h₂
  exact fun _ s₂ h₂ => after_change (hstopped s₂ h₂)

theorem after_remove_state (s : World σ τ × Backend τ) :
    After remove s fun r s' => (s.2.state = .removed ∧ r = .ok () ∧ s' = s) ∨
      s.2.state ≠ .removed ∧ ((r = .ok () ∧ s'.2.state = .removed) ∨
        ∃ e, r = .error e ∧ Called s (.remove s.2.container) (.error e) s') := by
  refine after_object_bind (after_ite (fun h => after_pure (.inl ⟨h, rfl, rfl⟩)) fun h => ?_)
  refine after_record_bind fun s₁ hlog => after_attempt_bind (after_call hlog (.remove s.2.container)) ?_
  rintro (e | _) s₂ h₂
  · refine after_ite (fun _ => ?_) fun _ => ?_
    · exact after_change (.inr ⟨h, .inl ⟨rfl, rfl⟩⟩)
    · exact after_throw (.inr ⟨h, .inr ⟨e, rfl, h₂⟩⟩)
  · exact after_change (.inr ⟨h, .inl ⟨rfl, rfl⟩⟩)

/-! ## One operation -/

/-- If the container was turned on, a state is still honest only if it says nothing about that. -/
theorem Called.honest_iff_of_turn {s s' : World σ τ × Backend τ} {call : DockerCall} {a : call.Answer} {t : Turn}
    (h : Called s call (.ok a) s')
    (hturn : (Event.asked (.docker call) (.ok a) : Event τ).turn? s.2.container = some t)
    (hon : t = .start ∨ t = .restart) : Honest s' ↔ ¬ (s.2.state = .stopped ∨ s.2.state = .listening) := by
  obtain ⟨w, -, hpast⟩ := h.past
  rw [← h.backend] at hturn ⊢
  constructor
  · rintro hhonest (hstate | hstate)
    · have hlast := hhonest.stopped hstate
      rw [hpast, lastTurn_cons hturn] at hlast
      rcases hon with rfl | rfl <;> cases hlast
    · refine not_checked_of_turn hpast hturn ?_ (hhonest.listening hstate)
      rcases hon with rfl | rfl <;> decide
  · intro hstate
    obtain ⟨hstopped, hlistening⟩ := not_or.mp hstate
    exact .of_state hstopped hlistening

theorem honest_turn_iff {level : Log.Level} {source : Log.Source} {message : String} {call : DockerCall}
    {wait : Bool} {s : World σ τ × Backend τ} (hs : Honest s)
    (hturn : ∀ a : call.Answer, ∃ t,
      (Event.asked (.docker call) (.ok a) : Event τ).turn? s.2.container = some t ∧
        (t = .start ∨ t = .restart)) :
    After (world (record level source message) >>= fun _ => world (docker call) >>= fun _ =>
      if wait then waitUsual else pure ()) s fun _ s' =>
        (Honest s' ↔ ¬ ((wait = false ∧ Grants s call) ∧ (s.2.state = .stopped ∨ s.2.state = .listening))) := by
  refine after_turn ?_ ?_ ?_
  · rintro rfl - s' hs'
    exact iff_of_true hs'.honest (by simp)
  · rintro rfl a s' h
    obtain ⟨t, ht, hon⟩ := hturn a
    rw [h.honest_iff_of_turn ht hon]
    exact not_congr (and_iff_right ⟨rfl, h.grants⟩).symm
  · intro e s' h
    exact iff_of_true (h.honest_of_error hs) fun hmisleads => h.not_grants hmisleads.1.2

namespace Operation

/-- An honest state stays honest, unless the operation misleads. -/
theorem honest_next_iff (op : Operation τ) {s : World σ τ × Backend τ} (hs : Honest s) :
    Honest (op.next s) ↔ ¬ op.Misleads s := by
  refine After.stateAfter (R := fun s' => Honest s' ↔ ¬ op.Misleads s) ?_
  cases op with
  | stop timeout =>
    refine after_stop_state timeout (fun s₁ h₁ => ?_) fun e s₁ h₁ => ?_
    · obtain ⟨w, -, hpast⟩ := h₁.past
      refine iff_of_true ⟨fun _ => ?_, nofun⟩ (by simp [Misleads, Turns])
      rw [hpast]
      exact lastTurn_cons (by rw [h₁.backend]; exact if_pos rfl) _
    · exact iff_of_true (h₁.honest_of_error hs) (by simp [Misleads, Turns])
  | start wait => exact after_object_bind (honest_turn_iff hs fun _ => ⟨.start, if_pos rfl, .inl rfl⟩)
  | restart timeout wait => exact after_object_bind (honest_turn_iff hs fun _ => ⟨.restart, if_pos rfl, .inr rfl⟩)
  | waitListening policy =>
    have hawaited {s' : World σ τ × Backend τ} (hs' : Awaited s') :
        Honest s' ↔ ¬ (Operation.waitListening policy).Misleads s :=
      iff_of_true hs'.honest (by simp [Misleads, Turns])
    cases policy with
    | some policy => exact (after_waitListening policy s).mono fun _ _ => hawaited
    | none => exact (after_waitUsual_state s).mono fun _ _ => hawaited
  | remove =>
    refine (after_remove_state s).mono fun r s' hpost => iff_of_true ?_ (by simp [Misleads, Turns])
    rcases hpost with ⟨-, -, rfl⟩ | ⟨-, ⟨-, hstate⟩ | ⟨e, -, h⟩⟩
    · exact hs
    · exact .of_state (by simp [hstate]) (by simp [hstate])
    · exact h.honest_of_error hs

end Operation

/-! ## After a removal -/

/-- Between `w` and `w'` no removal of a container is asked for. -/
abbrev Unremoved : World σ τ → World σ τ → Prop :=
  Asks fun r _ => ∀ c, r ≠ .docker (.remove c)

/-- What was removed at `s` is still recorded as removed, and its removal was not asked for again. -/
structure StaysRemoved (s s' : World σ τ × Backend τ) : Prop where
  state : s'.2.state = .removed
  unremoved : Unremoved s.1 s'.1

theorem StaysRemoved.called {s s₁ s₂ : World σ τ × Backend τ} {call : DockerCall}
    {r : Except (Fault τ) call.Answer} (h : StaysRemoved s s₁) (hcalled : Called s₁ call r s₂)
    (hcall : ∀ c, call ≠ .remove c) : StaysRemoved s s₂ := by
  refine ⟨by rw [hcalled.backend, h.state], trans_of Unremoved h.unremoved (hcalled.asks ?_)⟩
  intro c hc
  exact hcall c (Request.docker.inj hc)

theorem staysRemoved_turn_iff {level : Log.Level} {source : Log.Source} {message : String} {call : DockerCall}
    {wait : Bool} {s s₁ : World σ τ × Backend τ} (h : StaysRemoved s s₁) (hcall : ∀ c, call ≠ .remove c) :
    After (world (record level source message) >>= fun _ => world (docker call) >>= fun _ =>
      if wait then waitUsual else pure ()) s₁ fun _ s' =>
        (StaysRemoved s s' ↔ ¬ (wait = true ∧ Grants s₁ call)) := by
  refine after_turn ?_ ?_ ?_
  · rintro rfl hgrants s' hs'
    exact iff_of_false (fun h' => hs'.state_ne h'.state) fun hno => hno ⟨rfl, hgrants⟩
  · rintro rfl a s' hcalled
    exact iff_of_true (h.called hcalled hcall) (by simp)
  · intro e s' hcalled
    exact iff_of_true (h.called hcalled hcall) fun hrevives => hcalled.not_grants hrevives.2

/-- A removed backend stays so, unless the operation revives it. -/
theorem Operation.staysRemoved_next_iff (op : Operation τ) {s s₁ : World σ τ × Backend τ}
    (h : StaysRemoved s s₁) : StaysRemoved s (op.next s₁) ↔ ¬ op.Revives s₁ := by
  refine After.stateAfter (R := fun s' => StaysRemoved s s' ↔ ¬ op.Revives s₁) ?_
  cases op with
  | stop timeout =>
    refine after_stop_state timeout (fun s₂ h₂ => ?_) fun e s₂ h₂ => ?_
    · exact iff_of_false (fun h' => nomatch h'.state) fun hno => hno h₂.grants
    · exact iff_of_true (h.called h₂ nofun) h₂.not_grants
  | start wait => exact after_object_bind (staysRemoved_turn_iff h nofun)
  | restart timeout wait => exact after_object_bind (staysRemoved_turn_iff h nofun)
  | waitListening policy =>
    have hawaited {s' : World σ τ × Backend τ} (hs' : Awaited s') :
        StaysRemoved s s' ↔ ¬ (Operation.waitListening policy).Revives s₁ :=
      iff_of_false (fun h' => hs'.state_ne h'.state) fun hno => hno trivial
    cases policy with
    | some policy => exact (after_waitListening policy s₁).mono fun _ _ => hawaited
    | none => exact (after_waitUsual_state s₁).mono fun _ _ => hawaited
  | remove =>
    refine (after_remove_state s₁).mono fun r s' hpost => ?_
    rcases hpost with ⟨-, -, rfl⟩ | ⟨hstate, -⟩
    · exact iff_of_true h id
    · exact absurd h.state hstate

/-! ## Sequences of operations -/

namespace Operation

variable {ops : List (Operation τ)} {s : World σ τ × Backend τ}

/-- If every operation keeps `I` unless it is bad, then `I` holds all along a sequence if and only if none of
its operations is bad where it comes. -/
theorem forall_prefix_iff {I : World σ τ × Backend τ → Prop} {Bad : Operation τ → World σ τ × Backend τ → Prop}
    (hstep : ∀ op s, I s → (I (op.next s) ↔ ¬ Bad op s)) (hs : I s) :
    (∀ done, done <+: ops → I (after done s)) ↔
      ∀ done op rest, ops = done ++ op :: rest → ¬ Bad op (after done s) := by
  have hlast (done : List (Operation τ)) (op : Operation τ) :
      after (done ++ [op]) s = op.next (after done s) := by
    simp [after]
  constructor
  · rintro hall done op rest rfl
    rw [← hstep op _ (hall done (List.prefix_append _ _)), ← hlast]
    exact hall _ ⟨rest, by simp⟩
  · intro hgood done
    -- on the operations that were done, from the last one back
    induction done using List.reverseRecOn with
    | nil => exact fun _ => hs
    | append_singleton done op ih =>
      rintro ⟨rest, rfl⟩
      have hdone : I (after done s) := ih ⟨op :: rest, by simp⟩
      rw [hlast, hstep op _ hdone]
      exact hgood done op rest (by simp)

end Operation

/-! ## Backends that are launched -/

theorem after_waitOrRemove_state (s : World σ τ × Backend τ) :
    After waitOrRemove s fun r s' => r = .ok () → Awaited s' := by
  refine after_attempt_bind (after_waitUsual_state s) ?_
  rintro (e | _) s₁ h₁
  · refine after_ite (fun _ => ?_) fun _ => after_throw (by simp)
    refine after_object_bind (after_record_bind fun s₂ _ => ?_)
    exact after_bind after_trivial (fun _ _ _ => after_throw (by simp)) (by simp)
  · exact after_pure fun _ => h₁

/-- The state of a backend that was launched is honest. -/
theorem after_launch_honest (site : Site τ) (order : Order τ) (w : World σ τ) :
    After (launch site order) w fun r w' => ∀ b, r = .ok b → Honest (w', b) := by
  unfold launch
  refine after_bind after_trivial (fun policy w₁ _ => ?_) (by simp)
  refine after_bind after_trivial (fun name w₂ _ => after_record_act_bind fun w₃ _ => ?_) (by simp)
  refine after_bind after_trivial (fun container w₄ _ => ?_) (by simp)
  refine after_bind after_trivial (fun _ w₅ _ => ?_) (by simp)
  refine after_start_conclude (after_waitOrRemove_state _) ?_ (by simp)
  intro _ s₆ h₆
  refine after_pure ?_
  rintro _ ⟨⟩
  exact (h₆ rfl).honest

/-- **When the state of a backend is honest.** The state of a new backend is honest, and that of one that was
launched. From an honest state, states are honest all along a sequence of operations if and only if none of
them is a start or restart that succeeds and is not waited for, while the state is stopped or listening. After
a removal, the backend stays removed all along a sequence of operations, and its removal is not asked for
again, if and only if none of them is a wait, a stop that succeeds, or a start or restart that succeeds and is
waited for. -/
theorem honest_iff (s : World σ τ × Backend τ) (ops : List (Operation τ)) :
    (s.2.state = .requested → Honest s) ∧
    (∀ (site : Site τ) (order : Order τ),
      After (launch site order) s.1 fun r w => ∀ b, r = .ok b → Honest (w, b)) ∧
    (Honest s → ((∀ done, done <+: ops → Honest (Operation.after done s)) ↔
      ∀ done op rest, ops = done ++ op :: rest → ¬ op.Misleads (Operation.after done s))) ∧
    After remove s fun r t => r = .ok () →
      ((∀ done, done <+: ops → StaysRemoved t (Operation.after done t)) ↔
        ∀ done op rest, ops = done ++ op :: rest → ¬ op.Revives (Operation.after done t)) := by
  refine ⟨fun h => .of_state (by simp [h]) (by simp [h]), fun site order => after_launch_honest site order s.1,
    fun hs => ?_, ?_⟩
  · exact Operation.forall_prefix_iff (I := Honest) (fun op _ h => op.honest_next_iff h) hs
  · refine (after_remove_state s).mono fun r t hpost hr => ?_
    have hstate : t.2.state = .removed := by
      rcases hpost with ⟨hstate, -, rfl⟩ | ⟨-, ⟨-, hstate⟩ | ⟨e, hfault, -⟩⟩
      · exact hstate
      · exact hstate
      · cases hr.symm.trans hfault
    exact Operation.forall_prefix_iff (I := StaysRemoved t) (fun op _ h => op.staysRemoved_next_iff h)
      ⟨hstate, refl_of Unremoved t.1⟩

/-- A daemon that does what it is called for, but has nothing to show. -/
def willing : (r : Request Rat) → Except (Fault Rat) r.Answer
  | .docker (.start _) | .docker (.stop _ _) | .docker (.restart _ _) | .docker (.remove _) => .ok ()
  | _ => .error (.foreign (.plain (.docker .notFound) "No such container"))

def newcomer : Backend Rat where
  container := ⟨0, "e1-backend-00000001"⟩
  name := "e1-backend-00000001"
  environmentId := "e1"
  network := "e1-net"
  image := "nginx:alpine"
  env := []
  exposedPort := "80/tcp"
  address := "localhost"
  policy := ⟨1, 1, 1, none, by decide +kernel, by decide +kernel, by decide +kernel⟩
  connectTimeout := 1
  state := .requested
  ip := .null
  hostPort := none

/-- A backend that was stopped is started again, and its state is still that it is stopped; one that was
removed is waited for, and its state is not that it is removed. -/
theorem honest_iff_misled :
    (∃ done, done <+: [.stop 5, .start false] ∧
      ¬ Honest (Operation.after done ((Constant.begin, newcomer) : World (Constant willing) Rat × Backend Rat))) ∧
    After remove ((Constant.begin, newcomer) : World (Constant willing) Rat × Backend Rat) fun _ t =>
      ∃ done, done <+: [.waitListening none] ∧ ¬ StaysRemoved t (Operation.after done t) := by
  let s : World (Constant willing) Rat × Backend Rat := (Constant.begin, newcomer)
  constructor
  · obtain ⟨hnew, -, hall, -⟩ := honest_iff s [.stop 5, .start false]
    have hmisled : ¬ ∀ done, done <+: [.stop 5, .start false] → Honest (Operation.after done s) := by
      rw [hall (hnew rfl)]
      intro hgood
      exact hgood [.stop 5] (.start false) [] rfl ⟨⟨rfl, (), rfl⟩, .inl rfl⟩
    simpa using hmisled
  · obtain ⟨-, -, -, hremoved⟩ := honest_iff s [.waitListening none]
    have hok : After remove s fun r _ => r = .ok () := rfl
    refine (hok.and hremoved).mono ?_
    rintro r t ⟨hr, hiff⟩
    have hrevived : ¬ ∀ done, done <+: [.waitListening none] → StaysRemoved t (Operation.after done t) := by
      rw [hiff hr]
      intro hgood
      exact hgood [] (.waitListening none) [] rfl trivial
    simpa using hrevived

end Backend

end ProxyTestbed
