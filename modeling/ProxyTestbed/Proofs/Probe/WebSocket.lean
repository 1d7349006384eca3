import Mathlib.Data.List.Induction
import ProxyTestbed.Probe.WebSocket
import ProxyTestbed.Proofs.Wait.Constant
import ProxyTestbed.Proofs.World.Asks

/-!
# When a WebSocket probe is closed

A probe is closed by its own close frame or by that of the peer, and by nothing else. While it is open, each
operation asks its connection exactly once; once it is closed, no operation asks anything.

* `Operation.after_perform`: what one operation does with an open probe.
* `Operation.attempt_perform_of_closed`: a closed probe is left as it is.
* `closed_once`: both after any operations, and how often the connection is closed.
-/

namespace ProxyTestbed

variable {σ τ : Type}

/-- The request is for an open WebSocket connection. -/
def Request.isFrame : Request τ → Bool
  | sendFrame _ _ | receiveFrame _ | closeConnection _ _ _ _ => true
  | _ => false

/-- An open WebSocket connection fails only with errors of a connection. -/
def Host.Breaks (σ : Type) {τ : Type} [Host σ τ] : Prop :=
  ∀ (r : Request τ) (h : σ) (fault : Fault τ), r.isFrame = true → (Host.answer r h).1 = .error fault →
    fault.comesFrom WebSocketProbe.breaks = true

/-- The event is that a connection was asked to close. -/
def Event.isClosing (connection : Nat) : Event τ → Bool
  | .asked (.closeConnection key _ _ _) _ => key == connection
  | _ => false

/-- From `w` to `w'` one request is made, and answered by `a`; else there are log records only. -/
def AsksOnce [Host σ τ] (r : Request τ) (a : Except (Fault τ) r.Answer) (w w' : World σ τ) : Prop :=
  ∃ w₁, attempt (ask r) w = .ok a w₁ ∧ Logs w₁ w'

theorem AsksOnce.answer_eq [Host σ τ] {r : Request τ} {a : Except (Fault τ) r.Answer} {w w' : World σ τ}
    (h : AsksOnce r a w w') : a = (Host.answer r w.host).1 := by
  obtain ⟨w₁, hrun, -⟩ := h
  exact ((after_ask r w).attempted hrun).1

theorem AsksOnce.breaks [Host σ τ] (hσ : Host.Breaks σ) {r : Request τ} (hr : r.isFrame = true) {fault : Fault τ}
    {w w' : World σ τ} (h : AsksOnce r (.error fault) w w') : fault.comesFrom WebSocketProbe.breaks = true :=
  hσ r w.host fault hr h.answer_eq.symm

theorem Logs.countP_isClosing {w w' : World σ τ} (h : Logs w w') (connection : Nat) :
    w'.past.countP (·.isClosing connection) = w.past.countP (·.isClosing connection) := by
  obtain ⟨es, rfl, hes⟩ := h
  have hnone : es.countP (·.isClosing connection) = 0 := by
    refine List.countP_eq_zero.mpr fun e he => ?_
    obtain ⟨level, source, message, rfl⟩ := hes e he
    exact Bool.false_ne_true
  rw [List.countP_append, hnone, Nat.zero_add]

theorem AsksOnce.countP_isClosing [Host σ τ] {r : Request τ} {a : Except (Fault τ) r.Answer}
    {w w' : World σ τ} (h : AsksOnce r a w w') (connection : Nat) :
    w'.past.countP (·.isClosing connection) =
      w.past.countP (·.isClosing connection) + if (Event.asked r a).isClosing connection then 1 else 0 := by
  obtain ⟨w₁, hrun, hlogs⟩ := h
  obtain ⟨-, -, -, hpast⟩ := (after_ask r w).attempted hrun
  rw [hlogs.countP_isClosing, hpast, List.countP_cons]

namespace WebSocketProbe

/-! ## Operations -/

/-- What a scenario does with a probe. -/
inductive Operation (τ : Type)
  | sendText (message : String)
  | sendBinary (payload : Bytes)
  | receive
  | receiveText
  | close (status : Int) (reason : String)
  /-- The end of a block that uses the probe, normally or by a fault. -/
  | leave (ending : Except (Fault τ) Unit)

namespace Operation

/-- What the operation asks of an open connection. -/
def request (c : Connection τ) : Operation τ → Request τ
  | sendText message => .sendFrame c.key ⟨textFrame, .text message⟩
  | sendBinary payload => .sendFrame c.key ⟨binaryFrame, .bytes payload⟩
  | receive | receiveText => .receiveFrame c.key
  | close status reason => .closeConnection c.key status (Text.utf8 reason) closeTimeout
  | leave _ => .closeConnection c.key normalStatus (Text.utf8 "") closeTimeout

/-- With this answer of the connection, the operation closes the probe. -/
def closes (c : Connection τ) : (op : Operation τ) → Except (Fault τ) (op.request c).Answer → Bool
  | close _ _, _ | leave _, _ => true
  | receive, a => received a
  | receiveText, a => received a
  | sendText _, _ | sendBinary _, _ => false
where
  received : Except (Fault τ) Frame → Bool
    | .ok frame => frame.opcode == closeFrame
    | .error _ => false

/-- How the operation fails with this answer of the connection, if it does. -/
def failure? (c : Connection τ) :
    (op : Operation τ) → Except (Fault τ) (op.request c).Answer → Option ProbeFailure
  | sendText _, a => sent a
  | sendBinary _, a => sent a
  | receive, a => received a
  | receiveText, a => received a
  | close _ _, _ | leave _, _ => none
where
  sent : Except (Fault τ) Unit → Option ProbeFailure
    | .ok () => none
    | .error _ => some .closed
  received : Except (Fault τ) Frame → Option ProbeFailure
    | .ok frame => if frame.opcode = closeFrame then some .closed else none
    | .error e => some (if e.comesFrom Foreign.isWebSocketTimeout then .timeout else .closed)

/-- The operation asks an open connection to close. -/
def shuts : Operation τ → Bool
  | close _ _ | leave _ => true
  | _ => false

/-- How the operation fails on a closed probe, if it does. -/
def refusal? : Operation τ → Option ProbeFailure
  | close _ _ | leave _ => none
  | _ => some .closed

/-- How the operation ends if nothing fails: as the block that is left, or normally. -/
def ending : Operation τ → Except (Fault τ) Unit
  | leave ending => ending
  | _ => .ok ()

/-- The operation ends in a problem of the probe, or it does not fail. -/
def Ends (op : Operation τ) (failure? : Option ProbeFailure) (r : Except (Fault τ) Unit) : Prop :=
  match failure? with
  | some failure => ∃ p, r = .error (.probe p) ∧ p.failure = failure
  | none => r = op.ending

variable [Seconds τ] [Host σ τ]

def perform : Operation τ → On σ τ (WebSocketProbe τ) Unit
  | sendText message => WebSocketProbe.sendText message
  | sendBinary payload => WebSocketProbe.sendBinary payload
  | receive => do let _ ← WebSocketProbe.receive
  | receiveText => do let _ ← WebSocketProbe.receiveText
  | close status reason => WebSocketProbe.close status reason
  | leave ending => closing (conclude ending)

/-- The probe after the operation, whether or not it ends in a fault. -/
def next (op : Operation τ) (s : World σ τ × WebSocketProbe τ) : World σ τ × WebSocketProbe τ :=
  stateAfter op.perform s

/-- The probe after operations, from first to last. -/
def after (ops : List (Operation τ)) (s : World σ τ × WebSocketProbe τ) : World σ τ × WebSocketProbe τ :=
  ops.foldl (fun s op => op.next s) s

/-- The probe is open, and the operation closes it. -/
def Closes (op : Operation τ) (s : World σ τ × WebSocketProbe τ) : Prop :=
  s.2.closed = false ∧
    op.closes s.2.connection (Host.answer (op.request s.2.connection) s.1.host).1 = true

end Operation

/-! ## Parts of an operation -/

section

variable {s : World σ τ × WebSocketProbe τ}

/-- A failure is reported as a problem of the probe. -/
def Reports {α : Type} (failure? : Option ProbeFailure) (r : Except (Fault τ) α) : Prop :=
  match failure? with
  | some failure => ∃ p, r = .error (.probe p) ∧ p.failure = failure
  | none => ∃ a, r = .ok a

theorem Operation.ends_of_reports {op : Operation τ} (hop : op.ending = .ok ()) {failure? : Option ProbeFailure}
    {r : Except (Fault τ) Unit} (h : Reports failure? r) : op.Ends failure? r := by
  cases failure? with
  | some failure => exact h
  | none =>
    obtain ⟨⟨⟩, rfl⟩ := h
    exact hop.symm

theorem Reports.of_ok {α β : Type} {failure? : Option ProbeFailure} {x : α}
    (h : Reports failure? (.ok x : Except (Fault τ) α)) (y : β) :
    Reports failure? (.ok y : Except (Fault τ) β) := by
  cases failure? with
  | none => exact ⟨y, rfl⟩
  | some failure =>
    obtain ⟨p, hp, -⟩ := h
    cases hp

theorem Reports.of_error {α β : Type} {failure? : Option ProbeFailure} {fault : Fault τ}
    (h : Reports failure? (.error fault : Except (Fault τ) α)) :
    Reports failure? (.error fault : Except (Fault τ) β) := by
  cases failure? with
  | none =>
    obtain ⟨x, hx⟩ := h
    cases hx
  | some failure =>
    obtain ⟨p, hp, hkind⟩ := h
    cases hp
    exact ⟨p, rfl, hkind⟩

/-- What is done with the result of an act does not change how the act fails. -/
theorem after_reports_bind {α β ι : Type} {act : On σ τ (WebSocketProbe τ) α}
    {f : α → On σ τ (WebSocketProbe τ) β} (hf : ∀ x s, ∃ y, f x s = .ok y s)
    {P : ι → World σ τ × WebSocketProbe τ → Prop} {Q : ι → Prop} {failure? : ι → Option ProbeFailure}
    (h : After act s fun r s' => ∃ i, P i s' ∧ (Q i → Reports (failure? i) r)) :
    After (act >>= f) s fun r s' => ∃ i, P i s' ∧ (Q i → Reports (failure? i) r) := by
  refine after_bind h ?_ ?_
  · rintro x s' ⟨i, hi, hreports⟩
    obtain ⟨y, hy⟩ := hf x s'
    unfold After
    rw [hy]
    exact ⟨i, hi, fun hQ => (hreports hQ).of_ok y⟩
  · rintro fault s' ⟨i, hi, hreports⟩
    exact ⟨i, hi, fun hQ => (hreports hQ).of_error⟩

theorem checkOpen_of_open (h : s.2.closed = false) (action : String) : checkOpen action s = .ok () s := by
  obtain ⟨w, connection, url, host, closed⟩ := s
  obtain rfl : closed = false := h
  rfl

theorem after_checkOpen_bind {α : Type} {action : String} {f : Unit → On σ τ (WebSocketProbe τ) α}
    {P : Except (Fault τ) α → World σ τ × WebSocketProbe τ → Prop} (h : s.2.closed = false)
    (hf : After (f ()) s P) : After (checkOpen action >>= f) s P := by
  have hcheck : After (checkOpen action) s fun r s' => r = .ok () ∧ s' = s := by
    unfold After
    rw [checkOpen_of_open h]
    exact ⟨rfl, rfl⟩
  refine after_bind hcheck ?_ ?_
  · rintro _ _ ⟨-, rfl⟩
    exact hf
  · rintro _ _ ⟨hok, -⟩
    cases hok

/-- Whatever is asked beside a probe, the probe stays as it is. -/
theorem after_world_ask [Host σ τ] (r : Request τ) (s : World σ τ × WebSocketProbe τ) :
    After (world (ask r)) s fun a s' => AsksOnce r a s.1 s'.1 ∧ s'.2 = s.2 :=
  ((after_run (ask r) s.1).mono fun _ w hrun => ⟨w, hrun, refl_of Logs w⟩).world

theorem with_closed {p : WebSocketProbe τ} {b : Bool} (h : p.closed = b) : { p with closed := b } = p := by
  subst h
  rfl

/-- The answer is none of a fault, or of an error of a connection. -/
def Breaking {α : Type} (a : Except (Fault τ) α) : Prop :=
  ∀ fault, a = .error fault → fault.comesFrom breaks = true

/-- A connection is asked. Its error is reported; another fault goes on as it is. -/
theorem after_reporting_ask [Host σ τ] (r : Request τ) (report : Foreign → Option (Fault τ))
    (s : World σ τ × WebSocketProbe τ) :
    After (reporting report (world (ask r))) s fun res s' => s'.2 = s.2 ∧
      ∃ a, AsksOnce r a s.1 s'.1 ∧ match res with
        | .ok answer => a = .ok answer
        | .error fault => ∃ fault', a = .error fault' ∧
            (Breaking a → ∃ e, fault' = .foreign e ∧ breaks e = true ∧ fault = (report e).getD fault') := by
  refine after_reporting (after_world_ask r s) ?_ ?_ ?_
  · rintro answer s' ⟨hasks, hsame⟩
    exact ⟨hsame, .ok answer, hasks, rfl⟩
  · rintro e s' ⟨hasks, hsame⟩
    exact ⟨hsame, .error (.foreign e), hasks, .foreign e, rfl, fun hbreaks => ⟨e, rfl, hbreaks _ rfl, rfl⟩⟩
  · rintro fault s' ⟨hasks, hsame⟩ hforeign
    refine ⟨hsame, .error fault, hasks, fault, rfl, fun hbreaks => ?_⟩
    obtain ⟨e, rfl, -⟩ := Fault.exists_foreign (hbreaks fault rfl)
    exact absurd rfl (hforeign e)

end

section

variable [Seconds τ] [Host σ τ] {s : World σ τ × WebSocketProbe τ}

/-! ## A closed probe -/

theorem Operation.attempt_perform_of_closed (op : Operation τ) (h : s.2.closed = true) :
    ∃ r, attempt op.perform s = .ok r s ∧ op.Ends op.refusal? r := by
  obtain ⟨w, connection, url, host, closed⟩ := s
  obtain rfl : closed = true := h
  cases op with
  | sendText message => exact ⟨_, rfl, _, rfl, rfl⟩
  | sendBinary payload => exact ⟨_, rfl, _, rfl, rfl⟩
  | receive => exact ⟨_, rfl, _, rfl, rfl⟩
  | receiveText => exact ⟨_, rfl, _, rfl, rfl⟩
  | close status reason => exact ⟨_, rfl, rfl⟩
  | leave ending => cases ending <;> exact ⟨_, rfl, rfl⟩

/-! ## An open probe -/

omit [Seconds τ] in
theorem after_send (frame : Frame) (h : s.2.closed = false) :
    After (send frame) s fun r s' => ∃ a, (AsksOnce (.sendFrame s.2.connection.key frame) a s.1 s'.1 ∧
      s'.2 = s.2) ∧ (Breaking a → Reports (Operation.failure?.sent a) r) := by
  refine after_checkOpen_bind h (after_object_bind ?_)
  refine (after_reporting_ask _ _ s).mono ?_
  rintro (fault | answer) s' ⟨hsame, a, hasks, hanswer⟩
  · obtain ⟨fault', rfl, hreport⟩ := hanswer
    refine ⟨.error fault', ⟨hasks, hsame⟩, fun hbreaking => ?_⟩
    obtain ⟨e, rfl, hbreaks, rfl⟩ := hreport hbreaking
    simp only [hbreaks, if_true]
    exact ⟨_, rfl, rfl⟩
  · subst hanswer
    exact ⟨.ok answer, ⟨hasks, hsame⟩, fun _ => ⟨answer, rfl⟩⟩

theorem after_receive (h : s.2.closed = false) :
    After receive s fun r s' => ∃ a, (AsksOnce (.receiveFrame s.2.connection.key) a s.1 s'.1 ∧
      s'.2 = { s.2 with closed := Operation.closes.received a }) ∧
      (Breaking a → Reports (Operation.failure?.received a) r) := by
  refine after_checkOpen_bind h (after_object_bind ?_)
  refine after_bind (after_reporting_ask _ _ s) ?_ ?_
  · rintro frame s' ⟨hsame, a, hasks, rfl⟩
    by_cases hclose : frame.opcode = closeFrame
    · simp only [hclose, if_true]
      refine after_change_bind (after_throw ⟨.ok frame, ⟨hasks, ?_⟩, fun _ => ?_⟩)
      · simp only [hsame, Operation.closes.received, hclose, beq_self_eq_true]
      · simp only [Operation.failure?.received, hclose, if_true]
        exact ⟨_, rfl, rfl⟩
    · simp only [hclose, if_false]
      refine after_pure ⟨.ok frame, ⟨hasks, ?_⟩, fun _ => ?_⟩
      · rw [hsame, Operation.closes.received, beq_eq_false_iff_ne.mpr hclose, with_closed h]
      · simp only [Operation.failure?.received, hclose, if_false]
        exact ⟨_, rfl⟩
  · rintro fault s' ⟨hsame, a, hasks, fault', rfl, hreport⟩
    refine ⟨.error fault', ⟨hasks, ?_⟩, fun hbreaking => ?_⟩
    · rw [hsame, Operation.closes.received, with_closed h]
    · obtain ⟨e, rfl, hbreaks, rfl⟩ := hreport hbreaking
      by_cases htimeout : e.isWebSocketTimeout = true
      · simp [Reports, Operation.failure?.received, htimeout, Fault.comesFrom, Fault.foreign?, ProbeProblem.make]
      · simp [Reports, Operation.failure?.received, htimeout, hbreaks, Fault.comesFrom, Fault.foreign?,
          ProbeProblem.make]

theorem after_receiveText (h : s.2.closed = false) :
    After receiveText s fun r s' => ∃ a, (AsksOnce (.receiveFrame s.2.connection.key) a s.1 s'.1 ∧
      s'.2 = { s.2 with closed := Operation.closes.received a }) ∧
      (Breaking a → Reports (Operation.failure?.received a) r) :=
  after_reports_bind (f := fun x : Int × Bytes => pure (Text.ofBytes x.2)) (fun x _ => ⟨Text.ofBytes x.2, rfl⟩)
    (after_receive h)

theorem after_close (status : Int) (reason : String) (h : s.2.closed = false) :
    After (close status reason) s fun r s' =>
      ∃ a, AsksOnce (.closeConnection s.2.connection.key status (Text.utf8 reason) closeTimeout) a s.1 s'.1 ∧
        s'.2 = { s.2 with closed := true } ∧ (Breaking a → r = .ok ()) := by
  unfold close
  refine after_object_bind ?_
  simp only [h, Bool.false_eq_true, if_false]
  refine after_change_bind (after_attempt_bind (after_world_ask _ _) ?_)
  rintro (fault | _) s' ⟨hasks, hsame⟩
  · refine after_ite (fun _ => after_world ?_) fun hbreaks => after_throw ⟨.error fault, hasks, hsame, ?_⟩
    · obtain ⟨w₁, hask, hlogs⟩ := hasks
      have hrecord {level source message} : After (record level source message) s'.1 fun r w =>
          r = .ok () ∧ Logs s'.1 w := ⟨rfl, [.record level source message], rfl, by simp⟩
      refine hrecord.mono ?_
      rintro r w ⟨rfl, hw⟩
      exact ⟨.error fault, ⟨w₁, hask, trans_of Logs hlogs hw⟩, hsame, fun _ => rfl⟩
    · exact fun hbreaking => absurd (hbreaking fault rfl) hbreaks
  · exact after_pure ⟨.ok (), hasks, hsame, fun _ => rfl⟩

/-- An operation on an open probe asks once, and the answer decides whether it closes the probe. Where the connection
fails with nothing but errors of a connection, the answer decides how the operation ends as well. -/
theorem Operation.after_perform_asks (op : Operation τ) (h : s.2.closed = false) :
    After op.perform s fun r s' => ∃ a, AsksOnce (op.request s.2.connection) a s.1 s'.1 ∧
      s'.2 = { s.2 with closed := op.closes s.2.connection a } ∧
      (Breaking a → op.Ends (op.failure? s.2.connection a) r) := by
  cases op with
  | sendText message =>
    refine (after_send ⟨textFrame, .text message⟩ h).mono ?_
    rintro r s' ⟨a, ⟨hasks, hsame⟩, hreports⟩
    exact ⟨a, hasks, hsame.trans (with_closed h).symm, fun hbreaking => ends_of_reports rfl (hreports hbreaking)⟩
  | sendBinary payload =>
    refine (after_send ⟨binaryFrame, .bytes payload⟩ h).mono ?_
    rintro r s' ⟨a, ⟨hasks, hsame⟩, hreports⟩
    exact ⟨a, hasks, hsame.trans (with_closed h).symm, fun hbreaking => ends_of_reports rfl (hreports hbreaking)⟩
  | receive =>
    refine (after_reports_bind (fun _ _ => ⟨(), rfl⟩) (after_receive h)).mono ?_
    rintro r s' ⟨a, ⟨hasks, hclosed⟩, hreports⟩
    exact ⟨a, hasks, hclosed, fun hbreaking => ends_of_reports rfl (hreports hbreaking)⟩
  | receiveText =>
    refine (after_reports_bind (fun _ _ => ⟨(), rfl⟩) (after_receiveText h)).mono ?_
    rintro r s' ⟨a, ⟨hasks, hclosed⟩, hreports⟩
    exact ⟨a, hasks, hclosed, fun hbreaking => ends_of_reports rfl (hreports hbreaking)⟩
  | close status reason =>
    refine (after_close status reason h).mono ?_
    rintro r s' ⟨a, hasks, hclosed, hr⟩
    exact ⟨a, hasks, hclosed, hr⟩
  | leave ending =>
    refine after_always (P := fun r s' => r = ending ∧ s' = s) (after_conclude ⟨rfl, rfl⟩) ?_
    rintro _ _ ⟨rfl, rfl⟩
    refine (after_close normalStatus "" h).mono ?_
    rintro (fault | _) s' ⟨a, hasks, hclosed, hr⟩
    · exact ⟨a, hasks, hclosed, fun hbreaking => nomatch hr hbreaking⟩
    · exact ⟨a, hasks, hclosed, fun _ => rfl⟩

/-! ## Any operations -/

/-- What an operation does with a probe. -/
structure Operation.Obeys (op : Operation τ) (s : World σ τ × WebSocketProbe τ) : Prop where
  /-- A closed probe is left as it is, and nothing is asked. -/
  idle : s.2.closed = true → ∃ r, attempt op.perform s = .ok r s ∧ op.Ends op.refusal? r
  /-- An open one asks its connection once. -/
  asks : s.2.closed = false → After op.perform s fun r s' => ∃ a,
    AsksOnce (op.request s.2.connection) a s.1 s'.1 ∧
      s'.2 = { s.2 with closed := op.closes s.2.connection a } ∧ op.Ends (op.failure? s.2.connection a) r

/-- How often the connection of the probe was asked to close. -/
def closings (connection : Nat) (s : World σ τ × WebSocketProbe τ) : Nat :=
  s.1.past.countP (·.isClosing connection)

/-- What an operation makes of a probe. -/
structure Operation.Makes (op : Operation τ) (s s' : World σ τ × WebSocketProbe τ) : Prop where
  connection : s'.2.connection = s.2.connection
  idle : s.2.closed = true → s' = s
  closed : s'.2.closed = true ↔ s.2.closed = true ∨ op.Closes s
  closings : closings s.2.connection.key s' =
    closings s.2.connection.key s + (!s.2.closed && op.shuts).toNat

omit [Seconds τ] [Host σ τ] in
theorem Operation.isClosing_request {c : Connection τ} {op : Operation τ}
    {a : Except (Fault τ) (op.request c).Answer} :
    (Event.asked (op.request c) a).isClosing c.key = op.shuts := by
  cases op <;> simp [Operation.request, Event.isClosing, Operation.shuts]

omit [Seconds τ] in
theorem Operation.closes_of_shuts {op : Operation τ} (hop : op.shuts = true) (h : s.2.closed = false) :
    op.Closes s := by
  cases op with
  | close status reason => exact ⟨h, rfl⟩
  | leave ending => exact ⟨h, rfl⟩
  | _ => cases hop

theorem Operation.makes_next (op : Operation τ) (s : World σ τ × WebSocketProbe τ) : op.Makes s (op.next s) := by
  cases hopen : s.2.closed with
  | true =>
    obtain ⟨r, hrun, -⟩ := op.attempt_perform_of_closed hopen
    have hnext : op.next s = s := stateAfter_of_attempt hrun
    rw [hnext]
    exact ⟨rfl, fun _ => rfl, by simp [hopen], by simp [hopen]⟩
  | false =>
    have hasked : After op.perform s fun _ s' => op.Makes s s' := by
      refine (op.after_perform_asks hopen).mono ?_
      rintro r s' ⟨a, hasks, hprobe, -⟩
      have ha := hasks.answer_eq
      have hcount := hasks.countP_isClosing s.2.connection.key
      refine ⟨by rw [hprobe], by simp [hopen], ?_, ?_⟩
      · simp [hprobe, hopen, Operation.Closes, ← ha]
      · rw [Operation.isClosing_request] at hcount
        rw [WebSocketProbe.closings, hcount, hopen]
        cases op.shuts <;> rfl
    exact hasked.stateAfter

omit [Seconds τ] in
/-- A connection is asked to close only while its probe is open, and that closes the probe. -/
theorem Operation.Makes.closings_le {op : Operation τ} {s' : World σ τ × WebSocketProbe τ} (h : op.Makes s s') :
    WebSocketProbe.closings s.2.connection.key s' + s.2.closed.toNat ≤
      WebSocketProbe.closings s.2.connection.key s + s'.2.closed.toNat := by
  rw [h.closings]
  cases hopen : s.2.closed with
  | true => simp [h.closed.mpr (.inl hopen)]
  | false =>
    cases hshuts : op.shuts with
    | true => simp [h.closed.mpr (.inr (Operation.closes_of_shuts hshuts hopen))]
    | false => simp

namespace Operation

theorem after_concat (ops : List (Operation τ)) (op : Operation τ) (s : World σ τ × WebSocketProbe τ) :
    after (ops ++ [op]) s = op.next (after ops s) := by
  rw [after, List.foldl_append]
  rfl

/-- A probe that is closed stays so, and its connection is not asked any more. -/
theorem after_of_closed (ops : List (Operation τ)) (h : s.2.closed = true) : after ops s = s := by
  induction ops with
  | nil => rfl
  | cons op ops ih =>
    have hnext : op.next s = s := (op.makes_next s).idle h
    calc after (op :: ops) s = after ops (op.next s) := rfl
      _ = after ops s := by rw [hnext]
      _ = s := ih

theorem closed_after_iff (ops : List (Operation τ)) (s : World σ τ × WebSocketProbe τ) :
    (after ops s).2.closed = true ↔
      s.2.closed = true ∨ ∃ done op, done ++ [op] <+: ops ∧ op.Closes (after done s) := by
  induction ops using List.reverseRecOn with
  | nil => simp [after]
  | append_singleton ops op ih =>
    rw [after_concat, (op.makes_next _).closed, ih]
    constructor
    · rintro ((hclosed | ⟨done, op', hprefix, hcloses⟩) | hcloses)
      · exact .inl hclosed
      · exact .inr ⟨done, op', hprefix.trans (List.prefix_append ops [op]), hcloses⟩
      · exact .inr ⟨ops, op, List.prefix_rfl, hcloses⟩
    · rintro (hclosed | ⟨done, op', hprefix, hcloses⟩)
      · exact .inl (.inl hclosed)
      · rcases List.prefix_concat_iff.mp hprefix with heq | hprefix
        · obtain ⟨rfl, hop⟩ := List.append_inj' heq rfl
          obtain rfl : op' = op := by simpa using hop
          exact .inr hcloses
        · exact .inl (.inr ⟨done, op', hprefix, hcloses⟩)

theorem closings_after (ops : List (Operation τ)) (s : World σ τ × WebSocketProbe τ) :
    (after ops s).2.connection = s.2.connection ∧
      closings s.2.connection.key (after ops s) + s.2.closed.toNat ≤
        closings s.2.connection.key s + (after ops s).2.closed.toNat := by
  induction ops using List.reverseRecOn with
  | nil => exact ⟨rfl, le_refl _⟩
  | append_singleton ops op ih =>
    obtain ⟨hconnection, hclosings⟩ := ih
    have hmakes := op.makes_next (after ops s)
    have hstep := hmakes.closings_le
    rw [hconnection] at hstep
    rw [after_concat]
    exact ⟨hmakes.connection.trans hconnection, by omega⟩

end Operation

variable (hσ : Host.Breaks σ)

include hσ

/-- Where a connection fails with nothing but errors of a connection, its answer decides all of an operation on an open
probe. -/
theorem Operation.after_perform (op : Operation τ) (h : s.2.closed = false) :
    After op.perform s fun r s' => ∃ a, AsksOnce (op.request s.2.connection) a s.1 s'.1 ∧
      s'.2 = { s.2 with closed := op.closes s.2.connection a } ∧ op.Ends (op.failure? s.2.connection a) r := by
  have hframe : (op.request s.2.connection).isFrame = true := by cases op <;> rfl
  refine (op.after_perform_asks h).mono ?_
  rintro r s' ⟨a, hasks, hprobe, hends⟩
  refine ⟨a, hasks, hprobe, hends ?_⟩
  rintro fault rfl
  exact hasks.breaks hσ hframe

/-- **When a WebSocket probe is closed.** After any operations on a probe, it is closed exactly if it was closed
before, or if one of them closed it: a close, the end of a block, or the receipt of a close frame. From then on
each operation leaves it as it is and asks nothing; sending and receiving end in a problem that says that it is
closed. As long as it is open, each operation asks its connection once. If that fails, it stays open unless the
operation is a close, and the problem is a timeout or that it is closed. A close and the end of a block report
no problem of their own. Over all operations the connection is asked to close at most once. -/
theorem closed_once (s : World σ τ × WebSocketProbe τ) (ops : List (Operation τ)) :
    (∀ op : Operation τ, op.Obeys (Operation.after ops s)) ∧
    ((Operation.after ops s).2.closed = true ↔
      s.2.closed = true ∨ ∃ done op, done ++ [op] <+: ops ∧ op.Closes (Operation.after done s)) ∧
    ((Operation.after ops s).2.closed = true →
      ∀ more, Operation.after (ops ++ more) s = Operation.after ops s) ∧
    closings s.2.connection.key (Operation.after ops s) ≤ closings s.2.connection.key s + 1 := by
  refine ⟨fun op => ⟨op.attempt_perform_of_closed, op.after_perform hσ⟩, Operation.closed_after_iff ops s,
    fun hclosed more => ?_, ?_⟩
  · have hsplit : Operation.after (ops ++ more) s = Operation.after more (Operation.after ops s) :=
      List.foldl_append
    rw [hsplit, Operation.after_of_closed more hclosed]
  · have hbound := (Operation.closings_after ops s).2
    have hone : (Operation.after ops s).2.closed.toNat ≤ 1 := Bool.toNat_le _
    omega

end

/-- A peer that takes what it is sent, answers with a close frame, and is gone then. -/
def leaving : (r : Request Rat) → Except (Fault Rat) r.Answer
  | .sendFrame _ _ => .ok ()
  | .receiveFrame _ => .ok ⟨closeFrame, .bytes []⟩
  | _ => .error (.foreign (.plain (.webSocket .closed) "socket is already closed."))

def dialled : WebSocketProbe Rat where
  connection := ⟨0, 101, [], none⟩
  url := "ws://localhost:8080/"
  host := "app.test"
  closed := false

/-- The close frame of the peer closes the probe, so that its own one is never sent. -/
theorem closed_once_by_peer : Host.Breaks (Constant leaving) ∧
    ∀ more, Operation.after ([.sendText "hello", .receive] ++ more)
      ((Constant.begin, dialled) : World (Constant leaving) Rat × WebSocketProbe Rat) =
        Operation.after [.sendText "hello", .receive] (Constant.begin, dialled) := by
  have hσ : Host.Breaks (Constant leaving) := by
    intro r h fault hr hfault
    cases r with
    | sendFrame connection frame => cases hfault
    | receiveFrame connection => cases hfault
    | closeConnection connection status reason timeout =>
      cases hfault
      rfl
    | _ => cases hr
  refine ⟨hσ, fun more => ?_⟩
  obtain ⟨-, hiff, hstays, -⟩ := closed_once hσ (Constant.begin, dialled) [.sendText "hello", .receive]
  refine hstays (hiff.mpr (.inr ⟨[.sendText "hello"], .receive, List.prefix_rfl, ?_⟩)) more
  exact ⟨rfl, rfl⟩

end WebSocketProbe

end ProxyTestbed
