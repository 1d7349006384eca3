import ProxyTestbed.Proofs.Backend.Held
import ProxyTestbed.Proofs.Wait.Loops

/-!
# Looking at a backend

A look at a backend asks the daemon about its container, and then its port. The daemon may say that there is
no such container; any other error of that call, and attributes that cannot be read, end the wait as they
are. `Request.Fine` rules these answers out.

* `looks_checkListening`: a look comes to a tidy end if and only if all its answers are fine.
* `after_waitUsual`: so does a wait, and if it ends without a fault, the backend is listening.
-/

namespace ProxyTestbed

variable {σ τ α β : Type}

/-- The daemon answers with errors of its own, and the system with its own. -/
structure Host.Typical (σ : Type) [Host σ τ] : Prop where
  docker : ∀ (call : DockerCall) (h : σ) (e : Fault τ),
    (answer (.docker call) h).1 = .error e → e.comesFrom Foreign.isApi = true
  socket : ∀ (r : Request τ) (h : σ) (e : Fault τ), r.isSocket = true →
    (answer r h).1 = .error e → e.comesFrom Foreign.isSystem = true

/-- The address in the network and the port of the host can be read from the report. -/
def ContainerReport.Readable (network port : String) (report : ContainerReport) : Prop :=
  ∃ settings ip hostPort, Inspection.networkSettings report.attributes = .ok settings ∧
    Inspection.address settings network = .ok ip ∧
    Inspection.publishedPort settings port = .ok hostPort

/-- What is read from a report: the address and the port. -/
def ContainerReport.read (network port : String) (report : ContainerReport) :
    Except InspectionProblem (Datum × Option Int) := do
  let settings ← Inspection.networkSettings report.attributes
  return (← Inspection.address settings network, ← Inspection.publishedPort settings port)

theorem ContainerReport.readable_iff {network port : String} {report : ContainerReport} :
    report.Readable network port ↔ (report.read network port).isOk = true := by
  unfold Readable read
  cases hsettings : Inspection.networkSettings report.attributes with
  | error p => simp [bind, Except.bind, Except.isOk, Except.toBool]
  | ok settings =>
    cases hip : Inspection.address settings network with
    | error p => simp [bind, Except.bind, Except.isOk, Except.toBool, hip]
    | ok ip =>
      cases hport : Inspection.publishedPort settings port with
      | error p => simp [bind, Except.bind, Except.isOk, Except.toBool, hip, hport]
      | ok hostPort => simp [bind, Except.bind, Except.isOk, Except.toBool, hip, hport, pure, Except.pure]

instance (network port : String) (report : ContainerReport) : Decidable (report.Readable network port) :=
  decidable_of_iff _ ContainerReport.readable_iff.symm

/-- Where a container is looked at or removed, the daemon answers, with attributes that can be read, or it
has no such container; and no sleep is refused. -/
def Request.Fine (network port : String) : (r : Request τ) → Except (Fault τ) r.Answer → Prop
  | .docker (.inspect _), .ok report => report.Readable network port
  | .docker (.inspect _), .error e => e.comesFrom Foreign.isNotFound = true
  | .docker (.remove _), .error e => e.comesFrom Foreign.isNotFound = true
  | .sleep _, .error _ => False
  | _, _ => True

/-- A request other than to look at a container, to make or to remove one, or to sleep. -/
def Request.isPlain : Request τ → Bool
  | .docker (.inspect _) | .docker (.create _) | .docker (.remove _) | .sleep _ => false
  | _ => true

theorem Request.fine_of_isPlain {r : Request τ} (h : r.isPlain = true) (network port : String)
    (a : Except (Fault τ) r.Answer) : r.Fine network port a := by
  unfold Fine
  split
  · cases h
  · cases h
  · cases h
  · cases h
  · trivial

theorem Request.spares_of_isPlain {r : Request τ} (h : r.isPlain = true) (a : Except (Fault τ) r.Answer) :
    r.Spares a := by
  unfold Spares
  split
  · cases h
  · cases h
  · trivial

theorem Request.isPlain_of_isSocket {r : Request τ} (h : r.isSocket = true) : r.isPlain = true := by
  unfold isSocket at h
  split at h
  · rfl
  · rfl
  · rfl
  · rfl
  · cases h

namespace Socket

variable [Seconds τ] [Host σ τ]

/-- The second check of a port does not fail if the system answers with errors of its own. -/
theorem after_isListening (hsystem : ∀ (r : Request τ) (h : σ) (e : Fault τ), r.isSocket = true →
      (Host.answer r h).1 = .error e → e.comesFrom Foreign.isSystem = true)
    (host : String) (port : Int) (timeout : τ) (w : World σ τ) :
    After (isListening host port timeout) w fun r _ => ∃ up, r = .ok up := by
  have hask (r : Request τ) (h : r.isSocket = true) (w : World σ τ) : After (ask r) w fun a _ =>
      ∀ e, a = .error e → e.comesFrom Foreign.isSystem = true := by
    refine (after_ask r w).mono fun a w' hw e he => ?_
    exact hsystem r w.host e h (hw.1.symm.trans he)
  unfold isListening checkWith
  refine after_attempt_bind
    (P := fun r _ => ∀ e, r = .error e → e.comesFrom Foreign.isSystem = true) ?_ ?_
  · refine after_bind (hask _ rfl w) (fun socket w₁ _ => ?_) (by simp)
    refine after_always
      (P := fun r _ => ∀ e, r = .error e → e.comesFrom Foreign.isSystem = true) ?_ ?_
    · refine after_bind (hask _ rfl w₁) (fun _ w₂ _ => ?_) (by simp)
      refine after_attempt_bind (hask (.receiveByte socket) rfl w₂) fun r w₃ hr => ?_
      cases r with
      | ok bytes => exact after_pure (by simp)
      | error e =>
        dsimp only
        split
        · exact after_pure (by simp)
        · exact after_throw fun e' he' => hr e' (by cases he'; rfl)
    · intro r w₂ hr
      refine (hask (.closeSocket socket) rfl w₂).mono fun r' w₃ hr' => ?_
      cases r' with
      | ok a => exact hr
      | error e =>
        rintro _ ⟨⟩
        exact hr' e rfl
  · intro r w₁ hr
    cases r with
    | ok up => exact after_pure ⟨up, rfl⟩
    | error e =>
      dsimp only
      rw [if_pos (hr e rfl)]
      exact after_pure ⟨false, rfl⟩

end Socket

namespace Backend

variable [Seconds τ] {N : Prop}

/-- An act on a backend looked at it: what it ended in is judged by the answers, it made and removed no
container, and the backend is the same but for its state, which may be that of one that listens. -/
structure Looked (N : Prop) (s : World σ τ × Backend τ) (r : Except (Fault τ) α)
    (s' : World σ τ × Backend τ) : Prop where
  judged : Judged (Request.Fine s.2.network s.2.exposedPort) N s.1 r s'.1
  notProvisioning : ∀ p, r ≠ .error (.provisioning p)
  spares : Asks Request.Spares s.1 s'.1
  container : s'.2.container = s.2.container
  network : s'.2.network = s.2.network
  exposedPort : s'.2.exposedPort = s.2.exposedPort
  state : s'.2.state = s.2.state ∨ s'.2.state = .listening

theorem Looked.refl (s : World σ τ × Backend τ) (a : α) :
    Looked N s (.ok a : Except (Fault τ) α) s :=
  ⟨.ok (refl_of (Asks _) s.1), by simp, refl_of (Asks _) s.1, rfl, rfl, rfl, .inl rfl⟩

theorem Looked.trans {s s₁ s₂ : World σ τ × Backend τ} {a : β} {r : Except (Fault τ) α}
    (h : Looked N s (.ok a : Except (Fault τ) β) s₁) (h' : Looked N s₁ r s₂) : Looked N s r s₂ where
  judged := by
    have hjudged := h'.judged
    rw [h.network, h.exposedPort] at hjudged
    exact h.judged.trans hjudged
  notProvisioning := h'.notProvisioning
  spares := trans_of (Asks Request.Spares) h.spares h'.spares
  container := h'.container.trans h.container
  network := h'.network.trans h.network
  exposedPort := h'.exposedPort.trans h.exposedPort
  state := by
    rcases h'.state with hsame | hlistening
    · rw [hsame]
      exact h.state
    · exact .inr hlistening

/-- The same answers, with another end that they are judged to. -/
theorem Looked.ended {s s₁ : World σ τ × Backend τ} {a : β} {r : Except (Fault τ) α}
    (h : Looked N s (.ok a : Except (Fault τ) β) s₁) (hr : Tidy r) (hstalled : r = .error .stalled → N)
    (hprovisioning : ∀ p, r ≠ .error (.provisioning p)) : Looked N s r s₁ :=
  ⟨.of_asks h.judged.asks hr hstalled, hprovisioning, h.spares, h.container, h.network, h.exposedPort,
    h.state⟩

theorem Looked.fault {s s₁ : World σ τ × Backend τ} {e : Fault τ}
    (h : Looked N s (.error e : Except (Fault τ) β) s₁) : Looked N s (.error e : Except (Fault τ) α) s₁ :=
  ⟨h.judged.fault, fun p hp => h.notProvisioning p (by cases hp; rfl), h.spares, h.container, h.network,
    h.exposedPort, h.state⟩

theorem Looked.mono {N' : Prop} {s s₁ : World σ τ × Backend τ} {r : Except (Fault τ) α}
    (h : Looked N s r s₁) (hN : N → N') : Looked N' s r s₁ :=
  ⟨h.judged.mono hN, h.notProvisioning, h.spares, h.container, h.network, h.exposedPort, h.state⟩

/-- An act that looks at a backend, and comes to an end. -/
def Looks (act : On σ τ (Backend τ) α) : Prop :=
  ∀ s, After act s (Looked False s)

namespace Looks

variable {act : On σ τ (Backend τ) α}

/-- An act that asks nothing of interest, and leaves the backend as it is. -/
theorem of_besides (h : ∀ P, (∀ r a, r.isPlain = true → P r a) → Keeps (Besides (Asks P)) act)
    (hok : ∀ s, After act s fun r _ => ∃ a, r = .ok a) : Looks act := by
  intro s
  have hfine : After act s fun _ s' => Besides (Asks (Request.Fine s.2.network s.2.exposedPort)) s s' :=
    h _ (fun _ _ hr => Request.fine_of_isPlain hr _ _ _) s
  have hspares : After act s fun _ s' => Besides (Asks Request.Spares) s s' :=
    h _ (fun _ _ hr => Request.spares_of_isPlain hr _) s
  refine ((hfine.and hspares).and (hok s)).mono ?_
  rintro r ⟨w', b⟩ ⟨⟨⟨hfine, hsame⟩, hspares, -⟩, a, rfl⟩
  dsimp only at hsame
  subst b
  exact ⟨.ok hfine, by simp, hspares, rfl, rfl, rfl, .inl rfl⟩

theorem pure (a : α) : Looks (Pure.pure a : On σ τ (Backend τ) α) :=
  fun s => Looked.refl s a

theorem object : Looks (On.object : On σ τ (Backend τ) (Backend τ)) :=
  fun s => Looked.refl s s.2

theorem record (level : Log.Level) (source : Log.Source) (message : String) :
    Looks (world (ProxyTestbed.record level source message) : On σ τ (Backend τ) Unit) :=
  of_besides (fun _ _ => (keeps_record level source message).world) fun _ => ⟨(), rfl⟩

/-- What comes after a report does not happen. -/
theorem report_bind (p : StartProblem) (f : α → On σ τ (Backend τ) β) :
    Looks (MonadExcept.throw (.start p) >>= f) :=
  fun s => ⟨.report (refl_of (Asks _) s.1) trivial, by simp, refl_of (Asks _) s.1, rfl, rfl, rfl, .inl rfl⟩

theorem enter_listening : Looks (enter .listening : On σ τ (Backend τ) Unit) :=
  fun s => ⟨.ok (refl_of (Asks _) s.1), by simp, refl_of (Asks _) s.1, rfl, rfl, rfl, .inr rfl⟩

theorem bind {f : α → On σ τ (Backend τ) β} (h : Looks act) (hf : ∀ a, Looks (f a)) :
    Looks (act >>= f) := fun s =>
  after_bind (h s) (fun a s₁ h₁ => (hf a s₁).mono fun _ _ h₂ => h₁.trans h₂) fun _ _ h₁ => h₁.fault

theorem ite {c : Prop} [Decidable c] {act' : On σ τ (Backend τ) α} (h : Looks act) (h' : Looks act') :
    Looks (if c then act else act') := by
  split
  · exact h
  · exact h'

end Looks

section

variable [Host σ τ] (htypical : Host.Typical σ)

include htypical

theorem looks_lastLogs : Looks (lastLogs : On σ τ (Backend τ) String) := by
  refine .of_besides (fun P hP => ?_) fun s => ?_
  · have hlogs (c : Container) (tail : LogTail) :
        Keeps (Besides (Asks P)) (world (docker (.logs c tail)) : On σ τ (Backend τ) _) :=
      (keeps_docker fun a => hP _ a rfl).world
    refine keeps_object.bind fun b => (hlogs _ _).attempt.bind fun r => ?_
    cases r with
    | ok content => exact .pure _
    | error e => exact .ite (.pure _) (.throw e)
  · refine after_object_bind (after_attempt_bind (after_docker _ s.1).world fun r s₁ hr => ?_)
    cases r with
    | ok content => exact after_pure ⟨_, rfl⟩
    | error e =>
      have hapi : e.comesFrom Foreign.isApi = true := htypical.docker _ _ e hr.1.1.symm
      dsimp only
      rw [if_pos hapi]
      exact after_pure ⟨_, rfl⟩

theorem looks_isListening (host : String) (port : Int) (timeout : τ) :
    Looks (world (Socket.isListening host port timeout) : On σ τ (Backend τ) Bool) :=
  .of_besides
    (fun _ hP => (Socket.keeps_isListening
      (fun r h => keeps_ask fun a => hP r a (Request.isPlain_of_isSocket h)) host port timeout).world)
    fun s => (Socket.after_isListening htypical.socket host port timeout s.1).world.mono fun _ _ h => h.1

/-- A daemon that has no such container is reported as a crash; its other errors are let through. -/
theorem after_inspect {s : World σ τ × Backend τ} {report : Foreign → Option (Fault τ)}
    {p : Foreign → StartProblem}
    (hreport : ∀ f, report f = if f.isNotFound then some (.start (p f)) else none) :
    After (reporting report (world (docker (.inspect s.2.container)))) s fun r s₁ =>
      s₁.2 = s.2 ∧ Asks Request.Spares s.1 s₁.1 ∧
      match r with
      | .ok found => s₁.1.past = .asked (.docker (.inspect s.2.container)) (.ok found) :: s.1.past
      | .error e => Judged (Request.Fine s.2.network s.2.exposedPort) False s.1
          (.error e : Except (Fault τ) ContainerReport) s₁.1 ∧ ∀ p, e ≠ .provisioning p := by
  have hspares {w' : World σ τ} {a : Except (Fault τ) ContainerReport}
      (hpast : w'.past = .asked (.docker (.inspect s.2.container)) a :: s.1.past) :
      Asks Request.Spares s.1 w' :=
    (refl_of (Asks _) s.1).ask hpast trivial
  refine after_reporting (after_docker (.inspect s.2.container) s.1).world ?_ ?_ ?_
  · intro found s₁ hpost
    obtain ⟨⟨_, _, _, hpast⟩, hsame⟩ := hpost
    exact ⟨hsame, hspares hpast, hpast⟩
  · intro f s₁ hpost
    obtain ⟨⟨_, _, _, hpast⟩, hsame⟩ := hpost
    refine ⟨hsame, hspares hpast, ?_⟩
    dsimp only
    rw [hreport f]
    split
    · rename_i hfound
      exact ⟨.report ((refl_of (Asks _) s.1).ask hpast hfound) trivial, by simp⟩
    · rename_i hfound
      exact ⟨.bad hpast hfound id (by simp), by simp⟩
  · rintro e s₁ ⟨⟨ha, _⟩, _⟩ hforeign
    obtain ⟨f, rfl, _⟩ := Fault.exists_foreign (htypical.docker _ _ e ha.symm)
    exact absurd rfl (hforeign f)

theorem looks_refresh : Looks (refresh : On σ τ (Backend τ) String) := by
  intro s
  unfold refresh
  refine after_object_bind (after_bind (after_inspect htypical fun _ => rfl) ?_ ?_)
  · -- attributes that cannot be read end the wait
    rintro found ⟨w₁, b⟩ ⟨hsame, hspares, hpast⟩
    dsimp only at hsame
    subst b
    have hbad (p : InspectionProblem) (hunread : ¬ found.Readable s.2.network s.2.exposedPort) :
        Judged (Request.Fine s.2.network s.2.exposedPort) False s.1
          (.error (.inspection p) : Except (Fault τ) String) w₁ :=
      .bad hpast hunread id (by simp)
    refine after_inspected_bind (fun settings hsettings => ?_) fun p hp => ?_
    · refine after_inspected_bind (fun ip hip => after_change_bind ?_) fun p hp => ?_
      · refine after_inspected_bind (fun hostPort hport => after_change_bind (after_pure ?_)) fun p hp => ?_
        · have hread : found.Readable s.2.network s.2.exposedPort :=
            ⟨settings, ip, hostPort, hsettings, hip, hport⟩
          exact ⟨.ok ((refl_of (Asks _) s.1).ask hpast hread), by simp, hspares, rfl, rfl, rfl, .inl rfl⟩
        · refine ⟨hbad p ?_, by simp, hspares, rfl, rfl, rfl, .inl rfl⟩
          rintro ⟨settings', _, _, hsettings', _, hport⟩
          cases hsettings.symm.trans hsettings'
          cases hp.symm.trans hport
      · refine ⟨hbad p ?_, by simp, hspares, rfl, rfl, rfl, .inl rfl⟩
        rintro ⟨settings', _, _, hsettings', hip, _⟩
        cases hsettings.symm.trans hsettings'
        cases hp.symm.trans hip
    · refine ⟨hbad p ?_, by simp, hspares, rfl, rfl, rfl, .inl rfl⟩
      rintro ⟨_, _, _, hsettings, _⟩
      cases hp.symm.trans hsettings
  · rintro e ⟨w₁, b⟩ ⟨hsame, hspares, hjudged, hprovisioning⟩
    dsimp only at hsame
    subst b
    exact ⟨hjudged.fault, by simpa using hprovisioning, hspares, rfl, rfl, rfl, .inl rfl⟩

theorem looks_checkListening : Looks (checkListening : On σ τ (Backend τ) (Except Unit Unit)) := by
  refine (looks_refresh htypical).bind fun status => Looks.object.bind fun b => .ite ?_ ?_
  · exact (looks_lastLogs htypical).bind fun _ => .report_bind _ _
  · split
    · exact .pure _
    · exact .pure _
    · refine (looks_isListening htypical _ _ _).bind fun up => .ite ?_ (.pure _)
      exact Looks.enter_listening.bind fun _ => (Looks.record _ _ _).bind fun _ => .pure _

omit htypical in
theorem after_checkListening_decided (s : World σ τ × Backend τ) :
    After checkListening s fun r s' => r = .ok (.ok ()) → s'.2.state = .listening := by
  refine after_bind (after_run _ s) (fun status s₁ _ => after_object_bind ?_) (by simp)
  refine after_ite (fun _ => ?_) fun _ => ?_
  · exact after_bind (after_run lastLogs s₁) (fun _ _ _ => after_throw (by simp)) (by simp)
  · split
    · exact after_pure (by simp)
    · exact after_pure (by simp)
    · refine after_bind (after_run _ s₁) (fun up s₂ _ => after_ite (fun _ => ?_) fun _ => ?_) (by simp)
      · exact after_change_bind (after_record_bind fun s₃ hsame => after_pure fun _ => by rw [hsame.2])
      · exact after_pure (by simp)

/-- A backend that is waited for: what a wait came to, judged from the moment that it began. -/
def Waited (N : Prop) (s : World σ τ × Backend τ) (r : Except (Fault τ) Unit)
    (s' : World σ τ × Backend τ) : Prop :=
  Looked N (s.1, { s.2 with state := .starting }) r s' ∧ (r = .ok () → s'.2.state = .listening)

/-- What comes of a wait, from what comes of its loop. -/
theorem after_waitUsual_of {s : World σ τ × Backend τ}
    (hpoll : After (pollFor s.2.policy s.2.policy.timeout fun _ _ => checkListening)
      (s.1, { s.2 with state := .starting }) fun r s' =>
        Looked N (s.1, { s.2 with state := .starting }) r s' ∧
          (r = .ok (.ok ()) → s'.2.state = .listening)) :
    After waitUsual s (Waited N s) := by
  refine after_object_bind ((after_waitListening_of hpoll).mono fun r s' hends => ?_)
  obtain ⟨outcome, s₂, ⟨hlooked, hlistening⟩, hdecided, hfailed, hgaveUp⟩ := hends
  rcases outcome with e | seen | u
  · obtain ⟨rfl, rfl⟩ := hfailed e rfl
    exact ⟨hlooked.fault, by simp⟩
  · obtain ⟨logs, hlogs, rfl⟩ := hgaveUp ⟨seen, rfl⟩
    have hasked := (looks_lastLogs htypical s₂).attempted hlogs
    cases logs with
    | ok text =>
      have hlooked' : Looked N _ _ s' := hlooked.trans (hasked.mono False.elim)
      show Waited N s (.error (s₂.2.late text)) s'
      exact ⟨hlooked'.ended (tidy_error.mpr (.inl trivial)) (by simp [late]) (by simp [late]), by simp⟩
    | error e => exact ⟨hlooked.trans (hasked.fault.mono False.elim), by simp [Except.bind]⟩
  · obtain ⟨rfl, rfl⟩ := hdecided u rfl
    exact ⟨hlooked.ended (tidy_ok _) (by simp) (by simp), fun _ => hlistening rfl⟩

/-- One look after others, as an attempt of a wait. -/
theorem after_lookAgain {s₀ s : World σ τ × Backend τ}
    (h : Looked N s₀ (.ok () : Except (Fault τ) Unit) s) :
    After checkListening s fun r s' =>
      (Looked N s₀ r s' ∧ (r = .ok (.ok ()) → s'.2.state = .listening)) ∧
        ∀ seen, r = .ok (.error seen) → Looked N s₀ (.ok () : Except (Fault τ) Unit) s' := by
  refine ((looks_checkListening htypical s).and (after_checkListening_decided s)).mono ?_
  intro r s' hpost
  obtain ⟨hlooked, hdecided⟩ := hpost
  refine ⟨⟨h.trans (hlooked.mono False.elim), hdecided⟩, ?_⟩
  rintro seen rfl
  exact h.trans ((hlooked.mono False.elim).ended (tidy_ok ()) (by simp) (by simp))

omit htypical in
/-- The sleep after a look. If it is refused, that is no tidy end. -/
theorem after_sleepAgain {s₀ s : World σ τ × Backend τ} (seconds : τ)
    (h : Looked N s₀ (.ok () : Except (Fault τ) Unit) s) :
    After (world (sleep seconds)) s fun r s' =>
      (r = .ok () → Looked N s₀ (.ok () : Except (Fault τ) Unit) s') ∧
        ∀ e, r = .error e → Looked N s₀ (.error e : Except (Fault τ) α) s' := by
  refine (after_run (sleep seconds) s.1).world.mono fun r s' hpost => ?_
  obtain ⟨w', b⟩ := s'
  obtain ⟨hrun, hsame⟩ := hpost
  dsimp only at hsame
  subst b
  refine ⟨fun hok => ?_, fun e he => ?_⟩
  · subst hok
    have hslept := of_attempt_ok hrun
    have hlooked : Looked N s (.ok () : Except (Fault τ) Unit) (w', s.2) :=
      ⟨.ok (asks_slept hslept), by simp, asks_slept hslept, rfl, rfl, rfl, .inl rfl⟩
    exact h.trans hlooked
  · subst he
    obtain ⟨cause, -, rfl, hpast⟩ := of_sleep_error (of_attempt_error hrun)
    have hlooked : Looked N s (.error (.foreign cause) : Except (Fault τ) α) (w', s.2) :=
      ⟨.bad hpast id id (by simp), by simp, (refl_of (Asks _) s.1).ask hpast trivial, rfl, rfl, rfl, .inl rfl⟩
    exact h.trans hlooked

/-- A wait, which may go on for too long. -/
theorem after_waitUsual (s : World σ τ × Backend τ) : After waitUsual s (Waited True s) := by
  refine after_waitUsual_of htypical (after_pollFor
    (I := Looked True (s.1, { s.2 with state := .starting }) (.ok () : Except (Fault τ) Unit))
    (fun _ _ s₁ h₁ => after_lookAgain htypical h₁) (fun seconds s₁ h₁ => ?_) (fun s₁ h₁ => ?_) ?_)
  · refine (after_sleepAgain seconds h₁).mono fun r s₂ hpost => ⟨hpost.1, fun e he => ⟨hpost.2 e he, by simp⟩⟩
  · exact ⟨h₁.ended (tidy_error.mpr (.inr rfl)) (fun _ => trivial) (by simp), by simp⟩
  · exact Looked.refl _ ()

end

end Backend

end ProxyTestbed
