import ProxyTestbed.Outside.Socket
import ProxyTestbed.Wait.Waits

/-!
# Backends

A backend is a container that the proxy routes to, with the declarations that it was started with. Its
state is what the testbed last did with it; whether the container runs is asked of the daemon.
-/

namespace ProxyTestbed

/-- A container to route to. -/
structure Backend (τ : Type) [Seconds τ] where
  container : Container
  name : String
  environmentId : String
  /-- The network that it is attached to. -/
  network : String
  image : String
  env : Variables
  /-- Its own port that is published. -/
  exposedPort : String
  /-- The address of the host, where its published port is. -/
  address : String
  /-- How it is waited for. -/
  policy : RetryPolicy τ
  connectTimeout : τ
  state : BackendState
  /-- Its address in the network, as far as it is known. -/
  ip : Datum
  /-- The port of the host that leads to its port, as far as it is known. -/
  hostPort : Option Int

namespace Backend

variable {σ τ : Type} [Seconds τ]

def quoted (b : Backend τ) : String :=
  s!"Backend({Text.quoted b.name}, image={Text.quoted b.image}, state={b.state.word}, ip={b.ip.shown})"

def rules (b : Backend τ) : Except DeclarationFault (List VirtualHost) :=
  b.env.virtualHosts

def hostnames (b : Backend τ) : Except DeclarationFault (List String) :=
  b.rules.map fun rules => rules.map (·.hostname)

/-- A look-up in the attributes of a container. -/
def inspected {s α : Type} (found : Except InspectionProblem α) : EStateM (Fault τ) s α :=
  match found with
  | .ok a => pure a
  | .error p => throw (.inspection p)

/-- A backend that ends before its port is open. -/
def crashed (b : Backend τ) (logs : String) (cause : Option Foreign) : Fault τ :=
  .start ⟨b.name, .crashedBeforeReady, logs, cause⟩

/-- A backend whose port is not open in time. -/
def late (b : Backend τ) (logs : String) : Fault τ :=
  .start ⟨b.name, .timedOut, logs, none⟩

def enter (state : BackendState) : On σ τ (Backend τ) Unit :=
  On.change fun b => { b with state }

variable [Host σ τ]

/-- Looks at the container again: its address and port are recorded, and its status is answered. -/
def refresh : On σ τ (Backend τ) String := do
  let b ← On.object
  let report (e : Foreign) : Option (Fault τ) :=
    if e.isNotFound then some (b.crashed "" (some e)) else none
  let container ← reporting report (world (docker (.inspect b.container)))
  let settings ← inspected (Inspection.networkSettings container.attributes)
  let ip ← inspected (Inspection.address settings b.network)
  On.change fun b => { b with ip }
  let hostPort ← inspected (Inspection.publishedPort settings b.exposedPort)
  On.change fun b => { b with hostPort }
  return container.status

/-- The logs of the container, or why there are none. -/
def logs (tail : LogTail) : On σ τ (Backend τ) String := do
  let b ← On.object
  match ← attempt (world (docker (.logs b.container tail))) with
  | .ok content => return Text.ofBytes content
  | .error e =>
    if e.comesFrom Foreign.isApi then return s!"<logs unavailable: {Fault.message e}>" else throw e

/-- The end of the logs, for a report. -/
def lastLogs : On σ τ (Backend τ) String :=
  logs (.lines Text.logTailLines)

/-- One look at a backend that is waited for; decided if its port holds a connection open. -/
def checkListening : On σ τ (Backend τ) (Except Unit Unit) := do
  let status ← refresh
  let b ← On.object
  if Wait.hasExited status then throw (b.crashed (← lastLogs) none)
  match b.hostPort with
  | none | some 0 => return .error ()
  | some port =>
    if ← world (Socket.isListening b.address port b.connectTimeout) then
      enter .listening
      world (record .info .backends
        s!"Backend {b.name} listening on {b.ip.shown} ({b.address}:{port})")
      return .ok ()
    else return .error ()

/-- Waits until the port of a backend holds a connection open. -/
def waitListening (policy : RetryPolicy τ) : On σ τ (Backend τ) Unit := do
  enter .starting
  match ← pollFor policy policy.timeout fun _ _ => checkListening with
  | .ok () => return ()
  | .error () => throw ((← On.object).late (← lastLogs))

/-- Waits as the backend is usually waited for. -/
def waitUsual : On σ τ (Backend τ) Unit := do
  waitListening (← On.object).policy

def runningStatus : String := "running"

def isRunning : On σ τ (Backend τ) Bool := do
  let b ← On.object
  match ← attempt (world (docker (.inspect b.container))) with
  | .ok report => return report.status == runningStatus
  | .error e => if e.comesFrom Foreign.isNotFound then return false else throw e

/-- How many seconds a container is given to stop, if nothing else is said. -/
def usualStopTimeout : Int := 5

def stop (timeout : Int) : On σ τ (Backend τ) Unit := do
  let b ← On.object
  world (record .info .backends s!"Stopping backend {b.name}")
  world (docker (.stop b.container timeout))
  enter .stopped

/-- Starts the container again, and waits for it or not. -/
def start (wait : Bool) : On σ τ (Backend τ) Unit := do
  let b ← On.object
  world (record .info .backends s!"Starting backend {b.name}")
  world (docker (.start b.container))
  if wait then waitUsual

/-- Stops and starts the container, and waits for it or not. -/
def restart (timeout : Int) (wait : Bool) : On σ τ (Backend τ) Unit := do
  let b ← On.object
  world (record .info .backends s!"Restarting backend {b.name}")
  world (docker (.restart b.container timeout))
  if wait then waitUsual

/-- Removes the container, unless it was removed. -/
def remove : On σ τ (Backend τ) Unit := do
  let b ← On.object
  if b.state = .removed then return ()
  world (record .info .backends s!"Removing backend {b.name}")
  match ← attempt (world (docker (.remove b.container))) with
  | .ok () => pure ()
  | .error e => if e.comesFrom Foreign.isNotFound then pure () else throw e
  enter .removed

end Backend

end ProxyTestbed
