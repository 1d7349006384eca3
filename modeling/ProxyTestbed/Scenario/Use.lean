import ProxyTestbed.Diagnostics
import ProxyTestbed.Scenario.Session
import ProxyTestbed.Settings.Load
import ProxyTestbed.Yaml.Value

/-!
# What a scenario can use

What the steps of a scenario do with the testbed: waits, connections, environments, backends, registries
and release steps. An act on something that a step names by a number answers nothing if it is not there.
-/

namespace ProxyTestbed.Scenario

open Scripted (Stage)

/-! ## Certificates and waits -/

/-- The mode of a file, in octal. -/
def modeText (mode : Nat) : String :=
  String.ofList (Nat.toDigits 8 mode)

/-- Issues a certificate, and answers it with the mode of its key. -/
def issue (directory : Path) (hostname : String) (options : Certificate.Options) : Play Answer := do
  let c ← Certificate.issue directory hostname options
  let mode ← (fun w => .ok (w.files.mode? c.keyPath) w : Play (Option Nat))
  return .record (Answer.certificate c ++ [("key_mode", Answer.optional (.text ∘ modeText) mode)])

/-- What a container without a name is called. -/
def namelessContainer : String := "container"

/-- Waits for a line in the log of a container that does what a script says. -/
def awaitLogLine (needle : String) (numbers : PolicyNumbers) (name : Option String)
    (logs : List Bytes) (statuses : List String) : Play Unit := do
  let policy ← policyOf numbers
  let name := name.getD namelessContainer
  let container ← onStage (Stage.addContainer
    (foreignContainer name false Backend.runningStatus ⟨statuses, logs, none⟩))
  Wait.untilLogged container name needle policy

/-- What an action answered. -/
inductive Result
  | datum (d : Datum)
  | response (r : Response)

/-- What a result counts as when it is compared. -/
def Result.value : Result → Datum
  | datum d => d
  | response r => .int r.status

/-- A result as an answer. -/
def Result.answer : Result → Answer
  | datum d => .datum d
  | response r => Answer.response r

/-- A result as something that a wait saw. -/
def Result.observation : Result → Observation
  | datum d => .datum d
  | response r => .response r

/-- The next action of a sticky queue. -/
def act : PlayOn (List ActionScript) Result := do
  match Scripted.takeSticky? (← On.object) with
  | none => return .datum .null
  | some (action, rest) =>
    On.change fun _ => rest
    match action.takes with
    | some seconds => world (onStage (Stage.pass seconds))
    | none => pure ()
    match action.outcome with
    | .datum d => return .datum d
    | .response r => return .response r
    | .fault f => throw f

/-- The result is among those accepted. -/
def accepts (accepted : List Datum) (r : Result) : PlayOn (List ActionScript) Bool :=
  return accepted.any fun d => d.same r.value

/-- What a wait for the results of actions comes to. -/
def answered (actions : List ActionScript) (wait : PlayOn (List ActionScript) Result) : Play Answer := do
  let (outcome, _) ← On.start actions wait
  return (← conclude outcome).answer

/-- Waits until the result of an action is among those accepted. -/
def eventually (policy : RetryPolicy Float) (actions : List ActionScript) (accepted : List Datum)
    (condition : String) : Play Answer :=
  answered actions (Wait.eventually act (accepts accepted) (·.observation) policy condition)

/-- Waits so with the patience of an environment. -/
def eventuallyIn (e : Environment Float) (timeout : Option Float) (actions : List ActionScript)
    (accepted : List Datum) (condition : String) : Play Answer :=
  answered actions (e.eventually act (accepts accepted) (·.observation) condition timeout)

/-! ## Connections -/

def SocketUse.run : SocketUse → PlayOn (WebSocketProbe Float) Answer
  | sendText message => silent (WebSocketProbe.sendText message)
  | sendBinary payload => silent (WebSocketProbe.sendBinary payload)
  | receive => do
    let (opcode, payload) ← WebSocketProbe.receive
    return .list [.int opcode, .datum (.bytes payload)]
  | receiveText => return .text (← WebSocketProbe.receiveText)
  | close status reason => silent (WebSocketProbe.close status reason)
  | closed => return .bool (← On.object).closed
  | scope fault => do
    WebSocketProbe.closing (fail? fault)
    return .bool true

/-- Dials, and adds the connection to those of the session. -/
def addProbe (dial : PlayOn Session (WebSocketProbe Float)) : PlayOn Session Answer := do
  let probe ← dial
  On.change fun s => { s with probes := s.probes ++ [probe] }
  return Answer.webSocket probe

/-! ## Environments and backends -/

def onFleet {α : Type} (act : PlayOn (Fleet Float) α) : PlayOn Session α :=
  On.part (·.fleet) (fun fleet s => { s with fleet }) act

def onEnvironment {α : Type} (n : Nat) (act : PlayOn (Environment Float) α) :
    PlayOn Session (Option α) :=
  onFleet (Fleet.onEnvironment n act)

def onBackend {α : Type} (n : Nat) (act : PlayOn (Backend Float) α) : PlayOn Session (Option α) := do
  match (← On.object).backends[n]? with
  | none => return none
  | some (environment, index) =>
    return (← onEnvironment environment (Environment.onBackend index act)).join

def Session.backend? (s : Session) (n : Nat) : Option (Backend Float) :=
  (s.backends[n]?).bind fun (environment, index) =>
    (s.fleet.environments[environment]?).bind fun e => e.backends[index]?

/-- Looks at the environment with a number. -/
def lookAt (n : Nat) (act : Environment Float → Play Answer) : PlayOn Session (Option Answer) :=
  onEnvironment n (do world (act (← On.object)))

/-- The settings that a provision uses: the standard ones with changes, or those of the process. -/
def settingsOf (changes : Option (List (Settings.Change Float))) : Play (Settings Float) :=
  match changes with
  | some changes => return Settings.standard.apply changes
  | none => fun w =>
    match Settings.load Yaml.load w.files.readOrError none (Host.env w.host) with
    | .ok settings => .ok settings w
    | .error problem => .error (.load problem) w

def provision (image : Option String) (config : ProxyConfig)
    (changes : Option (List (Settings.Change Float))) (connects : Bool) (registry : RegistryName) :
    PlayOn Session (Option Answer) := do
  let settings ← world (settingsOf changes)
  let n ← onFleet (Fleet.provision ⟨image, config, settings, connects, registry⟩)
  lookAt n fun e => return Answer.environment e

/-- Makes an environment that is not provisioned. -/
def newEnvironment (id : String) (changes : List (Settings.Change Float)) (registered : Bool) :
    PlayOn Session (Option Answer) := do
  let registry := if registered then some RegistryName.shared else none
  let n ← onFleet (Fleet.add (.create id (Settings.standard.apply changes) registry))
  if registered then onFleet (On.change (Fleet.register .shared id (.environment n)))
  lookAt n fun e => return Answer.environment e

/-- Starts a backend, and adds it to those of the session. -/
def startBackend (n : Nat) (order : Environment.BackendOrder Float) :
    PlayOn Session (Option Answer) := do
  match ← onEnvironment n (Environment.startBackend order) with
  | none => return none
  | some index =>
    On.change fun s => { s with backends := s.backends ++ [(n, index)] }
    onEnvironment n (do
      return (((← On.object).backends[index]?).map Answer.backend).getD .nothing)

/-- Uses the environment with a number, which is there. -/
def EnvironmentUse.run (n : Nat) : EnvironmentUse → PlayOn Session (Option Answer)
  | view => lookAt n fun e => return Answer.environment e
  | probe p => lookAt n fun e => return Answer.response (← e.probe p)
  | dial p => do
    match (← On.object).fleet.environments[n]? with
    | none => return none
    | some e => return some (← addProbe (world (e.dial p)))
  | awaitStatus secure host path status timeout =>
    lookAt n fun e => return Answer.response (← e.awaitStatus secure host path status timeout)
  | startBackend image env port command timeout policy => do
    let policy ← policyOf? policy
    Scenario.startBackend n ⟨image, env, port, command, timeout, policy⟩
  | issueCertificate hostname options =>
    onEnvironment n (do
      return .record (Answer.certificate (← Environment.issueCertificate hostname options)))
  | scope fault => do
    onFleet (Fleet.closing n (fail? fault))
    return some (.bool true)
  | release => do
    onFleet (Fleet.release n)
    return some .nothing
  | cleanup =>
    lookAt n fun e => return .record [
      ("released", .bool e.cleanup.released), ("failures", Answer.failures e.cleanup.failures)]
  | awaitConvergence reason => lookAt n fun e => silent (e.awaitConvergence reason)
  | convergencePolicy timeout =>
    lookAt n fun e => return Answer.policy (← e.convergencePolicy timeout)
  | proxyLogs tail => lookAt n fun e => return .text (← e.proxyLogs tail)
  | generatedConfig => lookAt n fun e => return Answer.dictionary (← e.generatedConfig)

def BackendUse.run : BackendUse → PlayOn (Backend Float) Answer
  | view => return Answer.backend (← On.object)
  | rules => do declared (fun rules => .list (rules.map Answer.virtualHost)) (← On.object).rules
  | hostnames => do declared Answer.texts (← On.object).hostnames
  | waitListening numbers => do
    let policy ← policyOf? numbers
    silent (Backend.waitListening (policy.getD (← On.object).policy))
  | stop timeout => silent (Backend.stop timeout)
  | start wait => silent (Backend.start wait)
  | restart timeout wait => silent (Backend.restart timeout wait)
  | remove => silent Backend.remove
  | logs tail => return .text (← Backend.logs tail)
  | isRunning => return .bool (← Backend.isRunning)

def collect (n : Nat) (numbers : List Nat) : PlayOn Session (Option Answer) := do
  match numbers.mapM (← On.object).backend? with
  | none => return none
  | some backends => lookAt n fun e => return .text (← Diagnostics.collect e backends)

def RegistryUse.run : RegistryUse → PlayOn (Fleet Float) Answer
  | live name => return Answer.texts ((← On.object).live name)
  | releaseAll name => silent (Fleet.releaseAll name)
  | unregister id => silent (On.change (Fleet.unregister .shared id))
  | standIn s => silent (On.change fun f =>
      Fleet.register .shared s.id (.standIn f.standIns.length) { f with standIns := f.standIns ++ [s] })

/-! ## Release steps -/

/-- Runs a release step of a scenario. Its owner is being released, so releasing it again does
nothing. -/
def ReleaseAct.run : ReleaseAct → PlayOn (Coordinator ReleaseAct Float) Unit
  | step s => do world (s.run (← On.object).owner)
  | scripted description script => do
    world (mark "action" (.text description))
    fail? script.fault
    if script.reenters then
      let failures ← Coordinator.release fun _ => pure ()
      world (mark "reentered" (.list (failures.map fun f => .list [.text f.1, .text f.2.message])))
    match script.pushes with
    | none => return ()
    | some name => Coordinator.push name (.scripted name ⟨none, false, none⟩)

def pushStep (s : CleanupStep) : PlayOn (Coordinator ReleaseAct Float) Answer :=
  silent (Coordinator.push s.description (.step s))

def CleanupUse.run : CleanupUse → PlayOn (Coordinator ReleaseAct Float) Answer
  | push description script => silent (Coordinator.push description (.scripted description script))
  | pushContainer name timeout => do
    let c ← world (onStage (Stage.addContainer
      (foreignContainer name true Backend.runningStatus .usual)))
    pushStep (.container c timeout)
  | pushNetwork name => do
    let n ← world (onStage (Stage.addNetwork name))
    pushStep (.network n)
  | pushDirectory path => pushStep (.directory path)
  | release => return Answer.failures (← Coordinator.release ReleaseAct.run)
  | view => return Answer.coordinator (← On.object)

end ProxyTestbed.Scenario
