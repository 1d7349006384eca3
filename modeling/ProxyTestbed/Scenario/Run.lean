import ProxyTestbed.Scenario.Trace
import ProxyTestbed.Scenario.Use

/-!
# Running scenarios

A step runs on the scripted world and the session. It answers something, or ends in a fault, and in either
case the scenario goes on with the next step. A step that names something that is not there does nothing.
-/

namespace ProxyTestbed.Scenario

open Scripted (Stage)

/-! ## Steps -/

/-- An act on the world, as a step. -/
def simply (act : Play Answer) : PlayOn Session (Option Answer) := do
  return some (← world act)

/-- Runs a step. It answers nothing if it names something that is not there. -/
def Step.run : Step → PlayOn Session (Option Answer)
  | write path content => simply (silent do
      Files.makeDirectories true path.parent
      Files.write path content)
  | makeDirectory path => simply (silent (Files.makeDirectories true path))
  | tree => simply Scenario.tree
  | script change => simply (silent (changeStage change.apply))
  | container index change => do
    return (← world (onStage (changeContainer index change))).map fun _ => .nothing
  | removeNetwork index => do
    return (← world (onStage (Scenario.removeNetwork index))).map fun _ => .nothing
  | issue directory hostname options => simply (Scenario.issue directory hostname options)
  | awaitReachable host port timeout policy settle connectTimeout => simply (silent do
      let policy ← policyOf? policy
      Wait.untilReachable host port timeout policy settle connectTimeout)
  | awaitConvergence delay reason => simply (silent (Wait.forConvergence delay reason))
  | awaitLogLine needle policy name logs statuses =>
    simply (silent (Scenario.awaitLogLine needle policy name logs statuses))
  | eventually (.policy numbers) actions accepted condition => simply do
      Scenario.eventually (← policyOf numbers) actions accepted condition
  | eventually (.environment n timeout) actions accepted condition =>
    lookAt n fun e => Scenario.eventuallyIn e timeout actions accepted condition
  | get target options => simply do return Answer.response (← Http.get target options)
  | dial target options => do return some (← addProbe (world (WebSocketProbe.dial target options)))
  | socket probe use => On.member (·.probes) (fun probes s => { s with probes }) probe use.run
  | isListening host port timeout => simply do return .bool (← Socket.isListening host port timeout)
  | tryConnect host port timeout => simply do return .bool (← Socket.accepts host port timeout)
  | provision image config changes connects name =>
    Scenario.provision image config changes connects name
  | newEnvironment id changes registered => Scenario.newEnvironment id changes registered
  | environment n use => do
    if (← On.object).fleet.environments.length ≤ n then return none
    use.run n
  | backend n use => onBackend n use.run
  | collect n backends => Scenario.collect n backends
  | registry use => do return some (← onFleet use.run)
  | newCleanup owner => do
    On.change fun s => { s with owners := s.owners ++ [Coordinator.start owner] }
    return some .nothing
  | cleanup index use => On.member (·.owners) (fun owners s => { s with owners }) index use.run

/-! ## Settings -/

def prepare (directories : List Path) (files : List (Path × Bytes)) : Play Unit := do
  match directories, files with
  | [], [] => return ()
  | d :: directories, files =>
    Files.makeDirectories true d
    prepare directories files
  | [], (path, content) :: files =>
    Files.makeDirectories true path.parent
    Files.write path content
    prepare [] files
termination_by directories.length + files.length

/-- Loads settings in a world with some directories and files. -/
def loadSettings (w : World Stage Float) (directories : List Path) (files : List (Path × Bytes))
    (given : Option Path) (environ : Variables) : Except (Fault Float) (Settings Float) :=
  match prepare directories files w with
  | .error fault _ => .error fault
  | .ok () w => (Settings.load Yaml.load w.files.readOrError given environ).mapError .load

/-! ## Scenarios -/

/-- What became of a step. -/
inductive StepEnd
  | answer (a : Answer)
  | fault (f : Fault Float)
  /-- It named something that is not there. -/
  | missing

/-- What became of a step, what happened in it, and how things stand after it. -/
structure StepReport where
  ending : StepEnd
  trace : List Datum
  clock : Float
  environments : List EnvironmentState
  backends : List BackendState

/-- The report of a step that led from one state to another. -/
def report (ending : StepEnd) (before after : World Stage Float) (session : Session) : StepReport where
  ending := ending
  trace := Trace.between before after
  clock := after.host.clock
  environments := session.fleet.environments.map (·.state)
  backends := (List.range session.backends.length).filterMap fun n =>
    (session.backend? n).map (·.state)

def runFrom : World Stage Float × Session → List Step → List StepReport
  | _, [] => []
  | s, step :: steps =>
    match step.run s with
    | .ok (some answer) s' => report (.answer answer) s.1 s'.1 s'.2 :: runFrom s' steps
    | .ok none s' => report .missing s.1 s'.1 s'.2 :: runFrom s' steps
    | .error fault s' => report (.fault fault) s.1 s'.1 s'.2 :: runFrom s' steps

def run (setting : Setting) (steps : List Step) : List StepReport :=
  runFrom (setting.world, Session.empty) steps

end ProxyTestbed.Scenario
