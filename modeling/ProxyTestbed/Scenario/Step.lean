import ProxyTestbed.Fleet
import ProxyTestbed.Scripted.Stage

/-!
# Steps of a scenario

A scenario is a list of steps: changes of the scripted world, and uses of the testbed. Environments,
backends, connections and owners of release steps are named by their numbers, in the order in which they
came about.
-/

namespace ProxyTestbed.Scenario

open Scripted

/-! ## Parts of steps -/

/-- The numbers of a policy. -/
structure PolicyNumbers where
  timeout : Float
  interval : Float
  backoff : Float
  maxInterval : Option Float
  deriving Repr

namespace PolicyNumbers

/-- The policy with these numbers, if there is one. -/
def policy (n : PolicyNumbers) : Except PolicyProblem (RetryPolicy Float) :=
  RetryPolicy.make n.timeout n.interval n.backoff n.maxInterval

end PolicyNumbers

/-- A new script for a scripted world; what is not given stays. -/
structure ScriptChange where
  http : Option (List HttpScript)
  dials : Option (List DialScript)
  runs : Option (List RunScript)
  connect : Option (List SocketScript)
  wallClock : Option Moment
  faults : FaultScript

/-- A change of a container; what is not given stays. -/
structure ContainerChange where
  status : Option String
  removed : Option Bool
  statuses : Option (List String)
  logs : Option (List Bytes)
  attributes : Option Datum
  /-- A network that the container is attached to from now on. -/
  attach : Option Nat

/-- What an action does that is waited for. -/
inductive Outcome
  | datum (d : Datum)
  | response (r : Response)
  | fault (f : Fault Float)

/-- An action that is waited for: how long it takes, and what comes of it. -/
structure ActionScript where
  takes : Option Float
  outcome : Outcome

/-- How long something is waited for. -/
inductive Patience
  | policy (numbers : PolicyNumbers)
  /-- As an environment waits, for a given time or the usual one. -/
  | environment (number : Nat) (timeout : Option Float)

/-- What a release step of a scenario does. -/
structure ReleaseScript where
  fault : Option (Fault Float)
  /-- It releases its owner. -/
  reenters : Bool
  /-- It registers another step. -/
  pushes : Option String

/-! ## Uses of the testbed -/

inductive SocketUse
  | sendText (message : String)
  | sendBinary (payload : Bytes)
  | receive
  | receiveText
  | close (status : Int) (reason : String)
  | closed
  /-- Use it until it is closed, with a fault in between or not. -/
  | scope (fault : Option (Fault Float))

inductive EnvironmentUse
  | view
  | probe (p : Environment.Probing Float)
  | dial (p : Environment.Probing Float)
  | awaitStatus (secure : Bool) (host path : String) (status : Int) (timeout : Option Float)
  | startBackend (image : Option String) (env : Variables) (port : String) (command : Datum)
      (timeout : Option Float) (policy : Option PolicyNumbers)
  | issueCertificate (hostname : String) (options : Certificate.Options)
  /-- Use it until it is released, with a fault in between or not. -/
  | scope (fault : Option (Fault Float))
  | release
  | cleanup
  | awaitConvergence (reason : String)
  | convergencePolicy (timeout : Option Float)
  | proxyLogs (tail : LogTail)
  | generatedConfig

inductive BackendUse
  | view
  | rules
  | hostnames
  | waitListening (policy : Option PolicyNumbers)
  | stop (timeout : Int)
  | start (wait : Bool)
  | restart (timeout : Int) (wait : Bool)
  | remove
  | logs (tail : LogTail)
  | isRunning

inductive RegistryUse
  | live (name : RegistryName)
  | releaseAll (name : RegistryName)
  | unregister (id : String)
  | standIn (s : StandIn Float)

inductive CleanupUse
  | push (description : String) (script : ReleaseScript)
  | pushContainer (name : String) (stopTimeout : Int)
  | pushNetwork (name : String)
  | pushDirectory (path : Path)
  | release
  | view

/-! ## Steps -/

inductive Step
  | write (path : Path) (content : Bytes)
  | makeDirectory (path : Path)
  | tree
  | script (change : ScriptChange)
  | container (index : Nat) (change : ContainerChange)
  | removeNetwork (index : Nat)
  | issue (directory : Path) (hostname : String) (options : Certificate.Options)
  | awaitReachable (host : String) (port : Int) (timeout : Float) (policy : Option PolicyNumbers)
      (settle connectTimeout : Float)
  | awaitConvergence (delay : Float) (reason : String)
  | awaitLogLine (needle : String) (policy : PolicyNumbers) (name : Option String) (logs : List Bytes)
      (statuses : List String)
  | eventually (patience : Patience) (actions : List ActionScript) (accepted : List Datum)
      (condition : String)
  | get (target : Target) (options : Http.Options Float)
  | dial (target : Target) (options : WebSocketProbe.Options Float)
  | socket (probe : Nat) (use : SocketUse)
  | isListening (host : String) (port : Int) (timeout : Float)
  | tryConnect (host : String) (port : Int) (timeout : Float)
  | provision (image : Option String) (config : ProxyConfig)
      (settings : Option (List (Settings.Change Float))) (connects : Bool) (registry : RegistryName)
  | newEnvironment (id : String) (settings : List (Settings.Change Float)) (registered : Bool)
  | environment (number : Nat) (use : EnvironmentUse)
  | backend (number : Nat) (use : BackendUse)
  | collect (environment : Nat) (backends : List Nat)
  | registry (use : RegistryUse)
  | newCleanup (owner : String)
  | cleanup (index : Nat) (use : CleanupUse)

/-- The world that a scenario starts in. -/
structure Setting where
  clock : Float
  env : Variables
  wallClock : Moment
  connect : List SocketScript
  http : List HttpScript
  dials : List DialScript
  runs : List RunScript
  images : List String
  containers : Dictionary ContainerScript
  faults : FaultScript

/-- The world that a scenario starts in, if nothing else is said. -/
def Setting.usual : Setting where
  clock := 1000.0
  env := []
  wallClock := ⟨⟨2024, 2, 28⟩, 12, 0, 0, 0, some 0⟩
  connect := []
  http := []
  dials := []
  runs := []
  images := ["nginx-proxy-go:test", "nginx:alpine"]
  containers := []
  faults := []

end ProxyTestbed.Scenario
