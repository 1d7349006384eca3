import ProxyTestbed.Fleet
import ProxyTestbed.Outside.Files
import ProxyTestbed.Probe.WebSocket
import ProxyTestbed.Scenario.Answer
import ProxyTestbed.Scenario.Step

/-!
# Sessions of a scenario

A session is what the steps of a scenario have made so far: a fleet with its environments, and the
backends, connections and lists of release steps that later steps name by their numbers. A scenario starts
in the scripted world that its setting describes, with an empty session.
-/

namespace ProxyTestbed.Scenario

open Scripted (Stage)

/-- What a release step of a scenario is: a step of the testbed, or one of the scenario's own. -/
inductive ReleaseAct
  | step (step : CleanupStep)
  | scripted (description : String) (script : ReleaseScript)

/-- What the steps of a scenario have made so far. -/
structure Session where
  fleet : Fleet Float
  /-- The backends, by their environments and their numbers there. -/
  backends : List (Nat × Nat)
  probes : List (WebSocketProbe Float)
  owners : List (Coordinator ReleaseAct Float)

def Session.empty : Session := ⟨Fleet.empty, [], [], []⟩

/-- An act on the scripted world. -/
abbrev Play (α : Type) := Act Stage Float α

/-- An act on the scripted world and on an object. -/
abbrev PlayOn (ω α : Type) := On Stage Float ω α

/-! ## The scripted world -/

/-- An act on the stage alone. -/
def onStage {α : Type} (play : Stage.Play α) : Play α := fun w =>
  match play w.host with
  | .ok a host => .ok a { w with host }
  | .error e host => .error e { w with host }

def changeStage (f : Stage → Stage) : Play Unit :=
  onStage (modify f)

/-- The names of directories that a scenario starts with. -/
def firstDirectories : List String := ["tmp", "scratch"]

/-- The world that a scenario starts in. -/
def Setting.world (s : Setting) : World Stage Float where
  host := {
    clock := s.clock
    env := s.env
    wallClock := s.wallClock
    ids := 0
    endings := 0
    sockets := []
    connect := s.connect
    http := s.http
    dials := s.dials
    connections := []
    runs := s.runs
    images := s.images
    imageScripts := s.containers
    faults := s.faults
    containers := []
    networks := []
    addresses := 0
    ports := 0 }
  files := {
    home := [Path.homeWord]
    entries := ([Path.homeWord], Entry.directory) ::
      firstDirectories.map fun name => ([Path.homeWord, name], Entry.directory) }
  past := []

/-- Gives the scripted world a new script. -/
def ScriptChange.apply (c : ScriptChange) (s : Stage) : Stage :=
  { s with
    http := c.http.getD s.http
    dials := c.dials.getD s.dials
    runs := c.runs.getD s.runs
    connect := c.connect.getD s.connect
    wallClock := c.wallClock.getD s.wallClock
    faults := s.faults.putAll c.faults }

def ContainerChange.apply (c : ContainerChange) (x : Scripted.StageContainer) :
    Scripted.StageContainer :=
  { x with
    status := c.status.getD x.status
    removed := c.removed.getD x.removed
    attributes := c.attributes.getD x.attributes
    script := { x.script with
      statuses := c.statuses.getD x.script.statuses
      logs := c.logs.getD x.script.logs } }

/-- The key of the container with a number among those of the daemon. -/
def containerKey? (s : Stage) (index : Nat) : Option Nat :=
  ((s.containers.zipIdx.filter fun c => c.1.isListed)[index]?).map (·.2)

def attach (network container : Nat) : Stage.Play Unit :=
  Stage.changeNetwork network fun n =>
    { n with attached := n.attached.filter (· != container) ++ [container] }

/-- Changes the container with a number, if there is one. -/
def changeContainer (index : Nat) (c : ContainerChange) : Stage.Play (Option Unit) := do
  let s ← get
  match containerKey? s index with
  | none => return none
  | some key =>
    match c.attach with
    | some network =>
      if s.networks.length ≤ network then return none
      Stage.changeContainer key c.apply
      attach network key
      return some ()
    | none =>
      Stage.changeContainer key c.apply
      return some ()

/-- Removes the network with a number, if there is one. -/
def removeNetwork (index : Nat) : Stage.Play (Option Unit) := do
  if (← get).networks.length ≤ index then return none
  Stage.changeNetwork index fun n => { n with removed := true }
  return some ()

/-- A container that was made outside of the testbed. -/
def foreignContainer (name : String) (isListed : Bool) (status : String)
    (script : Scripted.ContainerScript) : Scripted.StageContainer :=
  ⟨name, isListed, status, false, script, .map []⟩

/-- The text of an entry of the file tree. -/
def entryText : Entry → String
  | .directory => "<dir>"
  | .file content _ => Text.ofBytes content

/-- All that is below the working directory, by its path. -/
def tree : Play Answer := fun w =>
  let entries := w.files.below w.files.home
  .ok (.record (entries.map fun (names, entry) => ("/".intercalate names, .text (entryText entry)))) w

/-! ## Answers -/

/-- An act that answers nothing. -/
def silent {s : Type} (act : EStateM (Fault Float) s Unit) : EStateM (Fault Float) s Answer := do
  act
  return .nothing

/-- What was read from declarations. -/
def declared {s α : Type} (view : α → Answer) (read : Except DeclarationFault α) :
    EStateM (Fault Float) s Answer :=
  match read with
  | .ok a => return view a
  | .error problem => throw (.declaration problem)

def policyOf {s : Type} (numbers : PolicyNumbers) : EStateM (Fault Float) s (RetryPolicy Float) :=
  match numbers.policy with
  | .ok policy => return policy
  | .error problem => throw (.policy problem)

/-- The policy with given numbers, if any are given. -/
def policyOf? {s : Type} (numbers : Option PolicyNumbers) :
    EStateM (Fault Float) s (Option (RetryPolicy Float)) :=
  match numbers with
  | none => return none
  | some numbers => return some (← policyOf numbers)

/-- Ends in a fault, if one is given. -/
def fail? {s : Type} (fault : Option (Fault Float)) : EStateM (Fault Float) s Unit :=
  match fault with
  | none => return ()
  | some fault => throw fault

end ProxyTestbed.Scenario
