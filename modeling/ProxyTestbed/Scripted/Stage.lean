import ProxyTestbed.Scripted.Script

/-!
# A scripted world

A stage is the state of a scripted world: the scripts that are left, the clock, and the containers and
networks of its daemon.
-/

namespace ProxyTestbed.Scripted

structure StageContainer where
  name : String
  /-- It counts among the containers of the daemon, and calls on it may fail. -/
  isListed : Bool
  status : String
  removed : Bool
  script : ContainerScript
  attributes : Datum

structure StageNetwork where
  name : String
  removed : Bool
  /-- The containers that are attached to it. -/
  attached : List Nat

/-- A WebSocket connection, and what is left of its script. -/
abbrev StageConnection := ConnectionScript

/-- The state of a scripted world. -/
structure Stage where
  clock : Float
  env : Variables
  wallClock : Moment
  ids : Nat
  endings : Nat
  sockets : List SocketScript
  connect : List SocketScript
  http : List HttpScript
  dials : List DialScript
  connections : List StageConnection
  runs : List RunScript
  images : List String
  imageScripts : Dictionary ContainerScript
  faults : FaultScript
  containers : List StageContainer
  networks : List StageNetwork
  /-- How many addresses and ports of the host were given away. -/
  addresses : Nat
  ports : Nat

namespace Stage

/-- What becomes of a request, on the stage. -/
abbrev Play (α : Type) := EStateM (Fault Float) Stage α

/-! ## Numbers -/

def idOf (n : Nat) : String :=
  String.ofList (Text.hexDigits 8 n ++ List.replicate 24 '0')

def endingOf (n : Nat) : String :=
  Date.padded 4 n

def addressOf (n : Nat) : String :=
  s!"172.30.0.{n + 2}"

def portOf (n : Nat) : String :=
  toString (n + 32001)

/-! ## Faults -/

/-- The next fault of a point, if there is one. -/
def fault (point : Point) : Play Unit := do
  match (← get).faults.get? point.name with
  | some (next :: rest) =>
    modify fun s => { s with faults := s.faults.put point.name rest }
    match next with
    | some fault => throw fault
    | none => return ()
  | _ => return ()

/-- The error that the daemon has no such thing. -/
def missing (kind name : String) : Fault Float :=
  .foreign (.plain (.docker .notFound) s!"{kind} {name} not found")

/-- The error that the daemon has no such image. -/
def missingImage (image : String) : Fault Float :=
  .foreign (.plain (.docker .imageNotFound) s!"No such image: {image}")

/-! ## Connections -/

def pass (seconds : Float) : Play Unit :=
  modify fun s => { s with clock := s.clock + seconds }

def tryConnect : SocketScript → Play Nat
  | .after seconds next => do
    pass seconds
    tryConnect next
  | .refuse => throw (.foreign (.plain (.system .refused) "[Errno 111] Connection refused"))
  | .timeout => throw (.foreign (.plain (.system .timeout) "timed out"))
  | script => do
    modify fun s => { s with sockets := s.sockets ++ [script] }
    return (← get).sockets.length - 1

def openSocket : Play Nat := do
  let (script, rest) := takeStickyOr .hold (← get).connect
  modify fun s => { s with connect := rest }
  tryConnect script

def receiveByte (socket : Nat) : Play Bytes := do
  match (← get).sockets[socket]? with
  | some .data => return Text.utf8 "x"
  | some .reset => throw (.foreign (.plain (.system .reset) "[Errno 104] Connection reset by peer"))
  | some .hold => throw (.foreign (.plain (.system .timeout) "timed out"))
  | _ => return []

/-- The outcome of a request when no script is given. -/
def usualHttp : HttpScript :=
  .error (.foreign (.plain (.http .connect) "[Errno 111] Connection refused"))

def answerHttp : Play HttpAnswer := do
  let (script, rest) := takeStickyOr usualHttp (← get).http
  modify fun s => { s with http := rest }
  match script with
  | .ok answer => return answer
  | .error fault => throw fault

def answerDial : Play (Connection Float) := do
  let (script, rest) := takeStickyOr (.ok .usual) (← get).dials
  modify fun s => { s with dials := rest }
  match script with
  | .error fault => throw fault
  | .ok c =>
    let key := (← get).connections.length
    modify fun s => { s with connections := s.connections ++ [c] }
    return ⟨key, c.status, c.headers, c.patience⟩

/-- Changes what is left of the script of a connection. -/
def changeConnection (key : Nat) (f : StageConnection → StageConnection) : Play Unit :=
  modify fun s => { s with connections := s.connections.modify key f }

def takeFrame (key : Nat) : Play Unit := do
  match ((← get).connections[key]?).map (·.send) with
  | some (next :: rest) =>
    changeConnection key fun c => { c with send := rest }
    match next with
    | some fault => throw fault
    | none => return ()
  | _ => return ()

/-- The outcome of a wait for a frame when no script is given. -/
def usualFrame : FrameScript :=
  .error (.foreign (.plain (.webSocket .timeout) "Connection timed out"))

def giveFrame (key : Nat) : Play Frame := do
  let queue := (((← get).connections[key]?).map (·.receive)).getD []
  let (script, rest) := takeStickyOr usualFrame queue
  changeConnection key fun c => { c with receive := rest }
  match script with
  | .ok frame => return frame
  | .error fault => throw fault

def closeConnection (key : Nat) : Play Unit := do
  match ((← get).connections[key]?).bind (·.close) with
  | some fault => throw fault
  | none => return ()

/-! ## Runs -/

/-- The content of a key and of a certificate. -/
def keyContent : Bytes := Text.utf8 "KEY\n"
def certificateContent : Bytes := Text.utf8 "CERT\n"

def answerRun : Play (RunReport Float) := do
  let (script, rest) := takeStickyOr RunScript.usual (← get).runs
  modify fun s => { s with runs := rest }
  return {
    key := if script.writesKey then some keyContent else none
    certificate := if script.writesCertificate then some certificateContent else none
    ending := script.ending }

/-! ## The daemon -/

def changeContainer (key : Nat) (f : StageContainer → StageContainer) : Play Unit :=
  modify fun s => { s with containers := s.containers.modify key f }

def changeNetwork (key : Nat) (f : StageNetwork → StageNetwork) : Play Unit :=
  modify fun s => { s with networks := s.networks.modify key f }

/-- Adds a container, and answers it. -/
def addContainer (c : StageContainer) : Play Container := do
  let key := (← get).containers.length
  modify fun s => { s with containers := s.containers ++ [c] }
  return ⟨key, c.name⟩

/-- Adds a network, and answers it. -/
def addNetwork (name : String) : Play Network := do
  let key := (← get).networks.length
  modify fun s => { s with networks := s.networks ++ [⟨name, false, []⟩] }
  return ⟨key, name⟩

/-- A mapping with one text as its key. -/
def single (key : String) (value : Datum) : Datum :=
  .map [(.text key, value)]

/-- The attributes of a new container: an address in its network, and a port of the host for each
published port. -/
def usualAttributes (plan : ContainerPlan) : Play Datum := do
  let s ← get
  set { s with addresses := s.addresses + 1, ports := s.ports + plan.ports.length }
  let address := single "IPAddress" (.text (addressOf s.addresses))
  let bindings := plan.ports.zipIdx.map fun (port, i) =>
    (Datum.text port, Datum.list [single "HostPort" (.text (portOf (s.ports + i)))])
  return single "NetworkSettings"
    (.map [(.text "Networks", single plan.network address), (.text "Ports", .map bindings)])

def create (plan : ContainerPlan) : Play Container := do
  fault .createContainer
  let s ← get
  if !s.images.contains plan.image then throw (missingImage plan.image)
  let script := (s.imageScripts.get? plan.image).getD .usual
  let attributes ← match script.attributes with
    | some attributes => pure attributes
    | none => usualAttributes plan
  addContainer ⟨plan.name, true, "created", false, script, attributes⟩

/-- A container that calls can be made on. -/
def checkContainer (c : Container) (point : Point) : Play Unit := do
  if ((← get).containers[c.key]?).any (·.removed) then throw (missing "container" c.name)
  fault point

/-- Calls that leave a container in a status. -/
def setStatus (c : Container) (point : Point) (status : String) : Play Unit := do
  checkContainer c point
  changeContainer c.key fun x => { x with status }

/-- The status that the next look at a container finds. -/
def nextStatus (c : StageContainer) : StageContainer :=
  match takeSticky? c.script.statuses with
  | none => c
  | some (status, rest) => { c with status, script := { c.script with statuses := rest } }

def inspect (c : Container) : Play ContainerReport := do
  checkContainer c .inspectContainer
  changeContainer c.key nextStatus
  match (← get).containers[c.key]? with
  | some x => return ⟨x.status, x.attributes⟩
  | none => return ⟨"", .null⟩

def logs (c : Container) : Play Bytes := do
  match (← get).containers[c.key]? with
  | none => return []
  | some x =>
    if x.isListed then checkContainer c .containerLogs
    let (content, rest) := takeStickyOr [] x.script.logs
    changeContainer c.key fun x => { x with script := { x.script with logs := rest } }
    return content

/-- The containers that are attached to a network. -/
def attachedTo (n : StageNetwork) (s : Stage) : List Container :=
  n.attached.filterMap fun key => (s.containers[key]?).map fun c => ⟨key, c.name⟩

def inspectNetwork (n : Network) : Play (List Container) := do
  if ((← get).networks[n.key]?).any (·.removed) then throw (missing "network" n.name)
  fault .inspectNetwork
  let s ← get
  return ((s.networks[n.key]?).map fun x => attachedTo x s).getD []

def answerDocker : (call : DockerCall) → Play call.Answer
  | .connect => fault .connect
  | .findImage image => do
    fault .findImage
    if !(← get).images.contains image then throw (missingImage image)
  | .pullImage image => do
    fault .pullImage
    modify fun s => { s with images := s.images ++ [image] }
  | .createNetwork name _ => do
    fault .createNetwork
    addNetwork name
  | .inspectNetwork n => inspectNetwork n
  | .disconnect n c => do
    fault .disconnect
    changeNetwork n.key fun x => { x with attached := x.attached.filter (· != c.key) }
  | .removeNetwork n => do
    fault .removeNetwork
    changeNetwork n.key fun x => { x with removed := true }
  | .create plan => create plan
  | .start c => setStatus c .startContainer "running"
  | .stop c _ => setStatus c .stopContainer "exited"
  | .restart c _ => setStatus c .restartContainer "running"
  | .remove c => do
    checkContainer c .removeContainer
    changeContainer c.key fun x => { x with removed := true }
  | .inspect c => inspect c
  | .logs c _ => logs c

/-! ## The world -/

def answer : (r : Request Float) → Play r.Answer
  | .file _ _ => return ()
  | .connect _ _ _ => openSocket
  | .setTimeout _ _ => return ()
  | .receiveByte socket => receiveByte socket
  | .closeSocket _ => return ()
  | .get _ => answerHttp
  | .dial _ => answerDial
  | .sendFrame key _ => takeFrame key
  | .receiveFrame key => giveFrame key
  | .closeConnection key _ _ _ => closeConnection key
  | .run _ => answerRun
  | .docker call => answerDocker call
  | .sleep _ => return ()

/-- What comes of a play. -/
def perform {α : Type} (play : Play α) (s : Stage) : Except (Fault Float) α × Stage :=
  match play s with
  | .ok a s => (.ok a, s)
  | .error e s => (.error e, s)

instance : Host Stage Float where
  answer r s := perform (answer r) s
  now s := s.clock
  sleep seconds s := { s with clock := s.clock + seconds }
  wallClock s := s.wallClock
  freshId s := (idOf (s.ids + 1), { s with ids := s.ids + 1 })
  env s := s.env
  temporaryDirectory _ := .ofString "tmp"
  freshEnding s := (endingOf (s.endings + 1), { s with endings := s.endings + 1 })

end Stage

end ProxyTestbed.Scripted
