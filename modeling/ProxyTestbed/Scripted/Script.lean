import ProxyTestbed.Outside.World

/-!
# Scripts of an outside world

A scripted world does what its scripts say: for every kind of request there is a queue of outcomes. Most
queues are sticky: their last outcome is repeated for ever. Queues of faults are not: when one is used
up, nothing goes wrong any more.
-/

namespace ProxyTestbed.Scripted

/-! ## Queues -/

/-- The next item of a sticky queue and the rest of it; nothing from an empty one. -/
def takeSticky? {α : Type} : List α → Option (α × List α)
  | [] => none
  | [x] => some (x, [x])
  | x :: xs => some (x, xs)

/-- The next item of a sticky queue, or a usual one from an empty queue. -/
def takeStickyOr {α : Type} (usual : α) (queue : List α) : α × List α :=
  (takeSticky? queue).getD (usual, queue)

/-! ## Outcomes -/

/-- What becomes of a TCP connection. -/
inductive SocketScript
  | refuse
  | timeout
  /-- The other side closes it at once. -/
  | ends
  /-- The other side sends something. -/
  | data
  /-- The other side breaks it off. -/
  | reset
  /-- The other side keeps it open. -/
  | hold
  /-- Some time passes before. -/
  | after (seconds : Float) (next : SocketScript)
  deriving Repr

/-- What becomes of a request over HTTP. -/
abbrev HttpScript := Except (Fault Float) HttpAnswer

/-- What comes next from a WebSocket connection. -/
abbrev FrameScript := Except (Fault Float) Frame

/-- A WebSocket connection. -/
structure ConnectionScript where
  status : Int
  headers : Dictionary String
  patience : Option Float
  /-- What is received, a sticky queue. -/
  receive : List FrameScript
  /-- The faults of sending. -/
  send : List (Option (Fault Float))
  /-- The fault of closing. -/
  close : Option (Fault Float)

/-- What becomes of a WebSocket dial. -/
abbrev DialScript := Except (Fault Float) ConnectionScript

/-- A connection that is silent. -/
def ConnectionScript.usual : ConnectionScript := ⟨101, [], none, [], [], none⟩

/-- What becomes of the run of a program: the files that it writes, and how it ends. -/
structure RunScript where
  writesKey : Bool
  writesCertificate : Bool
  ending : RunEnd Float

/-- A run that writes both files. -/
def RunScript.usual : RunScript := ⟨true, true, .done⟩

/-- What containers made from an image do. -/
structure ContainerScript where
  /-- The statuses that looks at a container find, a sticky queue; none if its status stays. -/
  statuses : List String
  /-- Its logs, a sticky queue. -/
  logs : List Bytes
  /-- Its attributes, if they are not the usual ones. -/
  attributes : Option Datum

/-- A container that does nothing of its own. -/
def ContainerScript.usual : ContainerScript := ⟨[], [], none⟩

/-! ## Faults -/

/-- Where calls of the daemon may fail. -/
inductive Point
  | createContainer | startContainer | stopContainer | restartContainer | removeContainer
  | inspectContainer | containerLogs | createNetwork | inspectNetwork | removeNetwork | disconnect
  | findImage | pullImage | connect
  deriving DecidableEq, Repr

namespace Point

def name : Point → String
  | createContainer => "containers.create"
  | startContainer => "container.start"
  | stopContainer => "container.stop"
  | restartContainer => "container.restart"
  | removeContainer => "container.remove"
  | inspectContainer => "container.reload"
  | containerLogs => "container.logs"
  | createNetwork => "networks.create"
  | inspectNetwork => "network.reload"
  | removeNetwork => "network.remove"
  | disconnect => "network.disconnect"
  | findImage => "images.get"
  | pullImage => "images.pull"
  | connect => "from_env"

end Point

/-- The faults of each point, by the name of the point; a fault or none for each call. -/
abbrev FaultScript := Dictionary (List (Option (Fault Float)))

end ProxyTestbed.Scripted
