import ProxyTestbed.Declaration.Variables
import ProxyTestbed.Fault
import ProxyTestbed.File.Path

/-!
# Requests to the outside world

Everything that the testbed wants from the outside world and may not get is a `Request`: operations on
files, connections, requests over HTTP, WebSocket frames, runs of another program, calls of the
container daemon, and sleeps. The type of the answer depends on the request.
-/

namespace ProxyTestbed

/-! ## Containers -/

structure Container where
  key : Nat
  name : String
  deriving DecidableEq, Repr

structure Network where
  key : Nat
  name : String
  deriving DecidableEq, Repr

/-- What a container is for. -/
inductive Role
  /-- The proxy, with the places in it where paths of the host are mounted. -/
  | proxy (mounts : Dictionary String)
  /-- A backend, with the command that it runs instead of its own. -/
  | backend (command : Datum)

/-- What a container is made from. -/
structure ContainerPlan where
  image : String
  name : String
  network : String
  /-- The ports to publish, on any free port of the host each. -/
  ports : List String
  environment : Variables
  labels : Dictionary String
  role : Role

/-- How many of the last lines of a log are wanted. -/
inductive LogTail
  | all
  | lines (count : Int)
  deriving DecidableEq, Repr

/-- What the daemon tells about a container. -/
structure ContainerReport where
  status : String
  attributes : Datum

inductive DockerCall
  | connect
  | findImage (image : String)
  | pullImage (image : String)
  | createNetwork (name : String) (labels : Dictionary String)
  /-- The containers that are attached to a network. -/
  | inspectNetwork (network : Network)
  | disconnect (network : Network) (container : Container)
  | removeNetwork (network : Network)
  | create (plan : ContainerPlan)
  | start (container : Container)
  | stop (container : Container) (timeout : Int)
  | restart (container : Container) (timeout : Int)
  | remove (container : Container)
  | inspect (container : Container)
  | logs (container : Container) (tail : LogTail)

abbrev DockerCall.Answer : DockerCall → Type
  | createNetwork _ _ => Network
  | inspectNetwork _ => List Container
  | create _ => Container
  | inspect _ => ContainerReport
  | logs _ _ => Bytes
  | _ => Unit

/-! ## Connections -/

/-- A request over HTTP. -/
structure HttpRequest (τ : Type) where
  url : String
  headers : Dictionary String
  /-- Name and password. -/
  auth : Option (String × String)
  /-- How long an answer is waited for; nothing to wait without an end. -/
  timeout : Option τ
  /-- The certificate of the server is checked. -/
  verify : Bool
  /-- If the answer points to another address, that one is asked too. -/
  followRedirects : Bool
  /-- The variables of the process may name a proxy or a password. -/
  trustVariables : Bool
  /-- The name that the server is asked for over an encrypted connection. -/
  serverName : Option String

structure HttpAnswer where
  status : Int
  headers : Headers
  body : Bytes

/-- A WebSocket connection that is asked for. -/
structure DialRequest (τ : Type) where
  url : String
  /-- Header fields, each with its name. -/
  header : List String
  /-- The host that is asked for, if it is not that of the address. -/
  host : Option String
  /-- How long an answer is waited for; nothing to wait without an end. -/
  timeout : Option τ
  /-- The name that the server is asked for over an encrypted connection; its certificate is not
  checked. -/
  serverName : Option String

structure Connection (τ : Type) where
  key : Nat
  status : Int
  headers : Dictionary String
  /-- How long a wait for a frame lasts, as far as that is known. -/
  patience : Option τ

structure Frame where
  opcode : Int
  payload : Body
  deriving DecidableEq, Repr

/-! ## Certificates -/

/-- The run of a program that makes a key and a certificate. -/
structure CertificateRun where
  program : String
  hostname : String
  keyPath : Path
  certPath : Path
  keyBits : Int
  days : Int

/-- How a run ends. -/
inductive RunEnd (τ : Type)
  | done
  | failed (stderr : String)
  | expired
  /-- It could not be started, or was broken off. -/
  | broken (fault : Fault τ)

/-- What a run did: the files that it wrote, and how it ended. -/
structure RunReport (τ : Type) where
  key : Option Bytes
  certificate : Option Bytes
  ending : RunEnd τ

/-! ## Files -/

inductive FileOperation
  | makeDirectory | write | read | setMode | delete | deleteTree | list
  deriving DecidableEq, Repr

/-! ## Requests -/

inductive Request (τ : Type)
  /-- An operation on the file tree, which may be denied. -/
  | file (operation : FileOperation) (path : Path)
  /-- A TCP connection; answered with its socket. -/
  | connect (host : String) (port : Int) (timeout : τ)
  | setTimeout (socket : Nat) (timeout : τ)
  /-- One byte, or none at the end. -/
  | receiveByte (socket : Nat)
  | closeSocket (socket : Nat)
  | get (request : HttpRequest τ)
  | dial (request : DialRequest τ)
  | sendFrame (connection : Nat) (frame : Frame)
  | receiveFrame (connection : Nat)
  | closeConnection (connection : Nat) (status : Int) (reason : Bytes) (timeout : Int)
  | run (command : CertificateRun)
  | docker (call : DockerCall)
  | sleep (seconds : τ)

abbrev Request.Answer {τ : Type} : Request τ → Type
  | connect _ _ _ => Nat
  | receiveByte _ => Bytes
  | get _ => HttpAnswer
  | dial _ => Connection τ
  | receiveFrame _ => Frame
  | run _ => RunReport τ
  | docker call => call.Answer
  | _ => Unit

end ProxyTestbed
