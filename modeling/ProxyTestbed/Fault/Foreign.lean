import ProxyTestbed.Response

/-!
# Errors of the outside world

The daemon, the network, other processes, the operating system and the code of a scenario report errors
of their own. Such an error has a kind, a message, and perhaps another error that it comes from: its
cause, if it was reported because of that one, or its context, if it came up while that one was dealt
with.

Kinds form families; a family is a predicate on kinds.
-/

namespace ProxyTestbed

inductive DockerError
  | general | api | notFound | imageNotFound
  deriving DecidableEq, Repr

inductive HttpError
  | general | timeout | connectTimeout | readTimeout | writeTimeout | poolTimeout | connect | read
  | protocol | scheme | decoding | redirects
  deriving DecidableEq, Repr

/-- The answer of a server that does not upgrade a connection. -/
structure Rejection where
  status : Option Int
  headers : Dictionary String
  body : Body
  deriving DecidableEq, Repr

inductive WebSocketError
  | general | timeout | closed | protocol | payload | address | proxy
  | rejected (answer : Rejection)
  deriving DecidableEq, Repr

inductive SystemError
  | general | permission | missing | exists | notDirectory | isDirectory | connection | refused | reset
  | aborted | brokenPipe | timeout | tls | certificate
  deriving DecidableEq, Repr

inductive ProcessError
  | failed | expired
  deriving DecidableEq, Repr

inductive ProgramError
  | runtime | value | type | key | index | attribute | overflow | arithmetic | assertion | general
  /-- An error of a kind with another name. -/
  | other (name : String)
  deriving DecidableEq, Repr

/-- Errors that the testbed itself reports, when a scenario reports one of them. -/
inductive TestbedError
  | general | config | provisioning | imageMissing | readiness | convergence | start | generation
  | conflict | declaration | assertion
  deriving DecidableEq, Repr

inductive ForeignKind
  | docker (e : DockerError)
  | http (e : HttpError)
  /-- An address that is no address. -/
  | address
  | webSocket (e : WebSocketError)
  | system (e : SystemError)
  | process (e : ProcessError)
  | program (e : ProgramError)
  | testbed (e : TestbedError)
  /-- The user interrupts the run; not an error that can be dealt with. -/
  | interrupt
  deriving DecidableEq, Repr

inductive Foreign
  | mk (kind : ForeignKind) (message : String) (cause context : Option Foreign)

namespace Foreign

/-- The answer of the server in an error of a connection that was not upgraded. -/
def rejection? : Foreign → Option Rejection
  | mk (.webSocket (.rejected answer)) _ _ _ => some answer
  | _ => none

def kind : Foreign → ForeignKind
  | mk k _ _ _ => k

def message : Foreign → String
  | mk _ m _ _ => m

/-- The error that an error was reported because of. -/
def cause : Foreign → Option Foreign
  | mk _ _ c _ => c

/-- The error that an error comes from: its cause, or else its context. -/
def origin : Foreign → Option Foreign
  | mk _ _ cause context => cause.or context

/-- An error that comes from no other. -/
def plain (kind : ForeignKind) (message : String) : Foreign :=
  mk kind message none none

/-- Of the container daemon or its client. -/
def isDocker (e : Foreign) : Bool :=
  match e.kind with
  | .docker _ => true
  | _ => false

def isApi (e : Foreign) : Bool :=
  match e.kind with
  | .docker .general => false
  | .docker _ => true
  | _ => false

def isNotFound (e : Foreign) : Bool :=
  e.kind = .docker .notFound || e.kind = .docker .imageNotFound

def isImageNotFound (e : Foreign) : Bool :=
  e.kind = .docker .imageNotFound

/-- Of a request over HTTP. -/
def isHttp (e : Foreign) : Bool :=
  match e.kind with
  | .http _ => true
  | _ => false

def isHttpTimeout (e : Foreign) : Bool :=
  match e.kind with
  | .http .timeout | .http .connectTimeout | .http .readTimeout | .http .writeTimeout
  | .http .poolTimeout => true
  | _ => false

def isHttpConnect (e : Foreign) : Bool :=
  e.kind = .http .connect

/-- Of a WebSocket connection. -/
def isWebSocket (e : Foreign) : Bool :=
  match e.kind with
  | .webSocket _ => true
  | _ => false

def isWebSocketTimeout (e : Foreign) : Bool :=
  e.kind = .webSocket .timeout

/-- Of the operating system. -/
def isSystem (e : Foreign) : Bool :=
  match e.kind with
  | .system _ => true
  | _ => false

/-- Nothing is there: a file, a directory, a program. -/
def isMissing (e : Foreign) : Bool :=
  e.kind = .system .missing

/-- Of an encrypted connection. -/
def isTls (e : Foreign) : Bool :=
  e.kind = .system .tls || e.kind = .system .certificate

def isSocketTimeout (e : Foreign) : Bool :=
  e.kind = .system .timeout

/-- An error that a scenario reports in the name of the testbed. Declarations and assertions have errors
of other families. -/
def isTestbed (e : Foreign) : Bool :=
  match e.kind with
  | .testbed .declaration | .testbed .assertion => false
  | .testbed _ => true
  | _ => false

/-- Can be dealt with, as all errors but an interruption. -/
def isException (e : Foreign) : Bool :=
  e.kind != .interrupt

/-- Among the first `n` of an error and those that it comes from, one is of an encrypted connection. -/
def tlsWithin : Nat → Option Foreign → Bool
  | 0, _ => false
  | _ + 1, none => false
  | n + 1, some e => e.isTls || tlsWithin n e.origin

/-- How far the search for an error of an encrypted connection goes. -/
def tlsDepth : Nat := 8

/-- The error, or one it comes from, is of an encrypted connection. -/
def comesFromTls (e : Option Foreign) : Bool :=
  tlsWithin tlsDepth e

end Foreign

end ProxyTestbed
