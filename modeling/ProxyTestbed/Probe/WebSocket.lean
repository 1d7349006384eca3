import ProxyTestbed.Outside.World
import ProxyTestbed.Probe.Target

/-!
# Probes over WebSocket

A probe is a connection that stays open. A close frame, sent or received, closes it; then nothing is sent
or received any more. An error of the connection is a problem of the probe, and leaves it open.
-/

namespace ProxyTestbed

/-- A WebSocket connection through the proxy. -/
structure WebSocketProbe (τ : Type) where
  connection : Connection τ
  url : String
  host : String
  closed : Bool

namespace WebSocketProbe

variable {σ τ : Type} [Seconds τ] [Host σ τ]

/-! ## Dialling -/

/-- How long a dial waits for an answer, if nothing else is said. -/
def usualTimeout : τ := 10.0

/-- What a dial sends besides the target. -/
structure Options (τ : Type) where
  secure : Bool
  /-- How long an answer is waited for; nothing to wait without an end. -/
  timeout : Option τ
  headers : Dictionary String

def scheme (secure : Bool) : String :=
  if secure then "wss" else "ws"

/-- The request of a dial. Over an encrypted connection the server is asked for the host, or for the
address without one. -/
def request (target : Target) (options : Options τ) : DialRequest τ where
  url := target.url (scheme options.secure)
  header := options.headers.map fun (name, value) => s!"{name}: {value}"
  host := if target.host.isEmpty then none else some target.host
  timeout := options.timeout
  serverName :=
    if !options.secure then none
    else if target.host.isEmpty then some target.address
    else some (Target.serverName target.host)

/-- The problem of a dial that the server does not upgrade. -/
def rejected (url host : String) (answer : Rejection) (e : Foreign) : ProbeProblem where
  failure := .handshake
  text := s!"WebSocket upgrade to {url} (Host: {host}) rejected"
  status := answer.status
  headers := answer.headers
  body := answer.body.toBytes
  cause := some e

/-- The problem of a dial that ends in another error. -/
def problemOf (url host : String) (timeout : Option τ) (e : Foreign) : Option ProbeProblem :=
  let dial := s!"{url} (Host: {host})"
  if e.isWebSocketTimeout then
    some (.make .timeout s!"WebSocket dial {dial} timed out after {Target.secondsText timeout}s" (some e))
  else if e.isTls then some (.make .tls s!"TLS handshake with {dial} failed: {e.message}" (some e))
  else if e.isWebSocket then
    some (.make .protocol s!"WebSocket dial {dial} failed: {e.message}" (some e))
  else if e.isSystem then
    some (.make .connection s!"WebSocket dial {dial} failed to connect: {e.message}" (some e))
  else none

def dial (target : Target) (options : Options τ) : Act σ τ (WebSocketProbe τ) := do
  let request := request target options
  match ← attempt (ask (.dial request)) with
  | .ok connection =>
    record .debug .probes s!"WebSocket {request.url} Host={target.host} upgraded"
    return ⟨connection, request.url, target.host, false⟩
  | .error (.foreign e) =>
    match e.rejection? with
    | some answer =>
      let shown := Text.quotedBytes (answer.body.toBytes.take ProbeProblem.shownBytes)
      let status := Target.numberText answer.status
      record .debug .probes s!"WebSocket dial {request.url} (Host: {target.host}) rejected: {status} {shown}"
      throw (.probe (rejected request.url target.host answer e))
    | none =>
      match problemOf request.url target.host options.timeout e with
      | some p => throw (.probe p)
      | none => throw (.foreign e)
  | .error e => throw e

/-! ## An open connection -/

/-- The kinds of frames. -/
def textFrame : Int := 1
def binaryFrame : Int := 2
def closeFrame : Int := 8

def breaks (e : Foreign) : Bool :=
  e.isWebSocket || e.isSystem

/-- Goes on only if the connection is not closed. -/
def checkOpen (action : String) : On σ τ (WebSocketProbe τ) Unit := do
  let p ← On.object
  if p.closed then
    let text := s!"cannot {action} on {p.url} (Host: {p.host}): close frame already sent"
    throw (.probe (.make .closed text none))

def send (frame : Frame) : On σ τ (WebSocketProbe τ) Unit := do
  checkOpen "send"
  let p ← On.object
  let report (e : Foreign) : Option (Fault τ) :=
    if breaks e then some (.probe (.make .closed s!"send on {p.url} failed: {e.message}" (some e)))
    else none
  reporting report (world (ask (.sendFrame p.connection.key frame)))

def sendText (message : String) : On σ τ (WebSocketProbe τ) Unit :=
  send ⟨textFrame, .text message⟩

def sendBinary (payload : Bytes) : On σ τ (WebSocketProbe τ) Unit :=
  send ⟨binaryFrame, .bytes payload⟩

/-- The next frame: its kind, and its payload as bytes. A close frame closes the connection. -/
def receive : On σ τ (WebSocketProbe τ) (Int × Bytes) := do
  checkOpen "receive"
  let p ← On.object
  let report (e : Foreign) : Option (Fault τ) :=
    if e.isWebSocketTimeout then
      let text := s!"no message on {p.url} within {Target.secondsText p.connection.patience}s"
      some (.probe (.make .timeout text (some e)))
    else if breaks e then
      some (.probe (.make .closed s!"receive on {p.url} failed: {e.message}" (some e)))
    else none
  let frame ← reporting report (world (ask (.receiveFrame p.connection.key)))
  if frame.opcode = closeFrame then
    On.change fun p => { p with closed := true }
    throw (.probe (.make .closed s!"{p.url} closed by peer" none))
  else return (frame.opcode, frame.payload.toBytes)

def receiveText : On σ τ (WebSocketProbe τ) String := do
  let (_, payload) ← receive
  return Text.ofBytes payload

/-- The status of a connection that is closed as planned. -/
def normalStatus : Int := 1000

/-- How many seconds a close frame is waited for. -/
def closeTimeout : Int := 1

/-- Closes the connection, unless it is closed. An error of the connection does not count. -/
def close (status : Int) (reason : String) : On σ τ (WebSocketProbe τ) Unit := do
  let p ← On.object
  if p.closed then return ()
  On.change fun p => { p with closed := true }
  match ← attempt (world (ask (.closeConnection p.connection.key status (Text.utf8 reason) closeTimeout)))
  with
  | .ok () => return ()
  | .error e =>
    if e.comesFrom breaks then
      world (record .debug .probes s!"close on {p.url} raised {Fault.message e}")
    else throw e

/-- Uses a connection, and closes it in the end. -/
def closing {α : Type} (block : On σ τ (WebSocketProbe τ) α) : On σ τ (WebSocketProbe τ) α :=
  always block (close normalStatus "")

end WebSocketProbe

end ProxyTestbed
