import ProxyTestbed.Outside.World

/-!
# Checking a TCP port

Two checks of a port of a host, neither of which fails: whether it accepts a connection, and whether
something behind it keeps one open. A port that a container publishes accepts connections before anything
in the container listens, and then closes them at once, so only the second check tells that a service is
up.
-/

namespace ProxyTestbed.Socket

variable {σ τ : Type} [Seconds τ] [Host σ τ]

/-- Connects, does something with the socket, and closes it. False if the system reports an error on the
way. -/
def checkWith (host : String) (port : Int) (timeout : τ) (use : Nat → Act σ τ Bool) : Act σ τ Bool := do
  let whole : Act σ τ Bool := do
    let socket ← ask (.connect host port timeout)
    always (use socket) (ask (.closeSocket socket))
  match ← attempt whole with
  | .ok answer => return answer
  | .error e => if e.comesFrom Foreign.isSystem then return false else throw e

/-- The port accepts a connection. -/
def accepts (host : String) (port : Int) (timeout : τ) : Act σ τ Bool :=
  checkWith host port timeout fun _ => pure true

/-- How long the second check waits for the connection to be closed. -/
def holdTime : τ := 0.2

/-- The port keeps a connection open: it sends something, or is silent. -/
def isListening (host : String) (port : Int) (timeout : τ) : Act σ τ Bool :=
  checkWith host port timeout fun socket => do
    ask (.setTimeout socket holdTime)
    match ← attempt (ask (.receiveByte socket)) with
    | .ok bytes => return !bytes.isEmpty
    | .error e => if e.comesFrom Foreign.isSocketTimeout then return true else throw e

end ProxyTestbed.Socket
