import ProxyTestbed.Outside.Socket
import ProxyTestbed.Text.Lines
import ProxyTestbed.Text.Pieces
import ProxyTestbed.Wait.Poll

/-!
# Waits

The proxy adapts itself some time after a container starts or stops, and does not say when it is done. So
every wait is a poll with a deadline: for a port, for a line in a log, for a condition. A wait that is
given up reports what it saw.
-/

namespace ProxyTestbed.Wait

variable {σ τ ω α : Type} [Seconds τ] [Host σ τ]

/-- The policy that numbers make, or the fault that they make none. -/
def policyOr (p : Except PolicyProblem (RetryPolicy τ)) : Act σ τ (RetryPolicy τ) :=
  match p with
  | .ok p => pure p
  | .error problem => throw (.policy problem)

/-! ## For a port -/

/-- The least time that an attempt to connect is given. -/
def leastConnectTime : τ := 0.01

/-- The time that an attempt to connect is given: what is left, but not less than the least, and at most
the usual time. -/
def connectTime (usual left : τ) : τ :=
  Seconds.least usual (Seconds.greatest left leastConnectTime)

/-- How long what is behind a port is given to settle, if nothing else is said. -/
def usualSettle : τ := 2.0

/-- How long an attempt to connect takes at most, if nothing else is said. -/
def usualConnectTimeout : τ := 1.0

/-- Waits until a port accepts connections, and then some time more for what is behind it to settle. -/
def untilReachable (host : String) (port : Int) (timeout : τ) (policy : Option (RetryPolicy τ))
    (settle connectTimeout : τ) : Act σ τ Unit := do
  let policy ← match policy with
    | some p => pure p
    | none => policyOr (RetryPolicy.fixed timeout RetryPolicy.usualInterval)
  let target := s!"{host}:{port}"
  record .debug .sync s!"Waiting for {target} (timeout {Seconds.fixed1 timeout}s)..."
  let connectOnce (deadline : Deadline τ) (number : Nat) : On σ τ Unit (Except Nat Nat) := do
    let left := deadline.remaining (← world now)
    let up ← world (Socket.accepts host port (connectTime connectTimeout left))
    return if up then .ok (number + 1) else .error (number + 1)
  let (outcome, _) ← On.start () (pollFor policy timeout connectOnce)
  match ← conclude outcome with
  | .ok attempts =>
    record .info .sync s!"{target} is ready after {attempts} attempt(s)"
    if 0.0 < settle then sleep settle
  | .error attempts => throw (.notReady target timeout s!"{attempts} connection attempt(s) refused")

/-! ## For the proxy to notice something -/

/-- Gives the proxy some time to notice what happened, without looking whether it did. -/
def forConvergence (delay : τ) (reason : String) : Act σ τ Unit := do
  record .debug .sync s!"Waiting {Seconds.fixed1 delay}s for {reason}"
  sleep delay

/-- What is waited for, if nothing else is said. -/
def usualReason : String := "configuration reload"

/-! ## For a line in a log -/

/-- A container with this status does not run any more. -/
def hasExited (status : String) : Bool :=
  status = "exited" || status = "dead"

/-- Waits until the log of a container, which reports call by `name`, holds a text. Fails at once if the
container exits before. -/
def untilLogged (container : Container) (name needle : String) (policy : RetryPolicy τ) :
    Act σ τ Unit := do
  let lookOnce (_ : Deadline τ) (_ : Nat) : On σ τ Unit (Except Unit Unit) := do
    let logs := Text.ofBytes (← world (docker (.logs container .all)))
    if Text.occursIn needle.toList logs.toList then
      world (record .info .sync s!"{name} logged {Text.quoted needle}")
      return .ok ()
    else
      let report ← world (docker (.inspect container))
      if hasExited report.status then
        throw (.provisioning (.exited name needle (Text.tail logs Text.logTailLines)))
      else return .error ()
  let (outcome, _) ← On.start () (pollFor policy policy.timeout lookOnce)
  match ← conclude outcome with
  | .ok () => return ()
  | .error () => throw (.notReady name policy.timeout s!"log line {Text.quoted needle} never appeared")

/-! ## For a condition -/

/-- Repeats an action until its result is accepted. A probe that does not get through counts as a result
that is not accepted; every other fault ends the wait, and so does a fault of the test itself. -/
def eventually (action : On σ τ ω α) (accepts : α → On σ τ ω Bool) (observe : α → Observation)
    (policy : RetryPolicy τ) (condition : String) : On σ τ ω α := do
  let actOnce (_ : Deadline τ) (_ : Nat) : On σ τ ω (Except Observation α) := do
    match ← attempt action with
    | .ok result => if ← accepts result then return .ok result else return .error (observe result)
    | .error (.probe p) => return .error (.problem p)
    | .error e => throw e
  match ← pollFor policy policy.timeout actOnce with
  | .ok result => return result
  | .error last => throw (.notConverged condition policy.timeout last)

/-- What is waited for, if nothing else is said. -/
def usualCondition : String := "condition"

end ProxyTestbed.Wait
