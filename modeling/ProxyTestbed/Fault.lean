import ProxyTestbed.Container.Inspection
import ProxyTestbed.Declaration.Problem
import ProxyTestbed.Fault.Problem
import ProxyTestbed.Seconds

/-!
# Faults

A fault ends an operation of the testbed: one of its own problems, or an error of the outside world that
it lets through. `Fault.message` is the report; the families of faults say which of them an operation
deals with.
-/

namespace ProxyTestbed

/-- Why an operation ends without a result. -/
inductive Fault (τ : Type)
  | foreign (e : Foreign)
  | load (p : LoadProblem)
  | provisioning (p : ProvisioningProblem)
  /-- Something did not become ready in time. -/
  | notReady (target : String) (timeout : τ) (detail : String)
  /-- A condition did not come about in time. -/
  | notConverged (condition : String) (timeout : τ) (last : Observation)
  | start (p : StartProblem)
  | certificate (p : CertificateProblem)
  | probe (p : ProbeProblem)
  | policy (p : PolicyProblem)
  | declaration (p : DeclarationFault)
  | inspection (p : InspectionProblem)
  | calendar (p : CalendarProblem)
  /-- An environment is in a state in which nothing can be done with it. -/
  | unusable (environment : String) (state : EnvironmentState)
  /-- A release step comes after the release. -/
  | released (owner step : String)
  /-- A file is no text. -/
  | undecodable (p : Text.Utf8.Problem)
  /-- A wait has gone on for longer than anyone is ready to follow it. -/
  | stalled

namespace Fault

variable {τ : Type}

/-- A wait that was given up, with a detail if there is one. -/
def notReadyText [Seconds τ] (target : String) (timeout : τ) (detail : String) : String :=
  let said := s!"{target} did not become ready within {Seconds.fixed1 timeout}s"
  if detail.isEmpty then said else s!"{said}: {detail}"

/-- What a wait for a condition saw last, as a detail. -/
def lastSeen (last : Observation) : String :=
  s!"last observation: {last.quoted}"

def message [Seconds τ] : Fault τ → String
  | foreign e => e.message
  | load p => p.message
  | provisioning p => p.message
  | notReady target timeout detail => notReadyText target timeout detail
  | notConverged condition timeout last => notReadyText condition timeout (lastSeen last)
  | start p => p.message
  | certificate p => p.message
  | probe p => p.message
  | policy p => p.message
  | declaration p => p.message
  | inspection p => p.message
  | calendar p => p.message
  | unusable environment state => s!"{environment} is {state.word}, not usable"
  | released owner step => s!"{owner} already released, cannot register {step}"
  | undecodable p => p.message
  | stalled => "the wait goes on for too long"

/-- The error of the outside world, if the fault is one. -/
def foreign? : Fault τ → Option Foreign
  | foreign e => some e
  | _ => none

/-- An error of the outside world of a family. -/
def comesFrom (family : Foreign → Bool) (f : Fault τ) : Bool :=
  f.foreign?.any family

/-- A fault that the testbed itself reports as its own. The faults of declarations, policies,
inspections and dates are not among them. -/
def isTestbed : Fault τ → Bool
  | foreign e => e.isTestbed
  | load (.refused _) | provisioning _ | notReady _ _ _ | notConverged _ _ _ | start _ | certificate _
  | probe _ | unusable _ _ => true
  | load _ | policy _ | declaration _ | inspection _ | calendar _ | released _ _ | undecodable _
  | stalled => false

/-- Can be dealt with: not an interruption, and not a wait without end. -/
def isException : Fault τ → Bool
  | foreign e => e.isException
  | stalled => false
  | _ => true

def isStart : Fault τ → Bool
  | start _ => true
  | foreign e => e.kind = .testbed .start
  | _ => false

end Fault

end ProxyTestbed
