/-!
# States of environments and backends

An environment is created, provisioned, used and destroyed; a backend is requested, started, stopped and
removed.
-/

namespace ProxyTestbed

/-- Where an environment stands. -/
inductive EnvironmentState
  | created | provisioning | ready | inUse | tearingDown | destroyed
  deriving DecidableEq, Repr

def EnvironmentState.word : EnvironmentState → String
  | created => "created"
  | provisioning => "provisioning"
  | ready => "ready"
  | inUse => "in_use"
  | tearingDown => "tearing_down"
  | destroyed => "destroyed"

/-- Where a backend stands. -/
inductive BackendState
  | requested | starting | listening | stopped | removed
  deriving DecidableEq, Repr

def BackendState.word : BackendState → String
  | requested => "requested"
  | starting => "starting"
  | listening => "listening"
  | stopped => "stopped"
  | removed => "removed"

/-- How a backend fails to start. -/
inductive StartFailure
  | crashedBeforeReady | timedOut
  deriving DecidableEq, Repr

def StartFailure.word : StartFailure → String
  | crashedBeforeReady => "crashed_before_ready"
  | timedOut => "timed_out"

end ProxyTestbed
