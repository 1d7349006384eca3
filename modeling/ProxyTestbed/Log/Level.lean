/-!
# Levels and sources of log records

A level is a number; five numbers, and zero, have names. A source is the part of the testbed that
writes a record.
-/

namespace ProxyTestbed.Log

/-- How much a record matters. -/
structure Level where
  value : Int
  deriving DecidableEq, Repr

namespace Level

def debug : Level := ⟨10⟩
def info : Level := ⟨20⟩
def warning : Level := ⟨30⟩
def error : Level := ⟨40⟩
def critical : Level := ⟨50⟩

/-- The name of a level; a number without one is shown. -/
def name (level : Level) : String :=
  if level = debug then "DEBUG"
  else if level = info then "INFO"
  else if level = warning then "WARNING"
  else if level = error then "ERROR"
  else if level = critical then "CRITICAL"
  else if level.value = 0 then "NOTSET"
  else s!"Level {level.value}"

end Level

/-- The parts of the testbed that write records. -/
inductive Source
  | environment | backends | cleanup | sync | probes | certs
  deriving DecidableEq, Repr

/-- The name under which all records of the testbed are written. -/
def rootName : String := "proxy_e2e"

def Source.name : Source → String
  | environment => rootName ++ ".environment"
  | backends => rootName ++ ".backends"
  | cleanup => rootName ++ ".cleanup"
  | sync => rootName ++ ".sync"
  | probes => rootName ++ ".probes"
  | certs => rootName ++ ".certs"

end ProxyTestbed.Log
