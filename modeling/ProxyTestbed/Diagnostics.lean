import ProxyTestbed.Environment.Use

/-!
# Diagnostics

When a scenario fails, most of the evidence lies outside of it: in the logs of the proxy, in the
configuration that it wrote, and in its backends. A report puts all of this together.
-/

namespace ProxyTestbed.Diagnostics

variable {σ τ : Type} [Seconds τ] [Host σ τ]

/-- How many of the last lines of its log a report shows. -/
def logLines : Int := 60

/-- A text without the blanks at its end. -/
def withoutFinalBlanks (s : String) : String :=
  String.ofList (Text.trimEnd s.toList)

def backendLine (b : Backend τ) : Except DeclarationFault String :=
  b.hostnames.map fun names =>
    let shown := if names.isEmpty then "-" else ", ".intercalate names
    s!"  {b.name} [{b.state.word}] ip={b.ip.shown} hosts={shown}"

def backendLines (backends : List (Backend τ)) : Except DeclarationFault (List String) :=
  if backends.isEmpty then .ok []
  else (backends.mapM backendLine).map fun lines => "backends:" :: lines

def fragmentSection (name content : String) : String :=
  s!"--- conf.d/{name} ---\n{withoutFinalBlanks content}"

def fragmentSections (fragments : Dictionary String) : List String :=
  if fragments.isEmpty then ["--- conf.d is empty ---"]
  else fragments.map fun (name, content) => fragmentSection name content

def environmentLines (e : Environment τ) : List String :=
  [s!"environment {e.id} ({e.state.word})",
    s!"  proxy ip: {e.proxyIp.shown}  ports: {e.portsDatum.quoted}"]

/-- A report on an environment and on some backends, or on all of its own if none are given. -/
def collect (e : Environment τ) (backends : List (Backend τ)) : Act σ τ String := do
  let about := if backends.isEmpty then e.backends else backends
  let backendPart ← match backendLines about with
    | .ok lines => pure lines
    | .error problem => throw (.declaration problem)
  let fragments := fragmentSections (← e.generatedConfig)
  let logs := withoutFinalBlanks (← e.proxyLogs (.lines logLines))
  let logPart := s!"--- proxy log (last {logLines} lines) ---\n{logs}"
  return "\n".intercalate (environmentLines e ++ backendPart ++ fragments ++ [logPart])

end ProxyTestbed.Diagnostics
