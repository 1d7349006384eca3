import ProxyTestbed.Outside.World
import ProxyTestbed.Probe.Target

/-!
# Probes over HTTP

One request, whose answer is reported as it is: redirects are not followed, nothing is tried again, and
certificates are not checked, since those of the testbed are signed by themselves.
-/

namespace ProxyTestbed.Http

variable {σ τ : Type} [Seconds τ] [Host σ τ]

/-- How long a probe waits for an answer, if nothing else is said. -/
def usualTimeout : τ := 10.0

structure Options (τ : Type) where
  /-- The connection is encrypted. -/
  secure : Bool
  /-- A name and a password. -/
  auth : Option (String × String)
  /-- How long an answer is waited for; nothing to wait without an end. -/
  timeout : Option τ
  headers : Dictionary String

def hostField : String := "Host"

def scheme (secure : Bool) : String :=
  if secure then "https" else "http"

/-- The request of a probe. A host is named in it, unless it is empty. -/
def request (target : Target) (options : Options τ) : HttpRequest τ where
  url := target.url (scheme options.secure)
  headers := if target.host.isEmpty then options.headers else options.headers.put hostField target.host
  auth := options.auth
  timeout := options.timeout
  verify := !options.secure
  followRedirects := false
  trustVariables := false
  serverName :=
    if options.secure && !target.host.isEmpty then some (Target.serverName target.host) else none

def described (url host : String) : String :=
  s!"GET {url} (Host: {host})"

/-- The problem of a probe whose request ends in an error. -/
def problemOf (url host : String) (timeout : Option τ) (e : Foreign) : Option ProbeProblem :=
  let probe := described url host
  if e.isHttpTimeout then
    some (.make .timeout s!"{probe} timed out after {Target.secondsText timeout}s" (some e))
  else if e.isHttpConnect then
    let failure := if Foreign.comesFromTls (some e) then .tls else .connection
    some (.make failure s!"{probe} failed to connect: {e.message}" (some e))
  else if e.isHttp then some (.make .protocol s!"{probe} failed: {e.message}" (some e))
  else none

def get (target : Target) (options : Options τ) : Act σ τ Response := do
  let request := request target options
  let answer ← reporting
    (fun e => (problemOf request.url target.host options.timeout e).map Fault.probe)
    (ask (.get request))
  record .debug .probes s!"GET {request.url} Host={target.host} -> {answer.status}"
  return ⟨answer.status, answer.headers, answer.body, request.url, target.host⟩

end ProxyTestbed.Http
