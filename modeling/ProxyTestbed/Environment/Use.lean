import ProxyTestbed.Environment.SetUp
import ProxyTestbed.Probe.Http
import ProxyTestbed.Probe.WebSocket

/-!
# Using an environment

What a scenario does with an environment: it issues certificates, starts backends, probes the proxy, and
waits for it to notice something.
-/

namespace ProxyTestbed.Environment

variable {σ τ : Type} [Seconds τ] [Host σ τ]

/-! ## Certificates and backends -/

def tlsDirectory (e : Environment τ) : Path :=
  tlsIn (e.scratch.getD ⟨.here, []⟩)

/-- Issues a certificate that the proxy picks up; one for each host name. -/
def issueCertificate (hostname : String) (options : Certificate.Options) :
    On σ τ (Environment τ) Certificate := do
  use
  let e ← On.object
  if let some known := e.certificates.get? hostname then
    throw (.certificate (.conflict hostname known.certPath.toString))
  let certificate ← world (Certificate.issue e.tlsDirectory hostname options)
  On.change fun e => { e with certificates := e.certificates.put hostname certificate }
  return certificate

def site (e : Environment τ) : Backend.Site τ :=
  ⟨e.id, e.networkName, e.settings⟩

/-- What a scenario asks for when it starts a backend. -/
structure BackendOrder (τ : Type) [Seconds τ] where
  /-- The image, if it is not the usual one. -/
  image : Option String
  env : Variables
  port : String
  command : Datum
  timeout : Option τ
  policy : Option (RetryPolicy τ)

/-- Starts a backend, and answers its number. -/
def startBackend (order : BackendOrder τ) : On σ τ (Environment τ) Nat := do
  use
  let e ← On.object
  let backend ← world (Backend.launch e.site {
    image := givenOr order.image e.settings.backendImage
    env := order.env
    port := order.port
    command := order.command
    timeout := order.timeout
    policy := order.policy })
  On.change fun e => { e with backends := e.backends ++ [backend] }
  return e.backends.length

/-- Acts on the backend with a number. -/
def onBackend {α : Type} (n : Nat) (act : On σ τ (Backend τ) α) : On σ τ (Environment τ) (Option α) :=
  On.member (·.backends) (fun backends e => { e with backends }) n act

/-! ## Probes -/

/-- The port of the host for one of the protocols. -/
def portFor (e : Environment τ) (secure : Bool) : Option Int :=
  if secure then e.httpsPort else e.httpPort

/-- A virtual host of the proxy, and a path of it. -/
def target (e : Environment τ) (secure : Bool) (host path : String) : Target :=
  ⟨e.address, e.portFor secure, host, path⟩

/-- What a scenario asks for when it probes the proxy. -/
structure Probing (τ : Type) where
  secure : Bool
  host : String
  path : String
  auth : Option (String × String)
  /-- How long it waits, if it is not the usual time; that may be without an end. -/
  timeout : Option (Option τ)
  headers : Dictionary String

def usualPath : String := "/"

def probe (e : Environment τ) (p : Probing τ) : Act σ τ Response :=
  Http.get (e.target p.secure p.host p.path)
    ⟨p.secure, p.auth, p.timeout.getD (some e.settings.probeTimeout), p.headers⟩

def dial (e : Environment τ) (p : Probing τ) : Act σ τ (WebSocketProbe τ) :=
  WebSocketProbe.dial (e.target p.secure p.host p.path)
    ⟨p.secure, p.timeout.getD (some e.settings.probeTimeout), p.headers⟩

/-! ## Waits -/

/-- Gives the proxy time to notice what happened. -/
def awaitConvergence (e : Environment τ) (reason : String) : Act σ τ Unit :=
  Wait.forConvergence e.settings.convergenceDelay reason

/-- How the proxy is waited for to notice something, for a given time or the usual one. -/
def convergencePolicy (e : Environment τ) (timeout : Option τ) : Act σ τ (RetryPolicy τ) :=
  Wait.policyOr
    (RetryPolicy.fixed (timeout.getD e.settings.convergenceTimeout) e.settings.pollInterval)

/-- Repeats an action until its result is accepted, for a given time or the usual one. -/
def eventually {ω α : Type} (e : Environment τ) (action : On σ τ ω α) (accepts : α → On σ τ ω Bool)
    (observe : α → Observation) (condition : String) (timeout : Option τ) : On σ τ ω α := do
  let policy ← world (e.convergencePolicy timeout)
  Wait.eventually action accepts observe policy condition

def statusCondition (secure : Bool) (host path : String) (status : Int) : String :=
  s!"{Http.scheme secure}://{host}{path} answers {status}"

/-- Probes a host until it answers a status. -/
def awaitStatus (e : Environment τ) (secure : Bool) (host path : String) (status : Int)
    (timeout : Option τ) : Act σ τ Response := do
  let probeOnce : On σ τ Unit Response := world (e.probe ⟨secure, host, path, none, none, []⟩)
  let (outcome, _) ← On.start () (e.eventually probeOnce (fun r => pure (r.status == status)) .response
    (statusCondition secure host path status) timeout)
  conclude outcome

/-! ## Evidence -/

/-- The logs of the proxy, or why there are none. -/
def proxyLogs (e : Environment τ) (tail : LogTail) : Act σ τ String := do
  match e.proxy with
  | none => return ""
  | some proxy =>
    match ← attempt (docker (.logs proxy tail)) with
    | .ok content => return Text.ofBytes content
    | .error fault =>
      if fault.comesFrom Foreign.isApi then
        return s!"<proxy logs unavailable: {Fault.message fault}>"
      else throw fault

def fragmentEnding : String := ".conf"

def isFragment (name : String) : Bool :=
  fragmentEnding.toList.isSuffixOf name.toList

/-- The names in a directory that end as fragments do, in their order. If the system does not tell the names,
there are none. -/
def fragmentNames (directory : Path) : Act σ τ (List String) := do
  match ← attempt (Files.list directory) with
  | .ok names => return names.filter isFragment
  | .error fault => if fault.comesFrom Foreign.isSystem then return [] else throw fault

/-- Reads files of a directory, with line feeds at the ends of their lines. -/
def readAll (directory : Path) : List String → Act σ τ (Dictionary String)
  | [] => pure []
  | name :: rest => do
    let content ← Files.read (directory.child name)
    let text := String.ofList (Text.unifyNewlines (Text.ofBytes content).toList)
    return (name, text) :: (← readAll directory rest)

/-- The fragments of the configuration that the proxy wrote, by their names. -/
def generatedConfig (e : Environment τ) : Act σ τ (Dictionary String) := do
  match e.scratch with
  | none => return []
  | some scratch =>
    let directory := fragmentsIn (configIn scratch)
    if !(← Files.isDirectory directory) then return []
    readAll directory (← fragmentNames directory)

end ProxyTestbed.Environment
