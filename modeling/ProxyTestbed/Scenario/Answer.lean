import ProxyTestbed.Check
import ProxyTestbed.Declaration.BasicAuth
import ProxyTestbed.Fleet
import ProxyTestbed.Log.Console

/-!
# Answers

What a step of a scenario answers is a tree of data, in which faults may stand: what a release or a wait
reports is a fault, but not the fault of the step. Everything that a scenario looks at has a view of this
form.
-/

namespace ProxyTestbed

/-- What a step answers. -/
inductive Answer
  | datum (d : Datum)
  | fault (f : Fault Float)
  | list (xs : List Answer)
  /-- Named answers; their order does not matter. -/
  | record (fields : List (String × Answer))

namespace Answer

def nothing : Answer := .datum .null

def text (s : String) : Answer := .datum (.text s)

def texts (xs : List String) : Answer := .datum (.list (xs.map .text))

def bool (b : Bool) : Answer := .datum (.bool b)

def int (i : Int) : Answer := .datum (.int i)

def seconds (x : Float) : Answer := .datum (.real x)

/-- Something that may be missing. -/
def optional {α : Type} (view : α → Answer) (a : Option α) : Answer :=
  match a with
  | none => nothing
  | some a => view a

/-- Texts by texts. -/
def dictionary (d : Dictionary String) : Answer :=
  .datum (Datum.ofTexts d)

/-! ## Views -/

def response (r : Response) : Answer :=
  .record [
    ("status", int r.status),
    ("headers", .datum (.list (r.headers.map fun (name, value) =>
      .list [.text (Text.lowered name), .text value]))),
    ("body", .datum (.bytes r.body)),
    ("url", text r.url),
    ("host", text r.host)]

def webSocket (p : WebSocketProbe Float) : Answer :=
  .record [
    ("url", text p.url),
    ("host", text p.host),
    ("status", int p.connection.status),
    ("headers", dictionary p.connection.headers),
    ("closed", bool p.closed)]

def policy (p : RetryPolicy Float) : Answer :=
  .record [
    ("timeout", seconds p.timeout),
    ("interval", seconds p.interval),
    ("backoff", seconds p.backoff),
    ("max_interval", optional seconds p.maxInterval)]

def certificate (c : Certificate) : List (String × Answer) :=
  [("hostname", text c.hostname),
    ("cert_path", text c.certPath.toString),
    ("key_path", text c.keyPath.toString),
    ("not_before", .datum (.moment c.notBefore)),
    ("not_after", .datum (.moment c.notAfter))]

def virtualHost (v : VirtualHost) : Answer :=
  .record [
    ("hostname", text v.hostname),
    ("scheme", text v.scheme.name),
    ("server_port", int v.serverPort),
    ("path", text v.path),
    ("external_path", text v.externalPath),
    ("container_port", optional int v.containerPort),
    ("container_scheme", text v.containerScheme),
    ("extras", texts v.extras),
    ("secure", bool v.scheme.secure)]

def redirect (r : Redirect) : Answer :=
  .record [("sources", texts r.sources), ("target", text r.target)]

def basicAuth (a : BasicAuth) : Answer :=
  .record [
    ("host", text a.host),
    ("path", optional text a.path),
    ("username", text a.username),
    ("password", text a.password)]

def check (c : Check) : Answer :=
  .record [("passed", bool c.passed), ("message", text c.message)]

def backend (b : Backend Float) : Answer :=
  .record [
    ("name", text b.name),
    ("repr", text b.quoted),
    ("state", text b.state.word),
    ("ip", .datum b.ip),
    ("host_port", optional int b.hostPort),
    ("image", text b.image),
    ("environment_id", text b.environmentId),
    ("network", text b.network),
    ("exposed_port", text b.exposedPort),
    ("address", text b.address),
    ("env_vars", dictionary b.env),
    ("policy", policy b.policy),
    ("connect_timeout", seconds b.connectTimeout)]

/-- The texts in the order of their code points. -/
def sorted (xs : List String) : List String :=
  xs.mergeSort fun a b => !decide (b < a)

def environment (e : Environment Float) : Answer :=
  let path (part : Path → Path) : Answer := optional (fun p => text (part p).toString) e.scratch
  .record [
    ("id", text e.id),
    ("repr", text e.quoted),
    ("state", text e.state.word),
    ("address", text e.address),
    ("ports", .datum e.portsDatum),
    ("http_port", optional int e.httpPort),
    ("https_port", optional int e.httpsPort),
    ("proxy_ip", .datum e.proxyIp),
    ("scratch_dir", path id),
    ("tls_dir", path Environment.tlsIn),
    ("config_dir", path Environment.configIn),
    ("challenge_dir", path Environment.challengeIn),
    ("certificates", texts (sorted (e.certificates.map (·.1)))),
    ("backends", texts (e.backends.map (·.name)))]

def failures (failed : List (String × Fault Float)) : Answer :=
  .list (failed.map fun (description, e) => .list [text description, .fault e])

def coordinator {α : Type} (c : Coordinator α Float) : Answer :=
  .record [
    ("owner", text c.owner),
    ("released", bool c.released),
    ("failures", failures c.failures),
    ("pending", texts (c.steps.map (·.1)))]

def setting : (kind : SettingKind) → kind.Value Float → Answer
  | .text, v => text v
  | .optionalText, v => optional text v
  | .seconds, v => seconds v
  | .truth, v => bool v
  | .labels, v => dictionary v

def changes (changes : List (Settings.Change Float)) : Answer :=
  .record (changes.map fun c => (c.field.name, setting c.field.kind c.value))

def settings (s : Settings Float) : Answer :=
  .record (Setting.all.map fun field => (field.name, setting field.kind (s.get field)))

def console (c : Log.Console) : Answer :=
  .record [
    ("level", int c.level.value),
    ("handlers", int (if c.handler.isSome then 1 else 0)),
    ("noisy", .list (Log.noisyNames.map fun _ => int c.noisyLevel.value)),
    ("streams", texts c.streams)]

/-! ## Faults -/

/-- A view of what a wait saw last. -/
def observation : Observation → Answer
  | .nothing => nothing
  | .datum d => .datum d
  | .response r => response r
  | .problem p => .fault (.probe p)

/-- What a fault tells besides its report, by name. -/
def details : Fault Float → List (String × Answer)
  | .provisioning (.imageMissing image _) => [("image", text image)]
  | .notReady target timeout _ => [("target", text target), ("timeout", seconds timeout)]
  | .notConverged condition timeout last =>
    [("target", text condition), ("timeout", seconds timeout), ("last_observation", observation last)]
  | .start p => [("name", text p.backend), ("cause", text p.failure.word), ("logs", text p.logs)]
  | .certificate (.conflict hostname path) => [("hostname", text hostname), ("path", text path)]
  | .probe p =>
    [("kind", text p.failure.word), ("status", optional int p.status),
      ("headers", dictionary p.headers), ("body", .datum (.bytes p.body))]
  | _ => []

/-- What a failed assertion tells besides its report, by name. -/
def assertionDetails (f : AssertionFailure) : List (String × Answer) :=
  [("expected", .datum f.expected), ("actual", .datum f.actual)]

end Answer

end ProxyTestbed
