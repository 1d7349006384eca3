import ProxyTestbed.Datum
import ProxyTestbed.Fault.Foreign
import ProxyTestbed.Lifecycle
import ProxyTestbed.Yaml.Problem

/-!
# What goes wrong in the testbed

The problems of its parts: settings, policies of waits, certificates, probes, and setting up containers.
Each says what is wrong, has one text for it, and names the error of the outside world that it was
reported because of, if there is one.
-/

namespace ProxyTestbed

/-! ## Settings -/

/-- Why a value does not fit a setting. -/
inductive ValueProblem
  /-- A text, shown in quotes, that is no number. -/
  | notReal (shown : String)
  /-- A value of this kind is no number. -/
  | notNumber (kind : String)
  /-- A value of this kind is no mapping. -/
  | notMapping (kind : String)
  deriving DecidableEq, Repr

def ValueProblem.message : ValueProblem → String
  | notReal shown => s!"could not convert string to float: {shown}"
  | notNumber kind => s!"float() argument must be a string or a real number, not '{kind}'"
  | notMapping kind => s!"expected a mapping, got {kind}"

/-- Why settings are refused. -/
inductive SettingsProblem
  | empty (name : String)
  | invalid (name : String) (raw : Datum) (why : ValueProblem)
  | unreadable (path : String) (cause : Foreign)
  | malformed (path : String) (part : Yaml.Part)
  | notMapping (path : String)
  | unknown (path : String) (names : List String)

/-- What stands for the report on a malformed document. -/
def yamlDetail : String := "<yaml detail>"

def SettingsProblem.message : SettingsProblem → String
  | empty name => s!"{name} cannot be empty"
  | invalid name raw why => s!"invalid value for {name}: {raw.quoted} ({why.message})"
  | unreadable path cause => s!"cannot read harness config {path}: {cause.message}"
  | malformed path _ => s!"invalid YAML in harness config {path}: {yamlDetail}"
  | notMapping path => s!"harness config {path} must be a mapping"
  | unknown path names => s!"unknown settings in {path}: " ++ ", ".intercalate names

/-- Why settings cannot be loaded. -/
inductive LoadProblem
  | refused (problem : SettingsProblem)
  /-- The path of the file is no path. -/
  | noPath (cause : Foreign)
  /-- The file is no text. -/
  | encoding (problem : Text.Utf8.Problem)
  /-- A scalar of the file is not of the kind that it is tagged as, or has no text. -/
  | scalar (problem : Yaml.ScalarProblem)
  /-- Unknown names of two kinds have no order. -/
  | unordered (left right : String)
  /-- The first unknown name is no text but of this kind. -/
  | notText (kind : String)
  /-- An integer beyond the largest real. -/
  | tooLarge

def LoadProblem.message : LoadProblem → String
  | refused problem => problem.message
  | noPath cause => cause.message
  | encoding problem => problem.message
  | scalar problem => problem.message
  | unordered left right => s!"'<' not supported between instances of '{left}' and '{right}'"
  | notText kind => s!"sequence item 0: expected str instance, {kind} found"
  | tooLarge => "int too large to convert to float"

/-! ## Policies -/

/-- Why numbers make no policy for a wait. -/
inductive PolicyProblem
  | negativeTimeout | noInterval | shrinking
  deriving DecidableEq, Repr

def PolicyProblem.message : PolicyProblem → String
  | negativeTimeout => "timeout must be >= 0"
  | noInterval => "interval must be > 0"
  | shrinking => "backoff must be >= 1.0"

/-! ## Certificates -/

/-- Why no certificate is issued. -/
inductive CertificateProblem
  | invalidHostname (hostname : String)
  | conflict (hostname path : String)
  | noProgram (program hostname : String) (cause : Foreign)
  | failed (hostname stderr : String) (cause : Foreign)
  | expired (hostname : String) (cause : Foreign)

def CertificateProblem.message : CertificateProblem → String
  | invalidHostname hostname => s!"invalid hostname for certificate: {Text.quoted hostname}"
  | conflict hostname path => s!"certificate for {hostname} already issued at {path}"
  | noProgram program hostname _ => s!"{program} not found, cannot generate certificate for {hostname}"
  | failed hostname stderr _ =>
    let said := String.ofList (Text.trim stderr.toList)
    s!"openssl failed for {hostname}: {said}"
  | expired hostname _ => s!"openssl timed out generating certificate for {hostname}"

def CertificateProblem.cause : CertificateProblem → Option Foreign
  | noProgram _ _ cause | failed _ _ cause | expired _ cause => some cause
  | _ => none

/-! ## Setting up -/

/-- Why an environment or a backend cannot be set up. -/
inductive ProvisioningProblem
  | imageMissing (image : String) (cause : Option Foreign)
  | noDaemon (cause : Foreign)
  | setUp (environment : String) (cause : Foreign)
  | noHttpPort (environment : String)
  | escapes (path : String)
  | exited (container line logs : String)
  | backendImage (image : String) (cause : Foreign)
  | backendNotCreated (backend : String) (cause : Foreign)
  | backendNotStarted (backend : String) (cause : Foreign)

/-- The line above the logs of a container in a report. -/
def logsHeading : String := "--- container logs ---"

def ProvisioningProblem.message : ProvisioningProblem → String
  | imageMissing image _ =>
    s!"proxy image {Text.quoted image} not found, build it first: docker build -t {image} ."
  | noDaemon cause => s!"cannot connect to the Docker daemon: {cause.message}"
  | setUp environment cause => s!"provisioning {environment} failed: {cause.message}"
  | noHttpPort environment => s!"{environment}: proxy has no published HTTP port"
  | escapes path => s!"extra file {Text.quoted path} escapes the config directory"
  | exited container line logs =>
    s!"{container} exited before logging {Text.quoted line}\n{logsHeading}\n{logs}"
  | backendImage image cause => s!"backend image {image} not available: {cause.message}"
  | backendNotCreated backend cause => s!"could not create backend {backend}: {cause.message}"
  | backendNotStarted backend cause => s!"could not start backend {backend}: {cause.message}"

def ProvisioningProblem.cause : ProvisioningProblem → Option Foreign
  | imageMissing _ cause => cause
  | noDaemon cause | setUp _ cause | backendImage _ cause | backendNotCreated _ cause
  | backendNotStarted _ cause => some cause
  | noHttpPort _ | escapes _ | exited _ _ _ => none

/-! ## Starting a backend -/

/-- A backend that does not open its port. -/
structure StartProblem where
  backend : String
  failure : StartFailure
  /-- The end of its logs. -/
  logs : String
  cause : Option Foreign

def StartProblem.message (p : StartProblem) : String :=
  let said := match p.failure with
    | .crashedBeforeReady => s!"backend {p.backend} exited before its port was reachable"
    | .timedOut => s!"backend {p.backend} did not open its port in time"
  if p.logs.isEmpty then said else s!"{said}\n{logsHeading}\n{p.logs}"

/-! ## Probes -/

/-- How a probe fails. -/
inductive ProbeFailure
  | connection | timeout | tls | handshake | protocol | closed
  /-- A kind that only a scenario reports. -/
  | other (word : String)
  deriving DecidableEq, Repr

def ProbeFailure.word : ProbeFailure → String
  | connection => "connection"
  | timeout => "timeout"
  | tls => "tls"
  | handshake => "handshake"
  | protocol => "protocol"
  | closed => "closed"
  | other word => word

def ProbeFailure.ofWord (word : String) : ProbeFailure :=
  ([connection, timeout, tls, handshake, protocol, closed].find? fun k => k.word == word).getD
    (.other word)

/-- A probe that did not get through, with the answer of the server if there was one. -/
structure ProbeProblem where
  failure : ProbeFailure
  /-- What is wrong, without the answer. -/
  text : String
  status : Option Int
  headers : Dictionary String
  body : Bytes
  cause : Option Foreign

namespace ProbeProblem

/-- A probe without an answer of the server. -/
def make (failure : ProbeFailure) (text : String) (cause : Option Foreign) : ProbeProblem :=
  ⟨failure, text, none, [], [], cause⟩

/-- How many bytes of a body a report shows. -/
def shownBytes : Nat := 200

def message (p : ProbeProblem) : String :=
  match p.status with
  | none => p.text
  | some status =>
    let body := if p.body.isEmpty then "" else s!", body {Text.quotedBytes (p.body.take shownBytes)}"
    s!"{p.text} (status {status}{body})"

def quoted (p : ProbeProblem) : String :=
  s!"ProbeError({Text.quoted p.text})"

end ProbeProblem

/-- What a wait saw last. -/
inductive Observation
  | nothing
  | datum (d : Datum)
  | response (r : Response)
  | problem (p : ProbeProblem)

def Observation.quoted : Observation → String
  | nothing => Datum.null.quoted
  | datum d => d.quoted
  | response r => r.quoted
  | problem p => p.quoted

end ProxyTestbed
