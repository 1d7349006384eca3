import ProxyTestbed.Dictionary
import ProxyTestbed.Seconds

/-!
# Settings

What every environment of a run has in common: images, addresses, deadlines and labels. Each setting has
a name, and a kind that says which values it takes.

* `get_set`: a setting has the value that was last given to it, and all others keep theirs.
-/

namespace ProxyTestbed

/-- The kinds of settings by the values that they take. -/
inductive SettingKind
  | text | optionalText | seconds | truth | labels
  deriving DecidableEq, Repr

/-- The values of a kind of settings. -/
abbrev SettingKind.Value (τ : Type) : SettingKind → Type
  | text => String
  | optionalText => Option String
  | seconds => τ
  | truth => Bool
  | labels => Dictionary String

/-- The settings. -/
inductive Setting
  | image | backendImage | wsBackendImage | host | dockerSocket | readyLog | startupTimeout
  | backendTimeout | convergenceDelay | convergenceTimeout | probeTimeout | pollInterval
  | settleInterval | connectTimeout | scratchRoot | verbose | labels
  deriving DecidableEq, Repr

namespace Setting

def all : List Setting :=
  [image, backendImage, wsBackendImage, host, dockerSocket, readyLog, startupTimeout, backendTimeout,
    convergenceDelay, convergenceTimeout, probeTimeout, pollInterval, settleInterval, connectTimeout,
    scratchRoot, verbose, labels]

def name : Setting → String
  | image => "image"
  | backendImage => "backend_image"
  | wsBackendImage => "ws_backend_image"
  | host => "host"
  | dockerSocket => "docker_socket"
  | readyLog => "ready_log"
  | startupTimeout => "startup_timeout"
  | backendTimeout => "backend_timeout"
  | convergenceDelay => "convergence_delay"
  | convergenceTimeout => "convergence_timeout"
  | probeTimeout => "probe_timeout"
  | pollInterval => "poll_interval"
  | settleInterval => "settle_interval"
  | connectTimeout => "connect_timeout"
  | scratchRoot => "scratch_root"
  | verbose => "verbose"
  | labels => "labels"

def ofName? (name : String) : Option Setting :=
  all.find? fun s => s.name == name

abbrev kind : Setting → SettingKind
  | image | backendImage | wsBackendImage | host | dockerSocket | readyLog => .text
  | startupTimeout | backendTimeout | convergenceDelay | convergenceTimeout | probeTimeout
  | pollInterval | settleInterval | connectTimeout => .seconds
  | scratchRoot => .optionalText
  | verbose => .truth
  | labels => .labels

end Setting

/-- A value for each setting. -/
structure Settings (τ : Type) where
  image : String
  backendImage : String
  wsBackendImage : String
  host : String
  dockerSocket : String
  readyLog : String
  startupTimeout : τ
  backendTimeout : τ
  convergenceDelay : τ
  convergenceTimeout : τ
  probeTimeout : τ
  pollInterval : τ
  settleInterval : τ
  connectTimeout : τ
  scratchRoot : Option String
  verbose : Bool
  labels : Dictionary String

namespace Settings

variable {τ : Type}

/-- The settings for a daemon on this machine. -/
def standard [Seconds τ] : Settings τ where
  image := "nginx-proxy-go:test"
  backendImage := "nginx:alpine"
  wsBackendImage := "jmalloc/echo-server"
  host := "localhost"
  dockerSocket := "/var/run/docker.sock"
  readyLog := "WebServer started successfully"
  startupTimeout := 60.0
  backendTimeout := 30.0
  convergenceDelay := 3.0
  convergenceTimeout := 15.0
  probeTimeout := 10.0
  pollInterval := 0.5
  settleInterval := 2.0
  connectTimeout := 1.0
  scratchRoot := none
  verbose := false
  labels := [("proxy-e2e", "true")]

def get (s : Settings τ) : (field : Setting) → field.kind.Value τ
  | .image => s.image
  | .backendImage => s.backendImage
  | .wsBackendImage => s.wsBackendImage
  | .host => s.host
  | .dockerSocket => s.dockerSocket
  | .readyLog => s.readyLog
  | .startupTimeout => s.startupTimeout
  | .backendTimeout => s.backendTimeout
  | .convergenceDelay => s.convergenceDelay
  | .convergenceTimeout => s.convergenceTimeout
  | .probeTimeout => s.probeTimeout
  | .pollInterval => s.pollInterval
  | .settleInterval => s.settleInterval
  | .connectTimeout => s.connectTimeout
  | .scratchRoot => s.scratchRoot
  | .verbose => s.verbose
  | .labels => s.labels

def set (s : Settings τ) : (field : Setting) → field.kind.Value τ → Settings τ
  | .image, v => { s with image := v }
  | .backendImage, v => { s with backendImage := v }
  | .wsBackendImage, v => { s with wsBackendImage := v }
  | .host, v => { s with host := v }
  | .dockerSocket, v => { s with dockerSocket := v }
  | .readyLog, v => { s with readyLog := v }
  | .startupTimeout, v => { s with startupTimeout := v }
  | .backendTimeout, v => { s with backendTimeout := v }
  | .convergenceDelay, v => { s with convergenceDelay := v }
  | .convergenceTimeout, v => { s with convergenceTimeout := v }
  | .probeTimeout, v => { s with probeTimeout := v }
  | .pollInterval, v => { s with pollInterval := v }
  | .settleInterval, v => { s with settleInterval := v }
  | .connectTimeout, v => { s with connectTimeout := v }
  | .scratchRoot, v => { s with scratchRoot := v }
  | .verbose, v => { s with verbose := v }
  | .labels, v => { s with labels := v }

/-- A value for one setting. -/
structure Change (τ : Type) where
  field : Setting
  value : field.kind.Value τ

/-- The settings after some changes, from first to last. -/
def apply (s : Settings τ) (changes : List (Change τ)) : Settings τ :=
  changes.foldl (fun s c => s.set c.field c.value) s

theorem get_set (s : Settings τ) (f : Setting) (v : f.kind.Value τ) (g : Setting) :
    (s.set f v).get g = if h : f = g then h ▸ v else s.get g := by
  cases f <;> cases g <;> simp [get, set]

end Settings

end ProxyTestbed
