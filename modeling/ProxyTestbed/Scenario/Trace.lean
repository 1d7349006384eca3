import ProxyTestbed.Certificate.Command
import ProxyTestbed.Scripted.Stage

/-!
# Traces

A trace tells what happened in a step, in order: the requests to the outside world, with what they ask
for, the log records, and the sleeps. Looks at containers and networks are left out, as are operations on
files and everything about a container that is not among those of the daemon.
-/

namespace ProxyTestbed.Trace

open ProxyTestbed.Scripted (Stage)

/-- A mapping with texts as keys. -/
def mapping (fields : List (String × Datum)) : Datum :=
  .map (fields.map fun (key, value) => (.text key, value))

def payload : Body → Datum
  | .text s => .text s
  | .bytes b => .bytes b

/-- A text that may be missing. -/
def optionalText : Option String → Datum
  | none => .null
  | some s => .text s

/-- A number of seconds that may be missing. -/
def limit : Option Float → Datum
  | none => .null
  | some seconds => .real seconds

def http (r : HttpRequest Float) : List Datum :=
  [.text "http",
    mapping [("verify", .bool r.verify), ("follow_redirects", .bool r.followRedirects),
      ("timeout", limit r.timeout), ("trust_env", .bool r.trustVariables)],
    .text r.url,
    Datum.ofTexts r.headers,
    match r.auth with
    | none => .null
    | some (name, password) => .list [.text name, .text password],
    match r.serverName with
    | none => .map []
    | some name => mapping [("sni_hostname", .text name)]]

def dial (r : DialRequest Float) : List Datum :=
  let host := match r.host with
    | none => []
    | some host => [("host", Datum.text host)]
  let encryption := match r.serverName with
    | none => []
    | some name =>
      [("sslopt", mapping [("cert_reqs", .int 0), ("check_hostname", .bool false),
        ("server_hostname", .text name)])]
  [.text "ws.dial", .text r.url,
    mapping ([("timeout", limit r.timeout), ("header", .list (r.header.map .text))] ++ host ++
      encryption)]

def run (r : CertificateRun) : List Datum :=
  [.text "run", .list ((r.arguments.toOption.getD []).map .text),
    mapping [("capture_output", .bool true), ("check", .bool true), ("text", .bool true),
      ("timeout", .int CertificateRun.timeLimit)]]

def plan (p : ContainerPlan) : Datum :=
  let role := match p.role with
    | .proxy mounts =>
      [("volumes", mapping (mounts.map fun (path, place) =>
        (path, mapping [("bind", .text place), ("mode", .text "rw")])))]
    | .backend command => [("command", command)]
  mapping ([("name", Datum.text p.name), ("network", .text p.network),
    ("ports", mapping (p.ports.map fun port => (port, .null))),
    ("environment", Datum.ofTexts p.environment), ("labels", Datum.ofTexts p.labels)] ++ role)

def logTail : LogTail → Datum
  | .all => .text "all"
  | .lines count => .int count

/-- A call of the daemon; nothing for a look. -/
def docker : DockerCall → Option (List Datum)
  | .connect => some [.text "from_env"]
  | .findImage image => some [.text "images.get", .text image]
  | .pullImage image => some [.text "images.pull", .text image]
  | .createNetwork name labels =>
    some [.text "networks.create", .text name, .text "bridge", Datum.ofTexts labels]
  | .inspectNetwork _ => none
  | .disconnect n c => some [.text "network.disconnect", .text n.name, .text c.name, .bool true]
  | .removeNetwork n => some [.text "network.remove", .text n.name]
  | .create p => some [.text "containers.create", .text p.image, plan p]
  | .start c => some [.text "container.start", .text c.name]
  | .stop c timeout => some [.text "container.stop", .text c.name, .int timeout]
  | .restart c timeout => some [.text "container.restart", .text c.name, .int timeout]
  | .remove c => some [.text "container.remove", .text c.name, .bool true, .bool true]
  | .inspect _ => none
  | .logs c tail => some [.text "container.logs", .text c.name, logTail tail]

/-- The container that a call is about. -/
def containerOf? : DockerCall → Option Container
  | .disconnect _ c | .start c | .stop c _ | .restart c _ | .remove c | .inspect c | .logs c _ => some c
  | _ => none

/-- The call is about a container that is not among those of the daemon. -/
def isUnlisted (stage : Stage) (call : DockerCall) : Bool :=
  ((containerOf? call).bind fun c => stage.containers[c.key]?).any fun c => !c.isListed

/-- A request; nothing for one that is left out. -/
def request (stage : Stage) : Request Float → Option (List Datum)
  | .file _ _ => none
  | .connect host port timeout => some [.text "connect", .text host, .int port, .real timeout]
  | .setTimeout _ timeout => some [.text "socket.settimeout", .real timeout]
  | .receiveByte _ => none
  | .closeSocket _ => some [.text "socket.close"]
  | .get r => some (http r)
  | .dial r => some (dial r)
  | .sendFrame _ frame => some [.text "ws.send", .int frame.opcode, payload frame.payload]
  | .receiveFrame _ => none
  | .closeConnection _ status reason timeout =>
    some [.text "ws.close", .int status, .bytes reason, .int timeout]
  | .run r => some (run r)
  | .docker call =>
    if isUnlisted stage call then none else (docker call).map fun entry => .text "docker" :: entry
  | .sleep seconds => some [.text "sleep", .real seconds]

/-- What happened; nothing for what is left out. -/
def event (stage : Stage) : Event Float → Option Datum
  | .record level source message =>
    some (.list [.text "log", .text level.name, .text source.name, .text message])
  | .mark label detail => some (.list [.text label, detail])
  | .slept seconds => some (.list [.text "sleep", .real seconds])
  | .asked r _ => (request stage r).map .list

/-- What happened between two states of a world. -/
def between (before after : World Stage Float) : List Datum :=
  ((after.past.take (after.past.length - before.past.length)).reverse).filterMap (event after.host)

end ProxyTestbed.Trace
