import ProxyTestbed.Environment.Basic

/-!
# Setting up an environment

An environment is set up in the order directory, network, proxy, and each is registered for its release as
soon as it is there. Then the proxy is waited for, first by its log and then by its port. If anything goes
wrong on the way, what was acquired so far is released.
-/

namespace ProxyTestbed

/-- The configuration of the proxy when nothing else is said. -/
def usualBaseConfig : String :=
  "events \x7b\n    worker_connections 1024;\n\x7d\n\nhttp \x7b\n    include /etc/nginx/conf.d/*.conf;\n\x7d\n"

/-- How the proxy of an environment is configured. -/
structure ProxyConfig where
  baseConfig : String
  environment : Variables
  /-- The line of its log that says that it is ready, if it is not the usual one. -/
  readyLog : Option String
  /-- Further files, by their paths in the directory of the configuration. -/
  extraFiles : Dictionary String
  /-- Its ports that are published. -/
  ports : List String

/-- The usual configuration of a proxy. -/
def ProxyConfig.usual : ProxyConfig :=
  ⟨usualBaseConfig, [], none, [], ["80/tcp", "443/tcp"]⟩

/-- A text that is given and not empty, or else another one. -/
def givenOr (given : Option String) (usual : String) : String :=
  match given with
  | none => usual
  | some s => if s.isEmpty then usual else s

namespace Environment

variable {σ τ : Type} [Seconds τ] [Host σ τ]

/-! ## The directory -/

/-- The text of a path in a directory, as it was written. -/
def pathText (directory name : String) : String :=
  match directory.toList.getLast? with
  | none | some '/' => directory ++ name
  | some _ => s!"{directory}/{name}"

/-- Makes a temporary directory for an environment, in a given one or in the usual one. -/
def makeScratch (id : String) (parent : Option String) : Act σ τ Path := do
  let usual ← temporaryDirectory
  let text := pathText (parent.getD usual.toString) s!"{id}-{← freshEnding}"
  Files.makeDirectoryCalled text (.ofString text)
  return .ofString text

/-- Writes further files into a directory, which none of them may leave. -/
def writeExtras (config : Path) : List (String × String) → Act σ τ Unit
  | [] => pure ()
  | (relative, content) :: rest => do
    let target ← Files.resolve (config.child relative)
    if !target.isBelow (← Files.resolve config) then throw (.provisioning (.escapes relative))
    Files.makeDirectories true target.parent
    Files.write target (Text.utf8 content)
    writeExtras config rest

/-- Makes the directories that are mounted into the proxy. -/
def makeTree (scratch : Path) : Act σ τ Unit := do
  Files.makeDirectories false ((tlsIn scratch).child Certificate.certDirectory)
  Files.makeDirectories false ((tlsIn scratch).child Certificate.keyDirectory)
  Files.makeDirectories false (fragmentsIn (configIn scratch))
  Files.makeDirectories false (challengeIn scratch)

def setUpScratch (config : ProxyConfig) : On σ τ (Environment τ) Unit := do
  let e ← On.object
  let scratch ← world (makeScratch e.id e.settings.scratchRoot)
  On.change fun e => { e with scratch := some scratch }
  onCleanup (Cleanup.push (.directory scratch))
  world (makeTree scratch)
  world (Files.write ((configIn scratch).child "nginx.conf") (Text.utf8 config.baseConfig))
  world (writeExtras (configIn scratch) config.extraFiles)
  world (record .debug .environment s!"{e.id}: scratch tree at {scratch}")

/-! ## The network -/

/-- Makes the network of an environment, under its id. -/
def setUpNetwork : On σ τ (Environment τ) Unit := do
  let e ← On.object
  let network ← world (docker (.createNetwork e.id (e.settings.labelsFor e.id "network")))
  On.change fun e => { e with network := some network }
  onCleanup (Cleanup.push (.network network))
  world (record .debug .environment s!"{e.id}: network created")

def networkName (e : Environment τ) : String :=
  (e.network.map (·.name)).getD e.id

/-! ## The proxy -/

/-- Where the proxy finds the certificates. -/
def tlsMount : String := "/etc/ssl/custom"

def configMount : String := "/etc/nginx"

def challengeMount : String := "/tmp/acme-challenges"

/-- Where the proxy finds the daemon. -/
def daemonMount : String := "/var/run/docker.sock"

/-- What the container of the proxy is made from. -/
def proxyPlan (e : Environment τ) (image : String) (config : ProxyConfig) (scratch : Path) :
    ContainerPlan where
  image := image
  name := s!"{e.id}-proxy"
  network := e.networkName
  ports := config.ports.eraseDups
  environment := Dictionary.putAll
    [("NGINX_CONF_DIR", configMount), ("CHALLENGE_DIR", challengeMount), ("SSL_DIR", tlsMount)]
    config.environment
  labels := e.settings.labelsFor e.id "proxy"
  role := .proxy (Dictionary.ofPairs [
    (e.settings.dockerSocket, daemonMount),
    ((tlsIn scratch).toString, tlsMount),
    ((configIn scratch).toString, configMount),
    ((challengeIn scratch).toString, challengeMount)])

def setUpProxy (image : String) (config : ProxyConfig) (scratch : Path) :
    On σ τ (Environment τ) Container := do
  let e ← On.object
  world (record .info .environment s!"{e.id}: starting proxy from {image}")
  let proxy ← world (docker (.create (e.proxyPlan image config scratch)))
  On.change fun e => { e with proxy := some proxy }
  onCleanup (Cleanup.push (.container proxy CleanupStep.usualStopTimeout))
  world (docker (.start proxy))
  return proxy

/-- Looks up the address of the proxy and its published ports, and answers the one for HTTP. -/
def setUpAddresses (proxy : Container) : On σ τ (Environment τ) Int := do
  let report ← world (docker (.inspect proxy))
  let settings ← Backend.inspected (Inspection.networkSettings report.attributes)
  let proxyIp ← Backend.inspected (Inspection.address settings (← On.object).networkName)
  On.change fun e => { e with proxyIp }
  let ports ← Backend.inspected (Inspection.publishedPorts settings)
  On.change fun e => { e with ports }
  let e ← On.object
  match e.httpPort with
  | some port => return port
  | none => throw (.provisioning (.noHttpPort e.id))

def startupPolicy (e : Environment τ) : Act σ τ (RetryPolicy τ) :=
  Wait.policyOr (RetryPolicy.fixed e.settings.startupTimeout e.settings.pollInterval)

/-! ## All of it -/

/-- Looks whether the daemon has the image of the proxy. -/
def checkImage (image : String) : Act σ τ Unit :=
  reporting
    (fun e => if e.isImageNotFound then some (.provisioning (.imageMissing image (some e))) else none)
    (docker (.findImage image))

/-- Sets an environment up, until its proxy accepts connections. -/
def setUp (image : String) (config : ProxyConfig) : On σ τ (Environment τ) Unit := do
  world (checkImage image)
  setUpScratch config
  setUpNetwork
  let e ← On.object
  let proxy ← setUpProxy image config (e.scratch.getD ⟨.here, []⟩)
  let readyLog := givenOr config.readyLog e.settings.readyLog
  world (do Wait.untilLogged proxy proxy.name readyLog (← e.startupPolicy))
  let port ← setUpAddresses proxy
  world do
    let policy ← e.startupPolicy
    Wait.untilReachable e.address port e.settings.startupTimeout (some policy)
      e.settings.settleInterval e.settings.connectTimeout

/-- What was acquired is released, since the environment cannot be set up. -/
def abort : On σ τ (Environment τ) Unit := do
  let failures ← onCleanup Cleanup.release
  enter .destroyed
  if !failures.isEmpty then
    world (record .warning .environment
      s!"{(← On.object).id}: {failures.length} cleanup step(s) failed after provisioning error")

/-- A fault of setting up, as it is reported: an error of the daemon or the system as a problem of
provisioning. -/
def setUpFault (id : String) (fault : Fault τ) : Fault τ :=
  match fault with
  | .foreign e =>
    if !e.isTestbed && (e.isDocker || e.isSystem) then .provisioning (.setUp id e) else fault
  | fault => fault

/-- Sets an environment up, or releases what it acquired. -/
def setUpOrAbort (image : String) (config : ProxyConfig) : On σ τ (Environment τ) Unit := do
  enter .provisioning
  let id := (← On.object).id
  world (record .info .environment s!"Provisioning {id}")
  match ← attempt (setUp image config) with
  | .ok () => enter .ready
  | .error fault =>
    abort
    throw (setUpFault id fault)

end Environment

end ProxyTestbed
