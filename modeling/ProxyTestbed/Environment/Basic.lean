import ProxyTestbed.Backend.Launch
import ProxyTestbed.Certificate.Issue
import ProxyTestbed.Cleanup.Step
import ProxyTestbed.Probe.Target

/-!
# Environments

An environment is one proxy with a network of its own, and a directory that is mounted into the proxy.
It is registered while it is alive, and everything that it acquires is registered for its release.
-/

namespace ProxyTestbed

/-- The registries of a process. -/
inductive RegistryName
  /-- The one that a run of scenarios shares. -/
  | shared
  /-- The one that is released when the process ends. -/
  | processWide
  deriving DecidableEq, Repr

/-- A proxy with a network and a directory of its own. -/
structure Environment (τ : Type) [Seconds τ] where
  id : String
  settings : Settings τ
  /-- Where it is registered while it is alive. -/
  registry : Option RegistryName
  state : EnvironmentState
  cleanup : Cleanup τ
  network : Option Network
  proxy : Option Container
  /-- The address of the proxy in the network, as far as it is known. -/
  proxyIp : Datum
  /-- The ports of the host by the ports of the proxy that they lead to. -/
  ports : Dictionary Int
  /-- The directory that holds what is mounted into the proxy. -/
  scratch : Option Path
  /-- The certificates that were issued, by host name. -/
  certificates : Dictionary Certificate
  /-- The backends that were started, the earliest first. -/
  backends : List (Backend τ)

namespace Environment

variable {τ : Type} [Seconds τ]

/-- An environment that has acquired nothing. -/
def create (id : String) (settings : Settings τ) (registry : Option RegistryName) : Environment τ where
  id := id
  settings := settings
  registry := registry
  state := .created
  cleanup := Coordinator.start id
  network := none
  proxy := none
  proxyIp := .null
  ports := []
  scratch := none
  certificates := []
  backends := []

/-- The address of the host, where the ports of the proxy are. -/
def address (e : Environment τ) : String :=
  e.settings.host

def httpPort (e : Environment τ) : Option Int :=
  e.ports.get? "80/tcp"

def httpsPort (e : Environment τ) : Option Int :=
  e.ports.get? "443/tcp"

/-! ## The directory -/

/-- The directory of the certificates, in the one that holds what is mounted. -/
def tlsIn (scratch : Path) : Path :=
  scratch.child "ssl"

def configIn (scratch : Path) : Path :=
  scratch.child "nginx"

def challengeIn (scratch : Path) : Path :=
  scratch.child "acme"

/-- The directory of the fragments of the configuration that the proxy writes. -/
def fragmentsIn (config : Path) : Path :=
  config.child "conf.d"

/-! ## Texts -/

def quoted (e : Environment τ) : String :=
  let http := Target.numberText e.httpPort
  let https := Target.numberText e.httpsPort
  s!"Environment({Text.quoted e.id}, state={e.state.word}, http={http}, https={https})"

def portsDatum (e : Environment τ) : Datum :=
  .map (e.ports.map fun (port, hostPort) => (.text port, .int hostPort))

/-! ## States -/

def enter {σ : Type} (state : EnvironmentState) : On σ τ (Environment τ) Unit :=
  On.change fun e => { e with state }

/-- Begins to use an environment, which must be ready or in use. -/
def use {σ : Type} : On σ τ (Environment τ) Unit := do
  let e ← On.object
  match e.state with
  | .ready => enter .inUse
  | .inUse => return ()
  | state => throw (.unusable e.id state)

/-- Acts on the release steps. -/
def onCleanup {σ α : Type} (act : On σ τ (Cleanup τ) α) : On σ τ (Environment τ) α :=
  On.part (·.cleanup) (fun cleanup e => { e with cleanup }) act

end Environment

end ProxyTestbed
