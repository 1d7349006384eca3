import ProxyTestbed.Environment.Release
import ProxyTestbed.Environment.Use

/-!
# Environments and their registries

A fleet is all environments of a process, with the registries of those that are alive. What is left in a
registry in the end is released from there. A registry may also hold stand-ins, which only tell that they
are released.
-/

namespace ProxyTestbed

/-- What a registry holds. -/
inductive Tenant
  | environment (number : Nat)
  | standIn (number : Nat)
  deriving DecidableEq, Repr

/-- What is alive, by its id, in the order of registration. -/
abbrev Registry := Dictionary Tenant

/-- What stands in a registry for an environment. -/
structure StandIn (τ : Type) where
  id : String
  /-- Its release ends in this fault. -/
  fault : Option (Fault τ)
  /-- Its release takes it from the registry. -/
  unregisters : Bool

/-- The environments of a process. -/
structure Fleet (τ : Type) [Seconds τ] where
  environments : List (Environment τ)
  standIns : List (StandIn τ)
  shared : Registry
  processWide : Registry

namespace Fleet

variable {σ τ : Type} [Seconds τ]

def empty : Fleet τ := ⟨[], [], [], []⟩

/-! ## Registries -/

def registry (f : Fleet τ) : RegistryName → Registry
  | .shared => f.shared
  | .processWide => f.processWide

def changeRegistry (name : RegistryName) (change : Registry → Registry) (f : Fleet τ) : Fleet τ :=
  match name with
  | .shared => { f with shared := change f.shared }
  | .processWide => { f with processWide := change f.processWide }

def register (name : RegistryName) (id : String) (tenant : Tenant) (f : Fleet τ) : Fleet τ :=
  f.changeRegistry name fun r => r.put id tenant

def unregister (name : RegistryName) (id : String) (f : Fleet τ) : Fleet τ :=
  f.changeRegistry name fun r => r.erase id

/-- The ids of those alive. -/
def live (f : Fleet τ) (name : RegistryName) : List String :=
  (f.registry name).map (·.1)

/-! ## Environments -/

def onEnvironment {α : Type} (n : Nat) (act : On σ τ (Environment τ) α) :
    On σ τ (Fleet τ) (Option α) :=
  On.member (·.environments) (fun environments f => { f with environments }) n act

def add (e : Environment τ) : On σ τ (Fleet τ) Nat := do
  let n := (← On.object).environments.length
  On.change fun f => { f with environments := f.environments ++ [e] }
  return n

/-- What a scenario asks for when it provisions an environment. -/
structure Request (τ : Type) where
  /-- The image of the proxy, if it is not the usual one. -/
  image : Option String
  config : ProxyConfig
  settings : Settings τ
  /-- The daemon must be connected to first. -/
  connects : Bool
  registry : RegistryName

variable [Host σ τ]

/-- An id that no other environment has. -/
def freshEnvironmentId : Act σ τ String := do
  let id ← freshId
  return "proxy-e2e-" ++ String.ofList (id.toList.take 12)

/-- Connects to the daemon. -/
def connect : Act σ τ Unit :=
  reporting (fun e => if e.isDocker then some (.provisioning (.noDaemon e)) else none)
    (docker .connect)

/-- Sets a new environment up: what came of it, with the environment. -/
def prepare (r : Request τ) : Act σ τ (Except (Fault τ) Unit × Environment τ) := do
  if r.connects then connect
  let id ← freshEnvironmentId
  On.start (Environment.create id r.settings (some r.registry))
    (Environment.setUpOrAbort (givenOr r.image r.settings.image) r.config)

/-- Provisions an environment, and answers its number. It is registered when it is ready. -/
def provision (r : Request τ) : On σ τ (Fleet τ) Nat := do
  let (outcome, e) ← world (prepare r)
  conclude outcome
  let n ← add e
  On.change (register r.registry e.id (.environment n))
  let http := Target.numberText e.httpPort
  let https := Target.numberText e.httpsPort
  world (record .info .environment
    s!"{e.id} ready: http={e.address}:{http} https={e.address}:{https} proxy_ip={e.proxyIp.shown}")
  return n

/-! ## Release -/

/-- Takes an environment from its registry. -/
def forget (e : Environment τ) : On σ τ (Fleet τ) Unit :=
  match e.registry with
  | none => pure ()
  | some name => On.change (unregister name e.id)

/-- Releases the environment with a number, unless it is released. -/
def release (n : Nat) : On σ τ (Fleet τ) Unit := do
  match (← On.object).environments[n]? with
  | none => return ()
  | some e =>
    if e.isOver then return ()
    always (do let _ ← onEnvironment n Environment.tearDown) (forget e)

def releaseStandIn (n : Nat) : On σ τ (Fleet τ) Unit := do
  match (← On.object).standIns[n]? with
  | none => return ()
  | some s =>
    world (mark "released" (.text s.id))
    match s.fault with
    | some fault => throw fault
    | none => if s.unregisters then On.change (unregister .shared s.id)

def releaseTenant : Tenant → On σ τ (Fleet τ) Unit
  | .environment n => release n
  | .standIn n => releaseStandIn n

def releaseEach : List (String × Tenant) → On σ τ (Fleet τ) Unit
  | [] => pure ()
  | (id, tenant) :: rest => do
    world (record .warning .cleanup s!"Releasing leaked environment {id}")
    releaseTenant tenant
    releaseEach rest

/-- Releases all that are alive in a registry. -/
def releaseAll (name : RegistryName) : On σ τ (Fleet τ) Unit := do
  releaseEach ((← On.object).registry name)

/-- Uses the environment with a number, and releases it in the end. -/
def closing {α : Type} (n : Nat) (block : On σ τ (Fleet τ) α) : On σ τ (Fleet τ) α :=
  always block (release n)

end Fleet

end ProxyTestbed
