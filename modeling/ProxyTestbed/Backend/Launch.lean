import ProxyTestbed.Backend.Basic
import ProxyTestbed.Settings.Basic

/-!
# Launching backends

A backend is made and started in two steps, so that one that was made and does not start can be removed.
It is handed over only when its port is open.
-/

namespace ProxyTestbed

/-! ## Labels -/

/-- The label that names the environment of a container or network. -/
def environmentLabel : String := "proxy-e2e.environment"

/-- The label that says what a container or network is for. -/
def roleLabel : String := "proxy-e2e.role"

/-- The labels of something that belongs to an environment. -/
def Settings.labelsFor {τ : Type} (s : Settings τ) (environment role : String) : Dictionary String :=
  ((Dictionary.ofPairs s.labels).put environmentLabel environment).put roleLabel role

namespace Backend

variable {σ τ : Type} [Seconds τ] [Host σ τ]

/-- Where backends are launched: an environment and its network. -/
structure Site (τ : Type) where
  environmentId : String
  network : String
  settings : Settings τ

structure Order (τ : Type) [Seconds τ] where
  image : String
  env : Variables
  /-- A port of the container, with its protocol or not. -/
  port : String
  /-- The command that the container runs instead of its own; nothing for its own. -/
  command : Datum
  /-- How long the port is waited for, if no policy is given. -/
  timeout : Option τ
  policy : Option (RetryPolicy τ)

/-- The port that is published, if nothing else is said. -/
def usualPort : String := "80/tcp"

/-- A port with its protocol. -/
def withProtocol (port : String) : String :=
  if port.toList.contains '/' then port else s!"{port}/tcp"

/-- The policy of an order. -/
def Order.policyAt (order : Order τ) (settings : Settings τ) : Act σ τ (RetryPolicy τ) :=
  match order.policy with
  | some policy => pure policy
  | none =>
    Wait.policyOr
      (RetryPolicy.fixed (order.timeout.getD settings.backendTimeout) settings.pollInterval)

/-- A name that no other backend has. -/
def freshName (environmentId : String) : Act σ τ String := do
  let id ← freshId
  let short := String.ofList (id.toList.take 8)
  return s!"{environmentId}-backend-{short}"

/-- Makes a container; an image that the daemon does not have is pulled first. -/
def createContainer (plan : ContainerPlan) : Act σ τ Container := do
  match ← attempt (docker (.create plan)) with
  | .ok container => return container
  | .error e =>
    if e.comesFrom Foreign.isImageNotFound then
      record .info .backends s!"Pulling {plan.image}"
      docker (.pullImage plan.image)
      docker (.create plan)
    else throw e

/-- The problem of a container that cannot be made. -/
def notCreated (image name : String) (e : Foreign) : Option (Fault τ) :=
  if e.isImageNotFound then some (.provisioning (.backendImage image e))
  else if e.isApi then some (.provisioning (.backendNotCreated name e))
  else none

/-- What comes of an act on a backend. -/
def outcome {α : Type} (b : Backend τ) (act : On σ τ (Backend τ) α) : Act σ τ α := do
  let (result, _) ← On.start b act
  conclude result

/-- Starts a container that was made, and removes it if it does not start. -/
def startOrRemove (b : Backend τ) : Act σ τ Unit := do
  match ← attempt (docker (.start b.container)) with
  | .ok () => return ()
  | .error (.foreign e) =>
    if e.isApi then
      record .error .backends s!"Backend {b.name} was created but did not start, removing it"
      b.outcome remove
      throw (.provisioning (.backendNotStarted b.name e))
    else throw (.foreign e)
  | .error e => throw e

/-- Waits for a backend that was started, and removes it if its port does not open. -/
def waitOrRemove : On σ τ (Backend τ) Unit := do
  match ← attempt waitUsual with
  | .ok () => return ()
  | .error e =>
    if e.isStart then
      world (record .error .backends s!"Backend {(← On.object).name} failed to start, removing it")
      remove
    throw e

/-- Launches a backend, and waits until its port is open. -/
def launch (site : Site τ) (order : Order τ) : Act σ τ (Backend τ) := do
  let port := withProtocol order.port
  let policy ← order.policyAt site.settings
  let name ← freshName site.environmentId
  let shown := (Datum.ofTexts order.env).quoted
  record .info .backends s!"Starting backend {name} from {order.image} with {shown}"
  let container ← reporting (notCreated order.image name) (createContainer {
    image := order.image
    name := name
    network := site.network
    ports := [port]
    environment := order.env
    labels := site.settings.labelsFor site.environmentId "backend"
    role := .backend order.command })
  let b : Backend τ := {
    container, name, policy
    environmentId := site.environmentId
    network := site.network
    image := order.image
    env := order.env
    exposedPort := port
    address := site.settings.host
    connectTimeout := site.settings.connectTimeout
    state := .requested
    ip := .null
    hostPort := none }
  startOrRemove b
  let (result, b) ← On.start b waitOrRemove
  conclude result
  return b

end Backend

end ProxyTestbed
