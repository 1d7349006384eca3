import ProxyTestbed.Cleanup.Coordinator
import ProxyTestbed.Outside.Files

/-!
# Releasing containers, networks and directories

What is gone already is released. A container that does not stop is removed by force; a network loses
the containers that are still attached to it, which keep running.
-/

namespace ProxyTestbed

/-- What is released. -/
inductive CleanupStep
  | container (container : Container) (stopTimeout : Int)
  | network (network : Network)
  | directory (path : Path)
  deriving DecidableEq, Repr

namespace CleanupStep

variable {σ τ : Type} [Seconds τ] [Host σ τ]

/-- How many seconds a container is given to stop, if nothing else is said. -/
def usualStopTimeout : Int := 5

def description : CleanupStep → String
  | container c _ => s!"remove container {c.name}"
  | network n => s!"remove network {n.name}"
  | directory path => s!"delete {path}"

/-- An act for which a thing that the daemon does not have is no fault. -/
def unlessMissing (act : Act σ τ Unit) : Act σ τ Unit := do
  match ← attempt act with
  | .ok () => return ()
  | .error e => if e.comesFrom Foreign.isNotFound then return () else throw e

def removeContainer (c : Container) : Act σ τ Unit :=
  unlessMissing (docker (.remove c))

/-- Stops a container and removes it; one that is missing is left. -/
def releaseContainer (owner : String) (c : Container) (timeout : Int) : Act σ τ Unit := do
  match ← attempt (docker (.stop c timeout)) with
  | .ok () => removeContainer c
  | .error e =>
    if e.comesFrom Foreign.isNotFound then return ()
    else if e.comesFrom Foreign.isApi then
      record .warning .cleanup
        s!"{owner}: stopping {c.name} failed: {Fault.message e}, forcing removal"
      removeContainer c
    else throw e

/-- Takes containers off a network. -/
def disconnectAll (owner : String) (n : Network) : List Container → Act σ τ Unit
  | [] => pure ()
  | c :: rest => do
    record .warning .cleanup s!"{owner}: {c.name} still attached to {n.name}, disconnecting"
    docker (.disconnect n c)
    disconnectAll owner n rest

/-- Takes all containers off a network and removes it. -/
def releaseNetwork (owner : String) (n : Network) : Act σ τ Unit :=
  unlessMissing do
    let attached ← docker (.inspectNetwork n)
    disconnectAll owner n attached
    docker (.removeNetwork n)

def releaseDirectory (path : Path) : Act σ τ Unit := do
  if ← Files.isThere path then Files.deleteTree path

/-- Releases something of an owner. -/
def run (owner : String) : CleanupStep → Act σ τ Unit
  | container c timeout => releaseContainer owner c timeout
  | network n => releaseNetwork owner n
  | directory path => releaseDirectory path

end CleanupStep

/-- The release steps of an environment. -/
abbrev Cleanup (τ : Type) := Coordinator CleanupStep τ

namespace Cleanup

variable {σ τ : Type} [Seconds τ] [Host σ τ]

/-- Registers what is to be released. -/
def push (step : CleanupStep) : On σ τ (Cleanup τ) Unit :=
  Coordinator.push step.description step

def release : On σ τ (Cleanup τ) (List (String × Fault τ)) :=
  Coordinator.release fun step => do
    world (step.run (← On.object).owner)

end Cleanup

end ProxyTestbed
