import ProxyTestbed.Outside.World

/-!
# Release steps

Whatever an owner acquires is registered with a step that releases it. A release runs all steps once, the
latest first, whether or not earlier ones fail, and keeps what failed. After that there is nothing more
to release, and nothing more can be registered.

* `release_released`: a second release does nothing.
* `push_released`: nothing is registered after a release.
-/

namespace ProxyTestbed

/-- The release steps of an owner. What a step does is data of type `α`. -/
structure Coordinator (α τ : Type) where
  owner : String
  /-- The steps that have not begun, each with its description, the earliest first. -/
  steps : List (String × α)
  released : Bool
  /-- The steps that failed, in the order in which they ran. -/
  failures : List (String × Fault τ)

namespace Coordinator

variable {σ τ α : Type}

def start (owner : String) : Coordinator α τ :=
  ⟨owner, [], false, []⟩

def push (description : String) (action : α) : On σ τ (Coordinator α τ) Unit := do
  let c ← On.object
  if c.released then throw (.released c.owner description)
  On.change fun c => { c with steps := c.steps ++ [(description, action)] }

variable [Seconds τ]

/-- Runs steps from first to last, and answers those that fail. -/
def runSteps (run : α → On σ τ (Coordinator α τ) Unit) :
    List (String × α) → On σ τ (Coordinator α τ) (List (String × Fault τ))
  | [] => pure []
  | (description, action) :: rest => do
    let owner := (← On.object).owner
    match ← attempt (run action) with
    | .ok () =>
      world (record .debug .cleanup s!"{owner}: {description}")
      runSteps run rest
    | .error e =>
      if !e.isException then throw e
      world (record .warning .cleanup s!"{owner}: cleanup step '{description}' failed: {e.message}")
      return (description, e) :: (← runSteps run rest)

/-- Releases everything, and answers the steps that failed. -/
def release (run : α → On σ τ (Coordinator α τ) Unit) :
    On σ τ (Coordinator α τ) (List (String × Fault τ)) := do
  let c ← On.object
  if c.released then return []
  On.change fun c => { c with released := true, steps := [] }
  let failures ← runSteps run c.steps.reverse
  On.change fun c => { c with failures := c.failures ++ failures }
  if failures.isEmpty then world (record .info .cleanup s!"{c.owner}: released")
  return failures

theorem release_released {run : α → On σ τ (Coordinator α τ) Unit} {w : World σ τ}
    {c : Coordinator α τ} (h : c.released = true) : release run (w, c) = .ok [] (w, c) := by
  simp [release, On.object, bind, EStateM.bind, pure, EStateM.pure, h]

omit [Seconds τ] in
theorem push_released {description : String} {action : α} {w : World σ τ} {c : Coordinator α τ}
    (h : c.released = true) :
    push description action (w, c) = .error (.released c.owner description) (w, c) := by
  simp only [push, On.object, bind, EStateM.bind, h, if_true]
  rfl

end Coordinator

end ProxyTestbed
