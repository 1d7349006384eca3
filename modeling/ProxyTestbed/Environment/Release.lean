import ProxyTestbed.Environment.Basic

/-!
# Releasing an environment

The proxy is stopped and removed, then the network, then the directory. Backends stay as they are. An
environment that is being released, or was, is left alone.
-/

namespace ProxyTestbed.Environment

variable {σ τ : Type} [Seconds τ] [Host σ τ]

/-- There is nothing to release any more. -/
def isOver (e : Environment τ) : Bool :=
  e.state = .tearingDown || e.state = .destroyed

/-- Releases what an environment acquired. However that ends, the environment is destroyed. -/
def tearDown : On σ τ (Environment τ) Unit := do
  enter .tearingDown
  world (record .info .environment s!"{(← On.object).id}: releasing")
  always (do let _ ← onCleanup Cleanup.release) (enter .destroyed)

end ProxyTestbed.Environment
