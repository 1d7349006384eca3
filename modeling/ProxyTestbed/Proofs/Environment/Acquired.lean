import ProxyTestbed.Environment.SetUp
import ProxyTestbed.Proofs.Cleanup.Steps
import ProxyTestbed.Proofs.World.Requests

/-!
# What an environment acquires

An environment acquires its directory, then its network, then its proxy. `Acquired id root w steps w'` says
which of them it has at `w'`, beginning with none at `w`: a resource is acquired by the run that makes it, and
before, between and after these runs nothing is acquired and nothing is released.

* `Acquired.untouched`, `Acquired.idle`: what neither acquires nor releases anything.
-/

namespace ProxyTestbed

variable {σ τ : Type}

/-- A request of a release step. -/
def Request.isRelease : Request τ → Bool
  | .file .deleteTree _ => true
  | .docker (.stop _ _) | .docker (.remove _) => true
  | .docker (.inspectNetwork _) | .docker (.disconnect _ _) | .docker (.removeNetwork _) => true
  | _ => false

/-- A request that is answered with a new network or container. -/
def Request.acquires : (r : Request τ) → Except (Fault τ) r.Answer → Bool
  | .docker (.createNetwork _ _), .ok _ | .docker (.create _), .ok _ => true
  | _, _ => false

/-- A request that neither releases nor acquires anything. -/
def Request.Idle (r : Request τ) (a : Except (Fault τ) r.Answer) : Prop :=
  r.isRelease = false ∧ r.acquires a = false

/-- Nothing is acquired or released, and no file changes. -/
def Untouched (w w' : World σ τ) : Prop :=
  Asks Request.Idle w w' ∧ w'.files = w.files

instance : IsPreorder (World σ τ) Untouched where
  refl w := ⟨refl_of (Asks Request.Idle) w, rfl⟩
  trans _ _ _ h h' := ⟨trans_of (Asks Request.Idle) h.1 h'.1, h'.2.trans h.2⟩

theorem Logs.untouched {w w' : World σ τ} (h : Logs w w') : Untouched w w' := by
  refine ⟨h.asks, ?_⟩
  obtain ⟨es, rfl, _⟩ := h
  rfl

/-! ## Requests that are idle -/

theorem Request.idle_of_isMaking (r : Request τ) (h : r.isMaking = true) (a : Except (Fault τ) r.Answer) :
    r.Idle a := by
  unfold Request.isMaking at h
  split at h
  · exact ⟨rfl, rfl⟩
  · exact ⟨rfl, rfl⟩
  · cases h

theorem Request.idle_of_isSocket (r : Request τ) (h : r.isSocket = true) (a : Except (Fault τ) r.Answer) :
    r.Idle a := by
  unfold Request.isSocket at h
  split at h
  · exact ⟨rfl, rfl⟩
  · exact ⟨rfl, rfl⟩
  · exact ⟨rfl, rfl⟩
  · exact ⟨rfl, rfl⟩
  · cases h

section

variable [Host σ τ]

theorem keeps_docker_untouched {call : DockerCall} (h : ∀ a, (Request.docker call : Request τ).Idle a) :
    Keeps Untouched (docker call : Act σ τ call.Answer) := by
  intro w
  refine (after_docker call w).mono ?_
  intro a w' hpost
  obtain ⟨_, hfiles, _, hpast⟩ := hpost
  exact ⟨(refl_of (Asks Request.Idle) w).ask hpast (h a), hfiles⟩

theorem keeps_freshId_untouched : Keeps Untouched (freshId : Act σ τ String) :=
  fun w => ⟨keeps_freshId w, rfl⟩

end

/-! ## Resources -/

namespace Environment

/-- The steps that release what is there. -/
def resourcesOf (scratch : Option Path) (network : Option Network) (proxy : Option Container) :
    List CleanupStep :=
  (scratch.map .directory).toList ++ (network.map .network).toList ++
    (proxy.map (.container · CleanupStep.usualStopTimeout)).toList

/-- The steps that release what an environment has acquired. -/
def resources [Seconds τ] (e : Environment τ) : List CleanupStep :=
  resourcesOf e.scratch e.network e.proxy

variable [Host σ τ]

theorem keeps_makeScratch {P : (r : Request τ) → Except (Fault τ) r.Answer → Prop}
    (hP : ∀ r : Request τ, r.isMaking = true → ∀ a, P r a) (id : String) (root : Option String) :
    Keeps (Asks P) (makeScratch id root : Act σ τ Path) :=
  keeps_temporaryDirectory.bind fun _ => keeps_freshEnding.bind fun _ =>
    (Files.keeps_makeDirectoryCalled hP _ _).bind fun _ => .pure _

/-- From `w` to `w'` an environment acquires what the steps release, in their order, and nothing else. -/
inductive Acquired (id : String) (root : Option String) (w : World σ τ) :
    List CleanupStep → World σ τ → Prop
  | nothing {w' : World σ τ} (h : Untouched w w') : Acquired id root w [] w'
  | directory {w₁ w₂ w' : World σ τ} {path : Path} (h : Acquired id root w [] w₁)
      (hmade : makeScratch id root w₁ = .ok path w₂) (hidle : Asks Request.Idle w₂ w') :
      Acquired id root w [.directory path] w'
  | network {w₁ w₂ w' : World σ τ} {path : Path} {labels : Dictionary String} {n : Network}
      (h : Acquired id root w [.directory path] w₁)
      (hmade : docker (.createNetwork id labels) w₁ = .ok n w₂) (hidle : Asks Request.Idle w₂ w') :
      Acquired id root w [.directory path, .network n] w'
  | proxy {w₁ w₂ w' : World σ τ} {path : Path} {n : Network} {plan : ContainerPlan} {c : Container}
      (h : Acquired id root w [.directory path, .network n] w₁)
      (hmade : docker (.create plan) w₁ = .ok c w₂) (hidle : Asks Request.Idle w₂ w') :
      Acquired id root w
        [.directory path, .network n, .container c CleanupStep.usualStopTimeout] w'

namespace Acquired

variable {id : String} {root : Option String} {w w₁ w₂ : World σ τ} {steps : List CleanupStep}

theorem untouched (h : Acquired id root w steps w₁) (h' : Untouched w₁ w₂) :
    Acquired id root w steps w₂ := by
  cases h with
  | nothing h => exact .nothing (trans_of Untouched h h')
  | directory h hmade hidle => exact .directory h hmade (trans_of (Asks Request.Idle) hidle h'.1)
  | network h hmade hidle => exact .network h hmade (trans_of (Asks Request.Idle) hidle h'.1)
  | proxy h hmade hidle => exact .proxy h hmade (trans_of (Asks Request.Idle) hidle h'.1)

theorem of_untouched (h : Untouched w₁ w) (h' : Acquired id root w steps w₂) :
    Acquired id root w₁ steps w₂ := by
  induction h' with
  | nothing h' => exact .nothing (trans_of Untouched h h')
  | directory _ hmade hidle ih => exact .directory ih hmade hidle
  | network _ hmade hidle ih => exact .network ih hmade hidle
  | proxy _ hmade hidle ih => exact .proxy ih hmade hidle

theorem idle (h : Acquired id root w steps w₁) (hsteps : steps ≠ []) (h' : Asks Request.Idle w₁ w₂) :
    Acquired id root w steps w₂ := by
  cases h with
  | nothing => exact absurd rfl hsteps
  | directory h hmade hidle => exact .directory h hmade (trans_of (Asks Request.Idle) hidle h')
  | network h hmade hidle => exact .network h hmade (trans_of (Asks Request.Idle) hidle h')
  | proxy h hmade hidle => exact .proxy h hmade (trans_of (Asks Request.Idle) hidle h')

/-- Apart from the release steps of others, nothing is asked for that they ask for. -/
theorem asks {P : (r : Request τ) → Except (Fault τ) r.Answer → Prop}
    (hP : ∀ r : Request τ, r.isRelease = false → ∀ a, P r a) (h : Acquired id root w steps w₁) :
    Asks P w w₁ := by
  have hscratch (id : String) (root : Option String) :
      Keeps (Asks P) (makeScratch id root : Act σ τ Path) :=
    keeps_makeScratch (fun r hr a => hP r (r.idle_of_isMaking hr a).1 a) id root
  have hnetwork (name : String) (labels : Dictionary String) :
      Keeps (Asks P) (docker (.createNetwork name labels) : Act σ τ Network) :=
    keeps_docker (hP _ rfl)
  have hproxy (plan : ContainerPlan) : Keeps (Asks P) (docker (.create plan) : Act σ τ Container) :=
    keeps_docker (hP _ rfl)
  have hidle {w w' : World σ τ} (h : Asks Request.Idle w w') : Asks P w w' :=
    h.mono fun r a hr => hP r hr.1 a
  induction h with
  | nothing h => exact hidle h.1
  | directory _ hmade hrest ih =>
    exact trans_of _ (trans_of _ ih ((hscratch _ _).of_ok hmade)) (hidle hrest)
  | network _ hmade hrest ih =>
    exact trans_of _ (trans_of _ ih ((hnetwork _ _).of_ok hmade)) (hidle hrest)
  | proxy _ hmade hrest ih =>
    exact trans_of _ (trans_of _ ih ((hproxy _).of_ok hmade)) (hidle hrest)

end Acquired

end Environment

end ProxyTestbed
