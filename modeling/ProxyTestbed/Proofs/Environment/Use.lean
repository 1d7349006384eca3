import ProxyTestbed.Environment.Use
import ProxyTestbed.Proofs.Backend.Requests
import ProxyTestbed.Proofs.Certificate.Issue
import ProxyTestbed.Proofs.Environment.Acquired

/-!
# Using an environment leaves its release alone

Certificates and backends are made without any request of a release step, but that a backend that does not
start is removed. What an environment holds for its release stays as it is.

* `keeps_issueCertificate`, `keeps_startBackend`: a use of an environment is quiet, and leaves an environment
  that is as good as before for its release.
-/

namespace ProxyTestbed

variable {σ τ : Type}

/-- A request that no release step makes, or the removal of a container. -/
def Request.Quiet (r : Request τ) (_ : Except (Fault τ) r.Answer) : Prop :=
  r.isRelease = true → ∃ c, r = .docker (.remove c)

theorem Request.quiet_of_not_isRelease {r : Request τ} (h : r.isRelease = false)
    (a : Except (Fault τ) r.Answer) : r.Quiet a := by
  intro h'
  rw [h] at h'
  cases h'

theorem Request.quiet_of_isMaking (r : Request τ) (h : r.isMaking = true)
    (a : Except (Fault τ) r.Answer) : r.Quiet a :=
  quiet_of_not_isRelease (idle_of_isMaking r h a).1 a

theorem Request.quiet_of_isSocket (r : Request τ) (h : r.isSocket = true)
    (a : Except (Fault τ) r.Answer) : r.Quiet a :=
  quiet_of_not_isRelease (idle_of_isSocket r h a).1 a

/-- No step of a release runs. -/
abbrev Still : World σ τ → World σ τ → Prop :=
  Asks Request.Quiet

section

variable [Host σ τ]

theorem keeps_ask_still {r : Request τ} (h : r.isRelease = false) :
    Keeps Still (ask r : Act σ τ r.Answer) :=
  keeps_ask (Request.quiet_of_not_isRelease h)

end

/-! ## Certificates -/

namespace Certificate

variable [Host σ τ]

theorem keeps_issue (directory : Path) (hostname : String) (options : Options) :
    Keeps Still (issue directory hostname options : Act σ τ Certificate) := by
  have hkeep : OperationsKeep (Still : World σ τ → World σ τ → Prop) directory hostname := {
    logs := fun _ _ => Logs.asks
    run := fun _ => keeps_ask_still rfl
    directories := fun path => Files.keeps_makeDirectories Request.quiet_of_isMaking true path
    write := fun path _ content => Files.keeps_write Request.quiet_of_isMaking path content
    setMode := fun path _ _ => (keeps_ask_still rfl).bind fun _ => keeps_change_files _ _
    discard := fun _ _ => Files.keeps_discard (keeps_ask_still rfl) (keeps_change_files _ _) }
  exact keeps_issue_of hkeep options

end Certificate

/-! ## Environments -/

namespace Environment

variable [Seconds τ]

/-- Ready, or in use. -/
def isLive (e : Environment τ) : Bool :=
  e.state = .ready || e.state = .inUse

/-- The environments are the same for their release, and both or none of them are alive. -/
structure Alike (e e' : Environment τ) : Prop where
  id : e'.id = e.id
  settings : e'.settings = e.settings
  registry : e'.registry = e.registry
  resources : e'.resources = e.resources
  cleanup : e'.cleanup = e.cleanup
  isLive : e'.isLive = e.isLive
  state : e.isLive = false → e'.state = e.state

/-- An environment was used, and is alike to the one before; no step of a release ran. -/
def Used (s s' : World σ τ × Environment τ) : Prop :=
  Still s.1 s'.1 ∧ Alike s.2 s'.2

instance : IsPreorder (World σ τ × Environment τ) Used where
  refl s := ⟨refl_of Still s.1, rfl, rfl, rfl, rfl, rfl, rfl, fun _ => rfl⟩
  trans := by
    rintro s₁ s₂ s₃ ⟨h, h₁⟩ ⟨h', h₂⟩
    refine ⟨trans_of Still h h', h₂.id.trans h₁.id, h₂.settings.trans h₁.settings,
      h₂.registry.trans h₁.registry, h₂.resources.trans h₁.resources, h₂.cleanup.trans h₁.cleanup,
      h₂.isLive.trans h₁.isLive, fun hs => ?_⟩
    rw [h₂.state (h₁.isLive.trans hs), h₁.state hs]

theorem keeps_world_used {α : Type} {act : Act σ τ α} (h : Keeps Still act) :
    Keeps Used (world act : On σ τ (Environment τ) α) :=
  h.world.mono fun s s' ⟨hstill, he⟩ => ⟨hstill, by rw [he]; exact (refl_of Used s).2⟩

theorem keeps_use : Keeps Used (use : On σ τ (Environment τ) Unit) := by
  rintro ⟨w, e⟩
  unfold use
  refine after_object_bind ?_
  split
  · rename_i hstate
    have hlive : e.isLive = true := by simp_all [isLive]
    exact ⟨refl_of Still w, rfl, rfl, rfl, rfl, rfl, by rw [hlive]; rfl, by simp [hlive]⟩
  · exact after_pure (refl_of Used _)
  · exact after_throw (refl_of Used _)

variable [Host σ τ]

theorem keeps_issueCertificate (hostname : String) (options : Certificate.Options) :
    Keeps Used (issueCertificate hostname options : On σ τ (Environment τ) Certificate) := by
  have hadd (certificate : Certificate) : Keeps Used (On.change fun e =>
      { e with certificates := e.certificates.put hostname certificate } :
      On σ τ (Environment τ) Unit) :=
    fun s => ⟨refl_of Still s.1, rfl, rfl, rfl, rfl, rfl, rfl, fun _ => rfl⟩
  refine keeps_use.bind fun _ => Keeps.bind (fun s => refl_of Used s) fun e => ?_
  have hissue : Keeps Used (world (Certificate.issue e.tlsDirectory hostname options) :
      On σ τ (Environment τ) Certificate) :=
    keeps_world_used (Certificate.keeps_issue _ _ _)
  cases e.certificates.get? hostname with
  | some known => exact .throw_bind _ _
  | none => exact hissue.bind fun certificate => (hadd certificate).bind fun _ => .pure _

theorem keeps_startBackend (order : BackendOrder τ) :
    Keeps Used (startBackend order : On σ τ (Environment τ) Nat) := by
  have hquiet (r : Request τ) (h : r.isLaunch = true) (a : Except (Fault τ) r.Answer) : r.Quiet a := by
    unfold Request.isLaunch at h
    split at h
    case h_6 c => exact fun _ => ⟨c, rfl⟩
    case h_7 => exact Request.quiet_of_isSocket _ h a
    all_goals exact Request.quiet_of_not_isRelease rfl a
  have hlaunch (site : Backend.Site τ) (order : Backend.Order τ) :
      Keeps Used (world (Backend.launch site order) : On σ τ (Environment τ) (Backend τ)) :=
    keeps_world_used (Backend.keeps_launch (fun r h => keeps_ask (hquiet r h)) (fun _ _ => Logs.asks)
      (fun _ => keeps_sleep fun _ => Request.quiet_of_not_isRelease rfl _) keeps_freshId site order)
  refine keeps_use.bind fun _ => Keeps.bind (fun s => refl_of Used s) fun e => ?_
  refine (hlaunch _ _).bind fun backend => Keeps.bind (fun s => ?_) fun _ => .pure _
  exact ⟨refl_of Still s.1, rfl, rfl, rfl, rfl, rfl, rfl, fun _ => rfl⟩

end Environment

end ProxyTestbed
