import ProxyTestbed.Fleet
import ProxyTestbed.Proofs.Environment.SetUp

/-!
# Provisioning is all or nothing

An environment is handed out when it is ready, and then it is registered and holds all its release steps. Or
provisioning ends in a fault; then no environment is added and no registry changes, and whatever was acquired
on the way has been released, the latest first, each resource once.

* `provision_allOrNothing`: what comes of provisioning, whatever the outside world answers.
-/

namespace ProxyTestbed.Fleet

variable {σ τ : Type} [Seconds τ] [Host σ τ]

open Environment

omit [Seconds τ] in
theorem keeps_connect : Keeps Untouched (connect : Act σ τ Unit) :=
  (keeps_docker_untouched fun _ => ⟨rfl, rfl⟩).reporting

omit [Seconds τ] in
theorem keeps_freshEnvironmentId : Keeps Untouched (freshEnvironmentId : Act σ τ String) :=
  keeps_freshId_untouched.bind fun _ => .pure _

/-- What comes of setting up a new environment. Only a daemon that cannot be connected to is a fault here. -/
theorem after_prepare (r : Request τ) (w : World σ τ) :
    After (prepare r) w fun res w' => match res with
      | .ok (outcome, e) => e.settings = r.settings ∧ e.registry = some r.registry ∧
          match outcome with
          | .ok () => SetUp r.config w e w'
          | .error _ => GivenUp w e w'
      | .error _ => Untouched w w' := by
  have hrest {w₁ : World σ τ} (h₁ : Untouched w w₁) : After (do
      let id ← freshEnvironmentId
      On.start (create id r.settings (some r.registry))
        (setUpOrAbort (givenOr r.image r.settings.image) r.config)) w₁ fun res w' => match res with
      | .ok (outcome, e) => e.settings = r.settings ∧ e.registry = some r.registry ∧
          match outcome with
          | .ok () => SetUp r.config w e w'
          | .error _ => GivenUp w e w'
      | .error _ => Untouched w w' := by
    refine after_bind (keeps_freshEnvironmentId w₁) ?_ fun e w₂ h₂ => trans_of Untouched h₁ h₂
    intro id w₂ h₂
    have h₂ : Untouched w w₂ := trans_of Untouched h₁ h₂
    refine after_start ((after_setUpOrAbort _ _ id r.settings (some r.registry) w₂).mono ?_)
    intro outcome s' hpost
    obtain ⟨_, hsettings, hregistry, houtcome⟩ := hpost
    refine ⟨hsettings, hregistry, ?_⟩
    cases outcome with
    | ok _ => exact houtcome.of_untouched h₂
    | error e => exact houtcome.of_untouched h₂
  unfold prepare
  split
  · exact after_bind (keeps_connect w) (fun _ w₁ h₁ => hrest h₁) fun _ _ h => h
  · exact hrest (refl_of Untouched w)

omit [Host σ τ] in
theorem after_add (e : Environment τ) (s : World σ τ × Fleet τ) :
    After (add e) s fun r s' => r = .ok s.2.environments.length ∧
      s' = (s.1, { s.2 with environments := s.2.environments ++ [e] }) :=
  ⟨rfl, rfl⟩

/-- **Provisioning is all or nothing.** Either the environment that is handed out is ready: it is registered,
was seen to be ready, and holds the release steps of its directory, its network and its proxy, none of which
has run. Or provisioning ends in a fault and the registries are as before; then the release steps of the
resources that were acquired ran, the latest first, and each of them once, whichever of them failed. (Only
something that is no exception, such as an interruption of a step, keeps the steps after it from running.) -/
theorem provision_allOrNothing (r : Request τ) (w : World σ τ) (f : Fleet τ) :
    After (provision r) (w, f) fun res s' => match res with
      | .ok n => ∃ e : Environment τ, n = f.environments.length ∧
          s'.2 = ({ f with environments := f.environments ++ [e] }).register r.registry e.id
            (.environment n) ∧
          e.settings = r.settings ∧ e.registry = some r.registry ∧ SetUp r.config w e s'.1
      | .error _ => s'.2 = f ∧ ∃ id acquired w₁ runs,
          Acquired id r.settings.scratchRoot w acquired w₁ ∧ Released id acquired w₁ runs s'.1 := by
  unfold provision
  refine after_bind (after_prepare r w).world ?_ ?_
  · rintro ⟨outcome, e⟩ s₁ ⟨⟨hsettings, hregistry, houtcome⟩, hs₁⟩
    refine after_conclude_bind ?_ ?_
    · rintro _ rfl
      refine after_bind (after_add e s₁) ?_ (by simp)
      intro n s₂ hpost
      obtain ⟨hn, rfl⟩ := hpost
      cases hn
      refine after_change_bind (after_record_bind fun s' hlog => after_pure ?_)
      refine ⟨e, by rw [hs₁], ?_, hsettings, hregistry, houtcome.logs hlog.1⟩
      rw [hlog.2, hs₁]
    · rintro fault rfl
      obtain ⟨w₁, runs, hacquired, hrel⟩ := houtcome
      rw [hsettings] at hacquired
      exact ⟨hs₁, e.id, e.resources, w₁, runs, hacquired, hrel⟩
  · intro fault s₁ hpost
    obtain ⟨h₁, hs₁⟩ := hpost
    have htrail : Released "" [] s₁.1 [] s₁.1 := ⟨.nil (refl_of Logs _), List.prefix_rfl, fun _ => rfl⟩
    exact ⟨hs₁, "", [], s₁.1, [], .nothing h₁, htrail⟩

end ProxyTestbed.Fleet
