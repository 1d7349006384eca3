import ProxyTestbed.Proofs.Backend.Look

/-!
# The course of a launch

A launch makes a container, starts it, and waits for it. Each part says which containers it leaves held, and
comes to a tidy end if and only if all its answers are fine. What keeps a container from being made or
started is reported; the removal of a container is asked for before a report.

* `after_remove`: a removal asks the daemon once, and fails with what the daemon fails with.
* `after_launch`: the end of a launch, given what its wait comes to.
-/

namespace ProxyTestbed.Backend

variable {σ τ : Type} [Seconds τ]

/-- The policy that an order is waited for with. -/
def Order.Takes (order : Order τ) (settings : Settings τ) (policy : RetryPolicy τ) : Prop :=
  match order.policy with
  | some given => given = policy
  | none =>
    RetryPolicy.fixed (order.timeout.getD settings.backendTimeout) settings.pollInterval = .ok policy

theorem Order.Takes.unique {order : Order τ} {settings : Settings τ} {policy policy' : RetryPolicy τ}
    (h : order.Takes settings policy) (h' : order.Takes settings policy') : policy' = policy := by
  unfold Order.Takes at h h'
  cases hgiven : order.policy with
  | some given =>
    simp only [hgiven] at h h'
    rw [← h, ← h']
  | none =>
    simp only [hgiven] at h h'
    rw [h] at h'
    cases h'
    rfl

theorem Order.policyAt_eq {order : Order τ} {settings : Settings τ} {policy : RetryPolicy τ}
    (h : order.Takes settings policy) : (order.policyAt settings : Act σ τ _) = pure policy := by
  unfold Order.Takes at h
  unfold Order.policyAt
  cases hgiven : order.policy with
  | some given =>
    simp only [hgiven] at h ⊢
    rw [h]
  | none =>
    simp only [hgiven] at h ⊢
    rw [h]
    rfl

section

variable [Host σ τ] (htypical : Host.Typical σ) {w : World σ τ} {network port : String}

include htypical

/-- The removal is asked for, whatever comes of it. -/
theorem after_remove (network port : String) {s : World σ τ × Backend τ} (hstate : s.2.state ≠ .removed)
    (hheld : Holds w [s.2.container] s.1) :
    After remove s fun r s' => Holds w [] s'.1 ∧
      Judged (Request.Fine network port) False s.1 r s'.1 ∧ (Tidy r → r = .ok ()) := by
  unfold remove
  refine after_object_bind (after_ite (fun h => absurd h hstate) fun _ => ?_)
  refine after_record_bind fun s₁ ⟨hlogs, hsame⟩ => ?_
  have hheld₁ : Holds w [s.2.container] s₁.1 := hheld.spares hlogs.asks
  have hasks₁ : Asks (Request.Fine network port) s.1 s₁.1 := hlogs.asks
  refine after_attempt_bind (after_docker (.remove s.2.container) s₁.1).world ?_
  rintro (e | _) s₂ ⟨⟨hanswer, _, _, hpast⟩, _⟩
  · have hheld₂ : Holds w [] s₂.1 := hheld₁.remove hpast
    refine after_ite (fun hfound => after_change ?_) fun hfound => after_throw ?_
    · exact ⟨hheld₂, .ok (hasks₁.ask hpast hfound), fun _ => rfl⟩
    · obtain ⟨f, rfl, _⟩ := Fault.exists_foreign (htypical.docker _ _ e hanswer.symm)
      have hjudged₁ : Judged (Request.Fine network port) False s.1 (.ok ()) s₁.1 := .ok hasks₁
      exact ⟨hheld₂, hjudged₁.trans (.bad hpast hfound id (by simp)), by simp [tidy_error, Fault.IsReport]⟩
  · exact after_change ⟨hheld₁.remove hpast, .ok (hasks₁.ask hpast trivial), fun _ => rfl⟩

omit [Seconds τ] in
theorem after_createContainer (network port : String) {w₀ : World σ τ} (hheld : Holds w [] w₀)
    (plan : ContainerPlan) :
    After (createContainer plan) w₀ fun r w₁ => Asks (Request.Fine network port) w₀ w₁ ∧
      (∀ c, r = .ok c → Holds w [c] w₁) ∧
      ∀ e, r = .error e → e.comesFrom Foreign.isApi = true ∧ Holds w [] w₁ := by
  have hcreate {w₁ : World σ τ} (hheld : Holds w [] w₁) (hasks : Asks (Request.Fine network port) w₀ w₁) :
      After (docker (.create plan)) w₁ fun r w₂ => Asks (Request.Fine network port) w₀ w₂ ∧
        (∀ c, r = .ok c → Holds w [c] w₂) ∧
        ∀ e, r = .error e → e.comesFrom Foreign.isApi = true ∧ Holds w [] w₂ := by
    refine (after_docker (.create plan) w₁).mono ?_
    intro r w₂ hpost
    obtain ⟨hr, _, _, hpast⟩ := hpost
    refine ⟨hasks.ask hpast trivial, ?_, ?_⟩
    · rintro c rfl
      exact hheld.create hpast
    · rintro e rfl
      exact ⟨htypical.docker _ _ e hr.symm, hheld.asked hpast⟩
  unfold createContainer
  refine after_attempt_bind (hcreate hheld (refl_of (Asks _) w₀)) ?_
  rintro (e | c) w₁ ⟨hasks, hok, herror⟩
  · obtain ⟨hapi, hheld₁⟩ := herror e rfl
    refine after_ite (fun _ => ?_) fun _ => after_throw ⟨hasks, by simp, herror⟩
    refine after_record_act_bind fun w₂ hlogs => ?_
    have hasks₂ : Asks (Request.Fine network port) w₀ w₂ := trans_of (Asks _) hasks hlogs.asks
    have hheld₂ : Holds w [] w₂ := hheld₁.spares hlogs.asks
    refine after_bind (after_docker (.pullImage plan.image) w₂) ?_ ?_
    · intro _ w₃ hpost
      obtain ⟨_, _, _, hpast⟩ := hpost
      exact hcreate (hheld₂.asked hpast) (hasks₂.ask hpast trivial)
    · intro e w₃ hpost
      obtain ⟨he, _, _, hpast⟩ := hpost
      refine ⟨hasks₂.ask hpast trivial, by simp, ?_⟩
      rintro _ ⟨⟩
      exact ⟨htypical.docker _ _ e he.symm, hheld₂.asked hpast⟩
  · exact after_pure ⟨hasks, hok, by simp⟩

omit [Seconds τ] in
/-- What keeps a container from being made is reported. -/
theorem after_createReporting (network port image name : String) {w₀ : World σ τ}
    (hheld : Holds w [] w₀) (plan : ContainerPlan) :
    After (reporting (notCreated image name) (createContainer plan)) w₀ fun r w₁ =>
      Judged (Request.Fine network port) False w₀ r w₁ ∧ (∀ c, r = .ok c → Holds w [c] w₁) ∧
        ∀ e, r = .error e → Holds w [] w₁ := by
  refine after_reporting (after_createContainer htypical network port hheld plan) ?_ ?_ ?_
  · intro c w₁ hpost
    obtain ⟨hasks, hok, _⟩ := hpost
    exact ⟨.ok hasks, hok, by simp⟩
  · intro f w₁ hpost
    obtain ⟨hasks, _, herror⟩ := hpost
    obtain ⟨hapi, hheld₁⟩ := herror _ rfl
    refine ⟨.report hasks ?_, by simp, fun _ _ => hheld₁⟩
    have hreport : f.isApi = true := hapi
    rw [notCreated, if_pos hreport]
    split
    · exact trivial
    · exact trivial
  · rintro e w₁ ⟨_, _, herror⟩ hforeign
    obtain ⟨f, rfl, _⟩ := Fault.exists_foreign (herror e rfl).1
    exact absurd rfl (hforeign f)

omit [Host σ τ] htypical in
theorem after_outcome {α : Type} {b : Backend τ} {act : On σ τ (Backend τ) α} {w₀ : World σ τ}
    {P : Except (Fault τ) α → World σ τ → Prop} (h : After act (w₀, b) fun r s => P r s.1) :
    After (b.outcome act) w₀ P :=
  after_start_end h

theorem after_startOrRemove (network port : String) {w₀ : World σ τ} {b : Backend τ}
    (hstate : b.state ≠ .removed) (hheld : Holds w [b.container] w₀) :
    After b.startOrRemove w₀ fun r w₁ => Judged (Request.Fine network port) False w₀ r w₁ ∧
      (∀ u, r = .ok u → Holds w [b.container] w₁) ∧ ∀ e, r = .error e → Holds w [] w₁ := by
  unfold startOrRemove
  refine after_attempt_bind (after_docker (.start b.container) w₀) ?_
  rintro (e | _) w₁ ⟨hanswer, _, _, hpast⟩
  · obtain ⟨f, rfl, hapi⟩ := Fault.exists_foreign (htypical.docker _ _ e hanswer.symm)
    have hasks₁ : Asks (Request.Fine network port) w₀ w₁ := (refl_of (Asks _) w₀).ask hpast trivial
    have hheld₁ : Holds w [b.container] w₁ := hheld.asked hpast
    refine after_ite (fun _ => ?_) fun h => absurd hapi h
    refine after_record_act_bind fun w₂ hlogs => ?_
    have hjudged₂ : Judged (Request.Fine network port) False w₀ (.ok ()) w₂ :=
      .ok (trans_of (Asks _) hasks₁ hlogs.asks)
    have hheld₂ : Holds w [b.container] w₂ := hheld₁.spares hlogs.asks
    have hremove : After (b.outcome remove) w₂ fun r w₃ => Holds w [] w₃ ∧
        Judged (Request.Fine network port) False w₂ r w₃ ∧ (Tidy r → r = .ok ()) :=
      after_outcome (after_remove htypical network port hstate hheld₂)
    refine after_bind hremove ?_ ?_
    · intro _ w₃ hpost
      obtain ⟨hheld₃, hjudged₃, _⟩ := hpost
      refine after_throw ⟨?_, by simp, fun _ _ => hheld₃⟩
      exact .report (hjudged₂.trans hjudged₃).asks trivial
    · intro e w₃ hpost
      obtain ⟨hheld₃, hjudged₃, _⟩ := hpost
      exact ⟨hjudged₂.trans hjudged₃, by simp, fun _ _ => hheld₃⟩
  · exact after_pure ⟨.ok ((refl_of (Asks _) w₀).ask hpast trivial), fun _ _ => hheld.asked hpast, by simp⟩

/-- A backend is removed before the fault that ends an act, unless its removal fails itself. -/
theorem after_remove_throw {N : Prop} {w₀ : World σ τ} {s : World σ τ × Backend τ} {e : Fault τ}
    (hjudged : Judged (Request.Fine network port) N w₀ (.error e : Except (Fault τ) Unit) s.1)
    (hstate : s.2.state ≠ .removed) (hheld : Holds w [s.2.container] s.1) :
    After (remove >>= fun _ => throw e) s fun r s' =>
      Judged (Request.Fine network port) N w₀ (r : Except (Fault τ) Unit) s'.1 ∧ r ≠ .ok () ∧
        Holds w [] s'.1 := by
  refine after_bind (after_remove htypical network port hstate hheld) ?_ ?_
  · intro _ s₁ hpost
    obtain ⟨hheld₁, hjudged₁, _⟩ := hpost
    exact after_throw ⟨hjudged.followed hjudged₁.asks, by simp, hheld₁⟩
  · intro e' s₁ hpost
    obtain ⟨hheld₁, hjudged₁, htidy⟩ := hpost
    refine ⟨.untidy hjudged.past hjudged₁ fun h => ?_, by simp, hheld₁⟩
    cases htidy h

theorem after_waitOrRemove {N : Prop} {s : World σ τ × Backend τ}
    (hwait : After waitUsual s (Waited N s)) (hheld : Holds w [s.2.container] s.1) :
    After waitOrRemove s fun r s' =>
      Judged (Request.Fine s.2.network s.2.exposedPort) N s.1 r s'.1 ∧
      (r = .ok () → s'.2.container = s.2.container ∧ s'.2.state = .listening ∧
        Holds w [s.2.container] s'.1) ∧
      ∀ e, r = .error e → e.IsReport → Holds w [] s'.1 := by
  unfold waitOrRemove
  refine after_attempt_bind hwait ?_
  rintro (e | _) s₁ ⟨hlooked, hlistening⟩
  · have hheld₁ : Holds w [s₁.2.container] s₁.1 := by
      rw [hlooked.container]
      exact hheld.spares hlooked.spares
    have hstate : s₁.2.state ≠ .removed := by
      rcases hlooked.state with h | h
      · rw [h]
        simp
      · rw [h]
        simp
    refine after_ite (fun _ => after_object_bind ?_) fun hstart => ?_
    · refine after_record_bind fun s₂ ⟨hlogs, hsame⟩ => ?_
      have hjudged₂ : Judged (Request.Fine s.2.network s.2.exposedPort) N s.1
          (.error e : Except (Fault τ) Unit) s₂.1 := hlooked.judged.followed hlogs.asks
      have hheld₂ : Holds w [s₂.2.container] s₂.1 := by
        rw [hsame]
        exact hheld₁.spares hlogs.asks
      rw [← hsame] at hstate
      refine (after_remove_throw htypical hjudged₂ hstate hheld₂).mono ?_
      intro r s₃ hpost
      obtain ⟨hjudged₃, hr, hheld₃⟩ := hpost
      exact ⟨hjudged₃, fun h => absurd h hr, fun _ _ _ => hheld₃⟩
    · -- a report of a wait is a problem of starting, which the backend is removed after
      refine after_throw ⟨hlooked.judged, by simp, ?_⟩
      rintro _ ⟨⟩ hreport
      cases e with
      | start p => exact absurd rfl hstart
      | provisioning p => exact absurd rfl (hlooked.notProvisioning p)
      | _ => exact absurd hreport id
  · exact after_pure ⟨hlooked.judged, fun _ => ⟨hlooked.container, hlistening rfl,
      hheld.spares hlooked.spares⟩, by simp⟩

/-- The end of a launch: what it ended in is judged by the answers, a backend listens and is held, and a
report leaves nothing held. -/
structure Launched (P : (r : Request τ) → Except (Fault τ) r.Answer → Prop) (N : Prop) (w : World σ τ)
    (r : Except (Fault τ) (Backend τ)) (w' : World σ τ) : Prop where
  judged : Judged P N w r w'
  ok : ∀ b, r = .ok b → b.state = .listening ∧ Holds w [b.container] w'
  report : ∀ e, r = .error e → e.IsReport → Holds w [] w'

theorem after_launch {N : Prop} {site : Site τ} {order : Order τ}
    (hvalid : ∃ policy, order.Takes site.settings policy)
    (hwait : ∀ s : World σ τ × Backend τ, order.Takes site.settings s.2.policy →
      After waitUsual s (Waited N s)) (w : World σ τ) :
    After (launch site order) w (Launched (Request.Fine site.network (withProtocol order.port)) N w) := by
  obtain ⟨policy, hpolicy⟩ := hvalid
  unfold launch
  rw [order.policyAt_eq hpolicy, pure_bind]
  have hname : After (freshName site.environmentId) w fun r w₁ =>
      (∃ name, r = .ok name) ∧ w₁.past = w.past := ⟨⟨_, rfl⟩, rfl⟩
  refine after_bind hname ?_ (by simp)
  intro name w₁ hpost
  obtain ⟨_, hpast₁⟩ := hpost
  refine after_record_act_bind fun w₂ hlogs => ?_
  have hjudged₂ : Judged (Request.Fine site.network (withProtocol order.port)) N w (.ok ()) w₂ :=
    .ok (trans_of (Asks _) ⟨[], hpast₁, by simp⟩ hlogs.asks)
  have hheld₁ : Holds w [] w₁ := ⟨[], hpast₁, rfl⟩
  have hheld₂ : Holds w [] w₂ := hheld₁.spares hlogs.asks
  refine after_bind (after_createReporting htypical site.network (withProtocol order.port) _ _ hheld₂ _) ?_ ?_
  · intro c w₃ hpost
    obtain ⟨hjudged₃, hheld₃, _⟩ := hpost
    refine after_bind (after_startOrRemove htypical site.network (withProtocol order.port)
      (by simp) (hheld₃ c rfl)) ?_ ?_
    · intro _ w₄ hpost
      obtain ⟨hjudged₄, hheld₄, _⟩ := hpost
      have hjudged₄ : Judged (Request.Fine site.network (withProtocol order.port)) N w (.ok ()) w₄ :=
        (hjudged₂.trans (hjudged₃.mono False.elim)).trans (hjudged₄.mono False.elim)
      refine after_start_conclude (after_waitOrRemove htypical (hwait (w₄, _) hpolicy) (hheld₄ () rfl)) ?_ ?_
      · intro _ s₅ hpost
        obtain ⟨hjudged₅, hok, _⟩ := hpost
        obtain ⟨hcontainer, hlistening, hheld₅⟩ := hok rfl
        refine after_pure ⟨.ok (hjudged₄.trans hjudged₅).asks, ?_, by simp⟩
        rintro _ ⟨⟩
        exact ⟨hlistening, by rw [hcontainer]; exact hheld₅⟩
      · intro e s₅ hpost
        obtain ⟨hjudged₅, _, herror⟩ := hpost
        exact ⟨hjudged₄.trans hjudged₅.fault, by simp, fun e' he' => herror e' (by cases he'; rfl)⟩
    · intro e w₄ hpost
      obtain ⟨hjudged₄, _, hheld₄⟩ := hpost
      have hjudged : Judged (Request.Fine site.network (withProtocol order.port)) N w
          (.error e : Except (Fault τ) (Backend τ)) w₄ :=
        (hjudged₂.trans (hjudged₃.mono False.elim)).trans (hjudged₄.fault.mono False.elim)
      exact ⟨hjudged, by simp, fun _ _ _ => hheld₄ e rfl⟩
  · intro e w₃ hpost
    obtain ⟨hjudged₃, _, hheld₃⟩ := hpost
    exact ⟨hjudged₂.trans (hjudged₃.fault.mono False.elim), by simp, fun _ _ _ => hheld₃ e rfl⟩

end

end ProxyTestbed.Backend
