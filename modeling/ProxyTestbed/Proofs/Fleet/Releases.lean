import ProxyTestbed.Proofs.Fleet.Registry

/-!
# Releases in a fleet

A registry, the states of the environments and their release steps are kept in step with each other: an
environment is registered as long as it is live, and it is live until its steps have run. `Kept` says so of a
fleet and of the steps that have run since it was empty.

* `after_release_number`: what a release leaves behind, however it ends.
* `after_release`, `after_releaseEach`: a release keeps them in step, unless one of its steps is broken off.
-/

namespace ProxyTestbed

variable {σ τ : Type} [Seconds τ]

/-- The steps of an owner among those that ran, in their order. -/
def ownedBy (owner : String) (runs : List (StepRun (String × CleanupStep) τ)) : List CleanupStep :=
  (runs.filter (·.step.1 = owner)).map (·.step.2)

section

variable {owner : String} {runs runs' : List (StepRun (String × CleanupStep) τ)}

omit [Seconds τ] in
theorem ownedBy_append : ownedBy owner (runs ++ runs') = ownedBy owner runs ++ ownedBy owner runs' := by
  simp [ownedBy]

omit [Seconds τ] in
theorem ownedBy_of_all (h : ∀ x ∈ runs, x.step.1 = owner) : ownedBy owner runs = runs.map (·.step.2) := by
  rw [ownedBy, List.filter_eq_self.mpr (by simpa using h)]

omit [Seconds τ] in
theorem ownedBy_of_none (h : ∀ x ∈ runs, x.step.1 ≠ owner) : ownedBy owner runs = [] := by
  rw [ownedBy, List.filter_eq_nil_iff.mpr (by simpa using h), List.map_nil]

omit [Seconds τ] in
theorem Unbroken.append_iff : Unbroken (runs ++ runs') ↔ Unbroken runs ∧ Unbroken runs' := by
  simp only [Unbroken, List.mem_append, or_imp, forall_and]

end

variable [Host σ τ]

/-- From `w` to `w'` release steps ran, each for its owner, and apart from them no release was asked for. -/
abbrev Chronicle (w : World σ τ) (runs : List (StepRun (String × CleanupStep) τ)) (w' : World σ τ) : Prop :=
  Trail (fun step : String × CleanupStep => CleanupStep.run step.1 step.2) Still w runs w'

/-- The run of a step for its owner. -/
def StepRun.of (owner : String) (x : StepRun CleanupStep τ) : StepRun (String × CleanupStep) τ :=
  ⟨(owner, x.step), x.ending⟩

theorem Released.chronicle {owner : String} {steps : List CleanupStep} {w w' : World σ τ}
    {runs : List (StepRun CleanupStep τ)} (h : Released owner steps w runs w') :
    Chronicle w (runs.map (.of owner)) w' :=
  h.trail.map id (fun step => (owner, step)) (fun _ => True) (fun _ _ _ hlog => ⟨trivial, hlog.asks⟩)
    (fun _ _ _ _ _ hrun => ⟨trivial, hrun⟩) trivial

/-- The steps of an owner ran through, and unless one of them was broken off, `done` holds. -/
def Performed (owner : String) (steps : List CleanupStep) (runs : List (StepRun (String × CleanupStep) τ))
    (done : Prop) : Prop :=
  ∃ xs, runs = xs.map (.of owner) ∧ RanThrough steps xs ∧ (Unbroken xs → done)

section

variable {owner : String} {steps : List CleanupStep} {runs : List (StepRun (String × CleanupStep) τ)}
  {done done' : Prop}

omit [Seconds τ] [Host σ τ]

theorem Performed.mono (h : Performed owner steps runs done) (hdone : done → done') :
    Performed owner steps runs done' := by
  obtain ⟨xs, hruns, hthrough, hun⟩ := h
  exact ⟨xs, hruns, hthrough, fun h => hdone (hun h)⟩

theorem Performed.owner_eq (h : Performed owner steps runs done) : ∀ x ∈ runs, x.step.1 = owner := by
  obtain ⟨xs, rfl, _⟩ := h
  intro x hx
  obtain ⟨y, _, rfl⟩ := List.mem_map.mp hx
  rfl

theorem Performed.of_unbroken (h : Performed owner steps runs done) (hun : Unbroken runs) :
    done ∧ runs.map (·.step.2) = steps.reverse := by
  obtain ⟨xs, rfl, hthrough, hdone⟩ := h
  have hun : Unbroken xs := fun x hx => hun (.of owner x) (List.mem_map_of_mem hx)
  refine ⟨hdone hun, ?_⟩
  rw [List.map_map, ← hthrough.all hun]
  rfl

end

/-- A release, whatever is held. -/
theorem Cleanup.after_release_any (w : World σ τ) (c : Cleanup τ) :
    After release (w, c) fun r s' => ∃ runs, Chronicle w runs s'.1 ∧
      ∀ id steps, c = .holding id steps → Performed id steps runs (∃ failures, r = .ok failures) := by
  cases hc : c.released with
  | true =>
    have hrun : release (w, c) = .ok [] (w, c) := Coordinator.release_released hc
    rw [After, hrun]
    refine ⟨[], .nil (refl_of Still w), ?_⟩
    rintro id steps rfl
    cases hc
  | false =>
    refine (after_release_ended w c hc).mono ?_
    rintro r s' ⟨xs, ht, hend, -⟩
    obtain ⟨hthrough, hok⟩ := ranThrough_of_ended hend
    have hreleased : Released c.owner (c.steps.map (·.2)) w (xs.map plain) s'.1 :=
      ⟨ht, hthrough.inOrder, hthrough.all⟩
    refine ⟨_, hreleased.chronicle, ?_⟩
    rintro id steps rfl
    rw [holding_steps] at hthrough
    exact ⟨_, rfl, hthrough, hok⟩

namespace Environment

omit [Host σ τ] in
theorem isLive_of_isOver (e : Environment τ) (h : e.isOver = true) : e.isLive = false := by
  simp only [isOver, Bool.or_eq_true, decide_eq_true_eq] at h
  rcases h with h | h
  · simp [isLive, h]
  · simp [isLive, h]

/-- From `w` to `w'` the environment `e` was released, and is `e'` now. Unless one of its steps was broken
off, `done` holds. -/
structure TornDown (e : Environment τ) (w : World σ τ) (done : Prop)
    (runs : List (StepRun (String × CleanupStep) τ)) (e' : Environment τ) (w' : World σ τ) : Prop where
  id : e'.id = e.id
  registry : e'.registry = e.registry
  resources : e'.resources = e.resources
  state : e'.state = .destroyed
  chronicle : Chronicle w runs w'
  performed : e.cleanup = .holding e.id e.resources → Performed e.id e.resources runs done

theorem TornDown.mono {e e' : Environment τ} {w w' : World σ τ} {done done' : Prop}
    {runs : List (StepRun (String × CleanupStep) τ)} (h : TornDown e w done runs e' w')
    (hdone : done → done') : TornDown e w done' runs e' w' :=
  ⟨h.id, h.registry, h.resources, h.state, h.chronicle, fun hheld => (h.performed hheld).mono hdone⟩

theorem TornDown.isLive {e e' : Environment τ} {w w' : World σ τ} {done : Prop}
    {runs : List (StepRun (String × CleanupStep) τ)} (h : TornDown e w done runs e' w') :
    e'.isLive = false := by
  simp [Environment.isLive, h.state]

theorem after_tearDown (w : World σ τ) (e : Environment τ) :
    After tearDown (w, e) fun r s' => ∃ runs, TornDown e w (r = .ok ()) runs s'.2 s'.1 := by
  unfold tearDown
  refine after_change_bind (after_object_bind (after_record_bind fun s₁ hlog => ?_))
  refine after_always (P := fun r s₂ => ∃ runs cleanup, Chronicle w runs s₂.1 ∧
    s₂.2 = { e with state := .tearingDown, cleanup } ∧
    (e.cleanup = .holding e.id e.resources → Performed e.id e.resources runs (r = .ok ()))) ?_ ?_
  · have hrelease : After (onCleanup Cleanup.release) s₁ fun r s₂ => ∃ runs cleanup,
        Chronicle w runs s₂.1 ∧ s₂.2 = { e with state := .tearingDown, cleanup } ∧
        ∀ id steps, e.cleanup = .holding id steps →
          Performed id steps runs (∃ failures, r = .ok failures) := by
      refine after_part ((Cleanup.after_release_any s₁.1 s₁.2.cleanup).mono ?_)
      intro r s₂ hpost
      obtain ⟨runs, ht, hall⟩ := hpost
      rw [hlog.2] at hall
      exact ⟨runs, s₂.2, ht.after_gap hlog.1.asks, by rw [hlog.2], hall⟩
    refine after_bind hrelease ?_ ?_
    · intro failures s₂ hpost
      obtain ⟨runs, cleanup, ht, he, hall⟩ := hpost
      exact after_pure ⟨runs, cleanup, ht, he, fun hheld => (hall _ _ hheld).mono fun _ => rfl⟩
    · intro fault s₂ hpost
      obtain ⟨runs, cleanup, ht, he, hall⟩ := hpost
      exact ⟨runs, cleanup, ht, he, fun hheld => (hall _ _ hheld).mono (by simp)⟩
  · rintro r ⟨w₂, e₂⟩ ⟨runs, cleanup, ht, he, hall⟩
    subst he
    exact ⟨runs, rfl, rfl, rfl, rfl, ht, hall⟩

end Environment

/-- An environment has a directory, a network and a proxy to release. -/
def Environment.IsComplete (e : Environment τ) : Prop :=
  ∃ path network proxy, e.resources =
    [.directory path, .network network, .container proxy CleanupStep.usualStopTimeout]

namespace Fleet

/-- An environment is live and none of its steps has run, or it is destroyed and all of them have, each once
and the latest first. -/
def Standing (runs : List (StepRun (String × CleanupStep) τ)) (e : Environment τ) : Prop :=
  (e.isLive = true ∧ e.cleanup = .holding e.id e.resources ∧ ownedBy e.id runs = []) ∨
    (e.state = .destroyed ∧ ownedBy e.id runs = e.resources.reverse)

/-- The registry, the environments and the steps that ran are in step. Beside the environments of the fleet
there are those that were given up before they were ready. -/
structure Kept (name : RegistryName) (f : Fleet τ) (givenUp : List (Environment τ))
    (runs : List (StepRun (String × CleanupStep) τ)) : Prop where
  distinct : ((f.environments ++ givenUp).map (·.id)).Nodup
  registry : f.registry name = tenants 0 f.environments
  registered : ∀ e ∈ f.environments, e.registry = some name
  standing : ∀ e ∈ f.environments, Standing runs e
  complete : ∀ e ∈ f.environments, e.IsComplete
  abandoned : ∀ e ∈ givenUp, ownedBy e.id runs = e.resources.reverse
  owners : ∀ x ∈ runs, x.step.1 ∈ (f.environments ++ givenUp).map (·.id)

/-- What of this holds whether or not steps were broken off. -/
structure Listed (name : RegistryName) (f : Fleet τ) (givenUp : List (Environment τ))
    (runs : List (StepRun (String × CleanupStep) τ)) : Prop where
  distinct : ((f.environments ++ givenUp).map (·.id)).Nodup
  registry : f.registry name = tenants 0 f.environments
  registered : ∀ e ∈ f.environments, e.registry = some name
  complete : ∀ e ∈ f.environments, e.IsComplete
  owners : ∀ x ∈ runs, x.step.1 ∈ (f.environments ++ givenUp).map (·.id)

/-- No environment is live that was not. -/
def Fewer (f f' : Fleet τ) : Prop :=
  ∀ (n : Nat) (e' : Environment τ), f'.environments[n]? = some e' → e'.isLive = true →
    ∃ e, f.environments[n]? = some e ∧ e.isLive = true

instance : IsPreorder (Fleet τ) Fewer where
  refl _ _ e he hlive := ⟨e, he, hlive⟩
  trans f₁ f₂ f₃ h h' n e he hlive := by
    obtain ⟨e', he', hlive'⟩ := h' n e he hlive
    exact h n e' he' hlive'

section

variable {name : RegistryName} {f : Fleet τ} {givenUp : List (Environment τ)}
  {past runs : List (StepRun (String × CleanupStep) τ)} {n : Nat} {e e' : Environment τ}

omit [Host σ τ]

theorem Listed.ids_nodup (h : Listed name f givenUp past) : (f.environments.map (·.id)).Nodup := by
  have hids := h.distinct
  rw [List.map_append] at hids
  exact (List.nodup_append.mp hids).1

/-- An environment that is used stays listed. -/
theorem Listed.set_alike (h : Listed name f givenUp past) (hn : f.environments[n]? = some e)
    (halike : Environment.Alike e e') :
    Listed name { f with environments := f.environments.set n e' } givenUp past := by
  have hids := ids_set hn halike.id
  have hmem := List.mem_of_getElem? hn
  refine ⟨?_, ?_, fun x hx => ?_, fun x hx => ?_, ?_⟩
  · rw [List.map_append, hids, ← List.map_append]
    exact h.distinct
  · rw [tenants_set_alike hn halike.id halike.isLive, ← h.registry]
    cases name <;> rfl
  · rcases List.mem_or_eq_of_mem_set hx with hx | rfl
    · exact h.registered x hx
    · rw [halike.registry]
      exact h.registered e hmem
  · rcases List.mem_or_eq_of_mem_set hx with hx | rfl
    · exact h.complete x hx
    · rw [Environment.IsComplete, halike.resources]
      exact h.complete e hmem
  · rw [List.map_append, hids, ← List.map_append]
    exact h.owners

theorem environments_unregister (f : Fleet τ) (name : RegistryName) (id : String) :
    (f.unregister name id).environments = f.environments := by
  cases name <;> rfl

/-- An environment that is not live any more is taken from the registry. -/
theorem Listed.set_dead (h : Listed name f givenUp past) (hn : f.environments[n]? = some e)
    (hid : e'.id = e.id) (hregistry : e'.registry = e.registry) (hresources : e'.resources = e.resources)
    (hdead : e'.isLive = false) (howner : ∀ x ∈ runs, x.step.1 = e.id) :
    Listed name (({ f with environments := f.environments.set n e' }).unregister name e.id) givenUp
      (past ++ runs) := by
  have hids := ids_set hn hid
  have hmem := List.mem_of_getElem? hn
  constructor
  · rw [environments_unregister, List.map_append, hids, ← List.map_append]
    exact h.distinct
  · rw [environments_unregister, tenants_set_dead h.ids_nodup hn hdead, ← h.registry]
    cases name <;> rfl
  · intro x hx
    rw [environments_unregister] at hx
    rcases List.mem_or_eq_of_mem_set hx with hx | rfl
    · exact h.registered x hx
    · rw [hregistry]
      exact h.registered e hmem
  · intro x hx
    rw [environments_unregister] at hx
    rcases List.mem_or_eq_of_mem_set hx with hx | rfl
    · exact h.complete x hx
    · rw [Environment.IsComplete, hresources]
      exact h.complete e hmem
  · intro x hx
    rw [environments_unregister, List.map_append, hids, ← List.map_append]
    rcases List.mem_append.mp hx with hx | hx
    · exact h.owners x hx
    · rw [howner x hx]
      exact List.mem_map_of_mem (List.mem_append_left _ hmem)

theorem Kept.listed (h : Kept name f givenUp past) : Listed name f givenUp past :=
  ⟨h.distinct, h.registry, h.registered, h.complete, h.owners⟩

theorem Listed.kept (h : Listed name f givenUp past) (hstanding : ∀ e ∈ f.environments, Standing past e)
    (habandoned : ∀ e ∈ givenUp, ownedBy e.id past = e.resources.reverse) : Kept name f givenUp past :=
  ⟨h.distinct, h.registry, h.registered, hstanding, h.complete, habandoned, h.owners⟩

/-- An environment that is used stays in step. -/
theorem Kept.set_alike (h : Kept name f givenUp past) (hn : f.environments[n]? = some e)
    (halike : Environment.Alike e e') :
    Kept name { f with environments := f.environments.set n e' } givenUp past := by
  refine (h.listed.set_alike hn halike).kept (fun x hx => ?_) h.abandoned
  rcases List.mem_or_eq_of_mem_set hx with hx | rfl
  · exact h.standing x hx
  · rw [Standing, halike.id, halike.cleanup, halike.resources, halike.isLive]
    rcases h.standing e (List.mem_of_getElem? hn) with hlive | ⟨hdead, hruns⟩
    · exact .inl hlive
    · have hno : e.isLive = false := by simp [Environment.isLive, hdead]
      exact .inr ⟨(halike.state hno).trans hdead, hruns⟩

theorem Standing.append_of_ne (h : Standing past e) (hne : ∀ x ∈ runs, x.step.1 ≠ e.id) :
    Standing (past ++ runs) e := by
  rw [Standing, ownedBy_append, ownedBy_of_none hne, List.append_nil]
  exact h

/-- An environment of which all steps ran is taken from the registry. -/
theorem Kept.set_dead (h : Kept name f givenUp past) (hn : f.environments[n]? = some e)
    (hid : e'.id = e.id) (hregistry : e'.registry = e.registry) (hresources : e'.resources = e.resources)
    (hdead : e'.state = .destroyed) (hlive : e.isLive = true) (howner : ∀ x ∈ runs, x.step.1 = e.id)
    (hruns : runs.map (·.step.2) = e.resources.reverse) :
    Kept name (({ f with environments := f.environments.set n e' }).unregister name e.id) givenUp
      (past ++ runs) := by
  have hmem := List.mem_of_getElem? hn
  have hnone : ownedBy e.id past = [] := by
    rcases h.standing e hmem with ⟨_, _, hnone⟩ | ⟨hstate, _⟩
    · exact hnone
    · simp [Environment.isLive, hstate] at hlive
  have hnot : e'.isLive = false := by simp [Environment.isLive, hdead]
  refine (h.listed.set_dead hn hid hregistry hresources hnot howner).kept (fun x hx => ?_) fun x hx => ?_
  · rw [environments_unregister] at hx
    rcases mem_set_of_distinct h.listed.ids_nodup hn hx with rfl | ⟨hx, hne⟩
    · refine .inr ⟨hdead, ?_⟩
      rw [hid, hresources, ownedBy_append, hnone, ownedBy_of_all howner, hruns, List.nil_append]
    · exact (h.standing x hx).append_of_ne fun y hy hy' => hne (hy'.symm.trans (howner y hy))
  · have hne : x.id ≠ e.id := by
      intro heq
      have hids := h.distinct
      rw [List.map_append] at hids
      exact (List.nodup_append.mp hids).2.2 e.id (List.mem_map_of_mem hmem) x.id
        (List.mem_map_of_mem hx) heq.symm
    have hothers : ∀ y ∈ runs, y.step.1 ≠ x.id := fun y hy hy' => hne (hy'.symm.trans (howner y hy))
    rw [ownedBy_append, ownedBy_of_none hothers, List.append_nil]
    exact h.abandoned x hx

end

omit [Host σ τ] in
theorem after_onEnvironment {α : Type} {n : Nat} {act : On σ τ (Environment τ) α} {s : World σ τ × Fleet τ}
    {P : Except (Fault τ) (Option α) → World σ τ × Fleet τ → Prop}
    (hnone : s.2.environments[n]? = none → P (.ok none) s)
    (hsome : ∀ e, s.2.environments[n]? = some e → After act (s.1, e) fun r t =>
      P (r.map some) (t.1, { s.2 with environments := s.2.environments.set n t.2 })) :
    After (onEnvironment n act) s P := by
  unfold After onEnvironment On.member
  cases hn : s.2.environments[n]? with
  | none => exact hnone hn
  | some e =>
    have h := hsome e hn
    unfold After at h
    dsimp only
    cases hrun : act (s.1, e) with
    | ok a t => rw [hrun] at h; exact h
    | error f t => rw [hrun] at h; exact h

omit [Host σ τ] in
theorem after_forget (e : Environment τ) (s : World σ τ × Fleet τ) :
    After (forget e) s fun r s' => r = .ok () ∧ s'.1 = s.1 ∧ s'.2.environments = s.2.environments ∧
      ∀ name, e.registry = some name → s'.2 = s.2.unregister name e.id := by
  unfold forget
  split
  · rename_i h
    exact ⟨rfl, rfl, rfl, by simp [h]⟩
  · rename_i name h
    refine ⟨rfl, rfl, ?_, by rintro _ h'; cases h.symm.trans h'; rfl⟩
    cases name <;> rfl

omit [Host σ τ] in
theorem Kept.isLive_of_not_isOver {name : RegistryName} {f : Fleet τ} {givenUp : List (Environment τ)}
    {past : List (StepRun (String × CleanupStep) τ)} {n : Nat} {e : Environment τ}
    (h : Kept name f givenUp past) (hn : f.environments[n]? = some e) (hover : ¬ e.isOver = true) :
    e.isLive = true ∧ e.cleanup = .holding e.id e.resources := by
  rcases h.standing e (List.mem_of_getElem? hn) with ⟨hlive, hc, _⟩ | ⟨hstate, _⟩
  · exact ⟨hlive, hc⟩
  · simp [Environment.isOver, hstate] at hover

/-- In the fleet that was `s`, the environment `e` with a number was released, which ended in `r`, and was
taken from its registry. -/
structure Discharged (n : Nat) (e : Environment τ) (s : World σ τ × Fleet τ) (r : Except (Fault τ) Unit)
    (runs : List (StepRun (String × CleanupStep) τ)) (e' : Environment τ) (s' : World σ τ × Fleet τ) : Prop
    extends Environment.TornDown e s.1 (r = .ok ()) runs e' s'.1 where
  environments : s'.2.environments = s.2.environments.set n e'
  unregistered : ∀ name, e.registry = some name →
    s'.2 = ({ s.2 with environments := s.2.environments.set n e' }).unregister name e.id

theorem after_tearDown_number {n : Nat} {e : Environment τ} {s : World σ τ × Fleet τ}
    (hn : s.2.environments[n]? = some e) :
    After (do let _ ← onEnvironment n Environment.tearDown) s fun r s₁ => ∃ runs e',
      e.TornDown s.1 (r = .ok ()) runs e' s₁.1 ∧
      s₁.2 = { s.2 with environments := s.2.environments.set n e' } := by
  have htorn : After (onEnvironment n Environment.tearDown) s fun r s₁ => ∃ runs e',
      e.TornDown s.1 (∃ a, r = .ok a) runs e' s₁.1 ∧
      s₁.2 = { s.2 with environments := s.2.environments.set n e' } := by
    refine after_onEnvironment (by simp [hn]) fun e₀ he₀ => ?_
    cases hn.symm.trans he₀
    refine (Environment.after_tearDown s.1 e).mono ?_
    rintro r t ⟨runs, htorn⟩
    refine ⟨runs, t.2, htorn.mono ?_, rfl⟩
    rintro rfl
    exact ⟨_, rfl⟩
  refine after_bind htorn ?_ ?_
  · rintro a s₁ ⟨runs, e', htorn, hs₁⟩
    exact after_pure ⟨runs, e', htorn.mono fun _ => rfl, hs₁⟩
  · rintro fault s₁ ⟨runs, e', htorn, hs₁⟩
    exact ⟨runs, e', htorn.mono (by simp), hs₁⟩

/-- An environment that is over is left alone, and any other one is discharged. -/
theorem after_release_number (n : Nat) (s : World σ τ × Fleet τ) :
    After (release n) s fun r s' =>
      (r = .ok () ∧ s' = s ∧ ∀ e, s.2.environments[n]? = some e → e.isOver = true) ∨
        ∃ e runs e', s.2.environments[n]? = some e ∧ ¬ e.isOver = true ∧ Discharged n e s r runs e' s' := by
  unfold release
  refine after_object_bind ?_
  split
  · rename_i hn
    exact after_pure (.inl ⟨rfl, rfl, by simp [hn]⟩)
  · rename_i e hn
    refine after_ite (fun hover => after_pure (.inl ⟨rfl, rfl, ?_⟩)) fun hover => ?_
    · intro e' he'
      cases hn.symm.trans he'
      exact hover
    · refine after_always (after_tearDown_number hn) ?_
      rintro r s₁ ⟨runs, e', htorn, hs₁⟩
      refine (after_forget e s₁).mono ?_
      rintro _ s₂ ⟨rfl, hw, henvironments, hforget⟩
      rw [hs₁] at henvironments hforget
      rw [← hw] at htorn
      exact .inr ⟨e, runs, e', hn, hover, htorn, henvironments, hforget⟩

/-- From `s` to `s'` the environment with a number was released, which ended in `r`. If the fleet was in step,
and no step was broken off, it still is, and no environment with that number is alive. -/
def PutAway (n : Nat) (s : World σ τ × Fleet τ) (r : Except (Fault τ) Unit) (s' : World σ τ × Fleet τ) :
    Prop :=
  ∃ runs, Chronicle s.1 runs s'.1 ∧ s'.2.environments.map (·.id) = s.2.environments.map (·.id) ∧
    ∀ name givenUp past, Kept name s.2 givenUp past → Unbroken runs →
      r = .ok () ∧ Kept name s'.2 givenUp (past ++ runs) ∧ Fewer s.2 s'.2 ∧
        ∀ e, s'.2.environments[n]? = some e → e.isLive = false

theorem putAway_of_dead {n : Nat} {s : World σ τ × Fleet τ}
    (hdead : ∀ e, s.2.environments[n]? = some e → e.isLive = false) : PutAway n s (.ok ()) s := by
  refine ⟨[], .nil (refl_of Still s.1), rfl, fun name givenUp past h _ => ?_⟩
  rw [List.append_nil]
  exact ⟨rfl, h, refl_of Fewer s.2, hdead⟩

omit [Host σ τ] in
theorem fewer_set_dead {f : Fleet τ} {n : Nat} {e' : Environment τ} (hdead : e'.isLive = false) {f' : Fleet τ}
    (henvironments : f'.environments = f.environments.set n e') : Fewer f f' := by
  intro m x hx hlive
  rw [henvironments] at hx
  rcases getElem?_set_cases hx with ⟨_, rfl⟩ | hx
  · rw [hdead] at hlive
    cases hlive
  · exact ⟨x, hx, hlive⟩

theorem Discharged.fewer {n : Nat} {e e' : Environment τ} {s s' : World σ τ × Fleet τ}
    {r : Except (Fault τ) Unit} {runs : List (StepRun (String × CleanupStep) τ)}
    (h : Discharged n e s r runs e' s') (hn : s.2.environments[n]? = some e) :
    Fewer s.2 s'.2 ∧ ∀ x, s'.2.environments[n]? = some x → x.isLive = false := by
  refine ⟨fewer_set_dead h.isLive h.environments, fun x hx => ?_⟩
  rw [h.environments, List.getElem?_set_self (List.getElem?_eq_some_iff.mp hn).1] at hx
  cases hx
  exact h.isLive

theorem after_release (n : Nat) (s : World σ τ × Fleet τ) : After (release n) s (PutAway n s) := by
  refine (after_release_number n s).mono ?_
  rintro r s' (⟨rfl, rfl, hover⟩ | ⟨e, runs, e', hn, hover, h⟩)
  · exact putAway_of_dead fun e he => e.isLive_of_isOver (hover e he)
  · refine ⟨runs, h.chronicle, by rw [h.environments, ids_set hn h.id], fun name givenUp past hkept hun => ?_⟩
    obtain ⟨hlive, hheld⟩ := hkept.isLive_of_not_isOver hn hover
    have hperformed := h.performed hheld
    obtain ⟨hr, hsteps⟩ := hperformed.of_unbroken hun
    refine ⟨hr, ?_, h.fewer hn⟩
    rw [h.unregistered name (hkept.registered e (List.mem_of_getElem? hn))]
    exact hkept.set_dead hn h.id h.registry h.resources h.state hlive hperformed.owner_eq hsteps

omit [Host σ τ] in
theorem after_releaseStandIn (n : Nat) (s : World σ τ × Fleet τ) :
    After (releaseStandIn n) s fun _ s' =>
      Still s.1 s'.1 ∧ s'.2.environments.map (·.id) = s.2.environments.map (·.id) := by
  have hmark (label : String) (detail : Datum) : Keeps Still (mark label detail : Act σ τ Unit) :=
    fun _ => ⟨[.mark label detail], rfl, by simp⟩
  unfold releaseStandIn
  refine after_object_bind ?_
  split
  · exact after_pure ⟨refl_of Still s.1, rfl⟩
  · refine after_bind ((hmark _ _).world s) ?_ fun _ _ h => ⟨h.1, by rw [h.2]⟩
    intro _ s₁ h
    split
    · exact after_throw ⟨h.1, by rw [h.2]⟩
    · split
      · exact ⟨h.1, by rw [← h.2]; rfl⟩
      · exact after_pure ⟨h.1, by rw [h.2]⟩

omit [Host σ τ] in
/-- Nothing that comes later brings an environment to life again. -/
theorem Fewer.dead {f f' : Fleet τ} {n : Nat} (h : Fewer f f')
    (hdead : ∀ e, f.environments[n]? = some e → e.isLive = false) (e : Environment τ)
    (he : f'.environments[n]? = some e) : e.isLive = false := by
  cases hlive : e.isLive with
  | false => rfl
  | true =>
    obtain ⟨e₁, he₁, hlive₁⟩ := h n e he hlive
    rw [hdead e₁ he₁] at hlive₁
    cases hlive₁

omit [Host σ τ] in
theorem exists_of_mem_registry {name : RegistryName} {f : Fleet τ}
    (hregistry : f.registry name = tenants 0 f.environments) (p : String × Tenant)
    (hp : p ∈ f.registry name) : ∃ n, p.2 = .environment n := by
  rw [hregistry] at hp
  obtain ⟨k, e, _, _, rfl⟩ := exists_of_mem_tenants hp
  exact ⟨_, rfl⟩

omit [Host σ τ] in
/-- If none of those that were registered is live any more, no environment is. -/
theorem Fewer.all_dead {name : RegistryName} {f f' : Fleet τ} (h : Fewer f f')
    (hregistry : f.registry name = tenants 0 f.environments)
    (hdead : ∀ p ∈ f.registry name, ∀ n, p.2 = .environment n →
      ∀ e, f'.environments[n]? = some e → e.isLive = false) :
    ∀ e ∈ f'.environments, e.isLive = false := by
  intro e he
  cases hlive : e.isLive with
  | false => rfl
  | true =>
    obtain ⟨n, hn⟩ := List.mem_iff_getElem?.mp he
    obtain ⟨e₀, he₀, hlive₀⟩ := h n e hn hlive
    have hmem := mem_tenants (n := 0) he₀ hlive₀
    rw [← hregistry, Nat.zero_add] at hmem
    exact hlive.symm.trans (hdead _ hmem n rfl e hn)

/-- The release of environments one after another. -/
theorem after_releaseEach (l : List (String × Tenant)) (s : World σ τ × Fleet τ) :
    After (releaseEach l) s fun r s' => ∃ runs, Chronicle s.1 runs s'.1 ∧
      s'.2.environments.map (·.id) = s.2.environments.map (·.id) ∧
      ∀ name givenUp past, Kept name s.2 givenUp past → (∀ p ∈ l, ∃ n, p.2 = .environment n) →
        Unbroken runs → r = .ok () ∧ Kept name s'.2 givenUp (past ++ runs) ∧ Fewer s.2 s'.2 ∧
          ∀ p ∈ l, ∀ n, p.2 = .environment n → ∀ e, s'.2.environments[n]? = some e → e.isLive = false := by
  induction l generalizing s with
  | nil =>
    refine after_pure ⟨[], .nil (refl_of Still s.1), rfl, fun name givenUp past h _ _ => ?_⟩
    rw [List.append_nil]
    exact ⟨rfl, h, refl_of Fewer s.2, by simp⟩
  | cons p l ih =>
    obtain ⟨id, tenant⟩ := p
    unfold releaseEach
    refine after_record_bind fun s₀ hlog => ?_
    rw [← hlog.2]
    cases tenant with
    | standIn k =>
      refine after_bind (after_releaseStandIn k s₀) (fun _ s₁ ⟨hstill, hids⟩ => (ih s₁).mono ?_) ?_
      · intro r s' hpost
        obtain ⟨runs, ht, hids', -⟩ := hpost
        refine ⟨runs, ht.after_gap (trans_of Still hlog.1.asks hstill), hids'.trans hids, ?_⟩
        intro _ _ _ _ hall
        obtain ⟨n, hn⟩ := hall _ List.mem_cons_self
        cases hn
      · intro fault s₁ hpost
        obtain ⟨hstill, hids⟩ := hpost
        refine ⟨[], .nil (trans_of Still hlog.1.asks hstill), hids, fun _ _ _ _ hall => ?_⟩
        obtain ⟨n, hn⟩ := hall _ List.mem_cons_self
        cases hn
    | environment k =>
      refine after_bind (after_release k s₀) ?_ ?_
      · intro _ s₁ hpost
        obtain ⟨runs, ht, hids, hkept⟩ := hpost
        refine (ih s₁).mono ?_
        intro r s' hpost
        obtain ⟨runs', ht', hids', hkept'⟩ := hpost
        refine ⟨runs ++ runs', (ht.after_gap hlog.1.asks).append ht', hids'.trans hids, ?_⟩
        intro name givenUp past h hall hun
        obtain ⟨hun, hun'⟩ := Unbroken.append_iff.mp hun
        obtain ⟨-, h₁, hfewer, hdead⟩ := hkept name givenUp past h hun
        obtain ⟨hr, h₂, hfewer', hdead'⟩ :=
          hkept' name givenUp _ h₁ (fun p hp => hall p (List.mem_cons_of_mem _ hp)) hun'
        rw [List.append_assoc] at h₂
        refine ⟨hr, h₂, trans_of Fewer hfewer hfewer', fun p hp n hn e he => ?_⟩
        rcases List.mem_cons.mp hp with rfl | hp
        · cases hn
          exact hfewer'.dead hdead e he
        · exact hdead' p hp n hn e he
      · intro fault s₁ hpost
        obtain ⟨runs, ht, hids, hkept⟩ := hpost
        refine ⟨runs, ht.after_gap hlog.1.asks, hids, fun name givenUp past h _ hun => ?_⟩
        cases (hkept name givenUp past h hun).1

end Fleet

end ProxyTestbed
