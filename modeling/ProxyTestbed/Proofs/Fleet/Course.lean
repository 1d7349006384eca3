import ProxyTestbed.Proofs.Fleet.Provision
import ProxyTestbed.Proofs.Fleet.Releases

/-!
# The course of a process

A process provisions environments that share a registry, uses and releases them, in any order, and whatever
the outside world answers. All along, the registry holds the live environments, none of their release steps
has run, and those of all other environments have run once, also those of environments that never became
ready.

* `registry_of_course`: the registry, the environments and the release steps after any deeds.
-/

namespace ProxyTestbed.Environment

variable {σ τ : Type} [Seconds τ] [Host σ τ] {config : ProxyConfig} {w w' : World σ τ} {e : Environment τ}

theorem SetUp.still (h : SetUp config w e w') : Still w w' := by
  obtain ⟨_, _, _, _, _, _, _, _, hacquired, _⟩ := h
  exact hacquired.asks fun r hr => Request.quiet_of_not_isRelease hr

theorem SetUp.isLive (h : SetUp config w e w') : e.isLive = true := by
  obtain ⟨_, _, _, _, hstate, _⟩ := h
  simp [Environment.isLive, hstate]

theorem SetUp.isComplete (h : SetUp config w e w') : e.IsComplete := by
  obtain ⟨path, network, proxy, _, _, _, hresources, _⟩ := h
  exact ⟨path, network, proxy, hresources⟩

theorem SetUp.cleanup_eq (h : SetUp config w e w') : e.cleanup = .holding e.id e.resources := by
  obtain ⟨_, _, _, _, _, _, _, hheld, _⟩ := h
  exact hheld

/-- The steps of an environment that is given up run for it, and all of them unless one is broken off. -/
theorem GivenUp.exists_chronicle (h : GivenUp w e w') : ∃ runs, Chronicle w runs w' ∧
    (∀ x ∈ runs, x.step.1 = e.id) ∧ (Unbroken runs → runs.map (·.step.2) = e.resources.reverse) := by
  obtain ⟨w₁, xs, hacquired, hreleased⟩ := h
  have hstill : Still w w₁ := hacquired.asks fun r hr => Request.quiet_of_not_isRelease hr
  refine ⟨xs.map (.of e.id), hreleased.chronicle.after_gap hstill, fun x hx => ?_, fun hun => ?_⟩
  · obtain ⟨y, _, rfl⟩ := List.mem_map.mp hx
    rfl
  · have hun : Unbroken xs := fun x hx => hun (.of e.id x) (List.mem_map_of_mem hx)
    rw [List.map_map, ← hreleased.all hun]
    rfl

end ProxyTestbed.Environment

namespace ProxyTestbed.Fleet

variable {σ τ : Type} [Seconds τ]

/-- Something that a process does with its environments. -/
inductive Deed (τ : Type) [Seconds τ]
  | provision (r : Request τ)
  | release (n : Nat)
  /-- The end of a block that uses an environment, normally or by a fault. -/
  | leave (n : Nat) (ending : Except (Fault τ) Unit)
  | issueCertificate (n : Nat) (hostname : String) (options : Certificate.Options)
  | startBackend (n : Nat) (order : Environment.BackendOrder τ)
  | releaseAll

variable [Host σ τ]

/-- Does a deed, with the registry that all environments share. -/
def Deed.perform (name : RegistryName) : Deed τ → On σ τ (Fleet τ) Unit
  | .provision r => do let _ ← Fleet.provision { r with registry := name }
  | .release n => Fleet.release n
  | .leave n ending => closing n (conclude ending)
  | .issueCertificate n hostname options => do
    let _ ← onEnvironment n (Environment.issueCertificate hostname options)
  | .startBackend n order => do let _ ← onEnvironment n (Environment.startBackend order)
  | .releaseAll => Fleet.releaseAll name

/-- The environment that a deed gives up, since it cannot be set up. -/
def Deed.givesUp (name : RegistryName) (w : World σ τ) : Deed τ → List (Environment τ)
  | .provision r =>
    match prepare { r with registry := name } w with
    | .ok (.error _, e) _ => [e]
    | _ => []
  | _ => []

/-- A process on its course, with the environments that it gave up. -/
structure Course (σ τ : Type) [Seconds τ] where
  world : World σ τ
  fleet : Fleet τ
  givenUp : List (Environment τ)

namespace Course

/-- A process that begins. -/
def start (w : World σ τ) : Course σ τ := ⟨w, .empty, []⟩

/-- The course after a deed, whether or not it ends in a fault. -/
def advance (name : RegistryName) (c : Course σ τ) (deed : Deed τ) : Course σ τ :=
  match deed.perform name (c.world, c.fleet) with
  | .ok _ s | .error _ s => ⟨s.1, s.2, c.givenUp ++ deed.givesUp name c.world⟩

/-- The course after deeds, from first to last. -/
def after (name : RegistryName) (w : World σ τ) (deeds : List (Deed τ)) : Course σ τ :=
  deeds.foldl (advance name) (start w)

/-- All environments that there ever were. -/
def environments (c : Course σ τ) : List (Environment τ) :=
  c.fleet.environments ++ c.givenUp

end Course

/-! ## Deeds that add no environment -/

theorem after_closing {n : Nat} {ending : Except (Fault τ) Unit} {s : World σ τ × Fleet τ}
    {P : World σ τ × Fleet τ → Prop} (h : After (release n) s fun _ s' => P s') :
    After (closing n (conclude ending)) s fun _ s' => P s' := by
  refine after_always (after_conclude (P := fun _ s' => s = s') rfl) ?_
  rintro r _ rfl
  refine h.mono fun r' s' h => ?_
  cases r' with
  | ok _ => exact h
  | error e => exact h

omit [Host σ τ] in
/-- After the use of an environment there is none with its number, or it is alike to the one before. -/
theorem after_use {α : Type} {n : Nat} {act : On σ τ (Environment τ) α} (hact : Keeps Environment.Used act)
    {s : World σ τ × Fleet τ} {P : World σ τ × Fleet τ → Prop} (hnone : P s)
    (hsome : ∀ e e' w', s.2.environments[n]? = some e → Still s.1 w' → Environment.Alike e e' →
      P (w', { s.2 with environments := s.2.environments.set n e' })) :
    After (do let _ ← onEnvironment n act) s fun _ s' => P s' := by
  have hon : After (onEnvironment n act) s fun _ s' => P s' := by
    refine after_onEnvironment (fun _ => hnone) fun e hn => (hact (s.1, e)).mono ?_
    rintro r t ⟨hstill, halike⟩
    exact hsome e t.2 t.1 hn hstill halike
  exact after_bind hon (fun _ _ h => after_pure h) fun _ _ h => h

/-- An act that keeps a fleet in step, and the number and the ids of its environments. -/
def InStep {α : Type} (name : RegistryName) (act : On σ τ (Fleet τ) α) : Prop :=
  ∀ s, After act s fun _ s' => ∃ runs, Chronicle s.1 runs s'.1 ∧
    s'.2.environments.map (·.id) = s.2.environments.map (·.id) ∧
    ∀ givenUp past, Kept name s.2 givenUp past → Unbroken runs → Kept name s'.2 givenUp (past ++ runs)

section

variable (name : RegistryName)

theorem inStep_release (n : Nat) : InStep name (release n : On σ τ (Fleet τ) Unit) := by
  intro s
  refine (after_release n s).mono ?_
  intro r s' hpost
  obtain ⟨runs, ht, hids, hkept⟩ := hpost
  exact ⟨runs, ht, hids, fun givenUp past h hun => (hkept name givenUp past h hun).2.1⟩

theorem inStep_closing (n : Nat) (ending : Except (Fault τ) Unit) :
    InStep name (closing n (conclude ending) : On σ τ (Fleet τ) Unit) :=
  fun s => after_closing (inStep_release name n s)

theorem inStep_onEnvironment {α : Type} (n : Nat) {act : On σ τ (Environment τ) α}
    (hact : Keeps Environment.Used act) :
    InStep name (do let _ ← onEnvironment n act : On σ τ (Fleet τ) Unit) := by
  intro s
  refine after_use hact ?_ ?_
  · refine ⟨[], .nil (refl_of Still s.1), rfl, fun givenUp past h _ => ?_⟩
    rw [List.append_nil]
    exact h
  · intro e e' w' hn hstill halike
    refine ⟨[], .nil hstill, ids_set hn halike.id, fun givenUp past h _ => ?_⟩
    rw [List.append_nil]
    exact h.set_alike hn halike

/-- All that stands in the registry is released, so nothing stands there any more. -/
theorem after_releaseAll (s : World σ τ × Fleet τ) :
    After (releaseAll name) s fun r s' => ∃ runs, Chronicle s.1 runs s'.1 ∧
      s'.2.environments.map (·.id) = s.2.environments.map (·.id) ∧
      ∀ givenUp past, Kept name s.2 givenUp past → Unbroken runs → r = .ok () ∧
        Kept name s'.2 givenUp (past ++ runs) ∧ ∀ e ∈ s'.2.environments, e.isLive = false := by
  unfold releaseAll
  refine after_object_bind ((after_releaseEach _ s).mono ?_)
  intro r s' hpost
  obtain ⟨runs, ht, hids, hkept⟩ := hpost
  refine ⟨runs, ht, hids, fun givenUp past h hun => ?_⟩
  obtain ⟨hr, h', hfewer, hdead⟩ := hkept name givenUp past h (exists_of_mem_registry h.registry) hun
  exact ⟨hr, h', hfewer.all_dead h.registry hdead⟩

theorem inStep_releaseAll : InStep name (releaseAll name : On σ τ (Fleet τ) Unit) := by
  intro s
  refine (after_releaseAll name s).mono ?_
  intro r s' hpost
  obtain ⟨runs, ht, hids, hkept⟩ := hpost
  exact ⟨runs, ht, hids, fun givenUp past h hun => (hkept givenUp past h hun).2.1⟩

end

/-! ## Provisioning -/

section

variable {name : RegistryName} {f : Fleet τ} {givenUp : List (Environment τ)}
  {past runs : List (StepRun (String × CleanupStep) τ)} {e : Environment τ}

omit [Host σ τ]

/-- The steps of an environment with a new id have not run. -/
theorem Listed.ne_owner (h : Listed name f givenUp past)
    (hnew : e.id ∉ (f.environments ++ givenUp).map (·.id)) : ∀ x ∈ past, x.step.1 ≠ e.id :=
  fun x hx hid => hnew (hid ▸ h.owners x hx)

theorem not_mem_of_nodup_add (hids : ((f.environments ++ [e] ++ givenUp).map (·.id)).Nodup) :
    e.id ∉ (f.environments ++ givenUp).map (·.id) := by
  rw [List.map_append, List.map_append, List.map_singleton] at hids
  obtain ⟨hleft, -, hright⟩ := List.nodup_append.mp hids
  rw [List.map_append, List.mem_append]
  rintro (hmem | hmem)
  · exact (List.nodup_append.mp hleft).2.2 _ hmem _ List.mem_cons_self rfl
  · exact hright _ (List.mem_append_right _ List.mem_cons_self) _ hmem rfl

theorem not_mem_of_nodup_giveUp (hids : ((f.environments ++ (givenUp ++ [e])).map (·.id)).Nodup) :
    e.id ∉ (f.environments ++ givenUp).map (·.id) := by
  rw [← List.append_assoc, List.map_append, List.map_singleton] at hids
  intro hmem
  exact (List.nodup_append.mp hids).2.2 _ hmem _ List.mem_cons_self rfl

theorem environments_register (f : Fleet τ) (name : RegistryName) (id : String) (tenant : Tenant) :
    (f.register name id tenant).environments = f.environments := by
  cases name <;> rfl

theorem Listed.add (h : Listed name f givenUp past)
    (hids : ((f.environments ++ [e] ++ givenUp).map (·.id)).Nodup) (hregistry : e.registry = some name)
    (hlive : e.isLive = true) (hcomplete : e.IsComplete) :
    Listed name (({ f with environments := f.environments ++ [e] }).register name e.id
      (.environment f.environments.length)) givenUp past := by
  have hnew := not_mem_of_nodup_add hids
  constructor
  · rw [environments_register]
    exact hids
  · have habsent : e.id ∉ (f.registry name).map (·.1) := by
      rw [h.registry]
      intro hmem
      exact hnew (by rw [List.map_append]; exact List.mem_append_left _ (keys_tenants_subset 0 _ hmem))
    rw [environments_register, tenants_append 0 _ hlive, Nat.zero_add, ← h.registry,
      ← Dictionary.put_of_not_mem habsent]
    cases name <;> rfl
  · rw [environments_register]
    simpa [or_imp, forall_and] using ⟨h.registered, hregistry⟩
  · rw [environments_register]
    simpa [or_imp, forall_and] using ⟨h.complete, hcomplete⟩
  · intro x hx
    rw [environments_register, List.append_assoc, List.map_append]
    have hx := h.owners x hx
    rw [List.map_append] at hx
    rcases List.mem_append.mp hx with hx | hx
    · exact List.mem_append_left _ hx
    · exact List.mem_append_right _ (List.mem_cons_of_mem _ hx)

theorem Kept.add (h : Kept name f givenUp past)
    (hids : ((f.environments ++ [e] ++ givenUp).map (·.id)).Nodup) (hregistry : e.registry = some name)
    (hlive : e.isLive = true) (hheld : e.cleanup = .holding e.id e.resources) (hcomplete : e.IsComplete) :
    Kept name (({ f with environments := f.environments ++ [e] }).register name e.id
      (.environment f.environments.length)) givenUp past := by
  have hone : Standing past e :=
    .inl ⟨hlive, hheld, ownedBy_of_none (h.listed.ne_owner (not_mem_of_nodup_add hids))⟩
  refine (h.listed.add hids hregistry hlive hcomplete).kept ?_ h.abandoned
  rw [environments_register]
  simpa [or_imp, forall_and] using ⟨h.standing, hone⟩

theorem Listed.giveUp (h : Listed name f givenUp past)
    (hids : ((f.environments ++ (givenUp ++ [e])).map (·.id)).Nodup)
    (howner : ∀ x ∈ runs, x.step.1 = e.id) : Listed name f (givenUp ++ [e]) (past ++ runs) := by
  refine ⟨hids, h.registry, h.registered, h.complete, fun x hx => ?_⟩
  rw [← List.append_assoc, List.map_append]
  rcases List.mem_append.mp hx with hx | hx
  · exact List.mem_append_left _ (h.owners x hx)
  · rw [howner x hx]
    exact List.mem_append_right _ List.mem_cons_self

theorem Kept.giveUp (h : Kept name f givenUp past)
    (hids : ((f.environments ++ (givenUp ++ [e])).map (·.id)).Nodup)
    (howner : ∀ x ∈ runs, x.step.1 = e.id) (hruns : runs.map (·.step.2) = e.resources.reverse) :
    Kept name f (givenUp ++ [e]) (past ++ runs) := by
  have hnew := not_mem_of_nodup_giveUp hids
  have hother (x : Environment τ) (hx : x ∈ f.environments ++ givenUp) :
      ∀ y ∈ runs, y.step.1 ≠ x.id := by
    intro y hy hid
    rw [howner y hy] at hid
    exact hnew (hid ▸ List.mem_map_of_mem hx)
  refine (h.listed.giveUp hids howner).kept (fun x hx => ?_) fun x hx => ?_
  · exact (h.standing x hx).append_of_ne (hother x (List.mem_append_left _ hx))
  · rcases List.mem_append.mp hx with hx | hx
    · rw [ownedBy_append, ownedBy_of_none (hother x (List.mem_append_right _ hx)), List.append_nil]
      exact h.abandoned x hx
    · cases List.mem_singleton.mp hx
      rw [ownedBy_append, ownedBy_of_none (h.listed.ne_owner hnew), ownedBy_of_all howner, hruns,
        List.nil_append]

end

/-- From `s` to `s'` a fleet stays in step, if no step is broken off and the ids are distinct; the
environments `gone` are given up. -/
def LeadsTo (name : RegistryName) (s : World σ τ × Fleet τ) (gone : List (Environment τ))
    (s' : World σ τ × Fleet τ) : Prop :=
  ∃ runs, Chronicle s.1 runs s'.1 ∧
    (s.2.environments.map (·.id)).Sublist (s'.2.environments.map (·.id)) ∧
    (∀ e ∈ gone, Environment.GivenUp s.1 e s'.1) ∧
    ∀ givenUp past, Kept name s.2 givenUp past → Unbroken runs →
      ((s'.2.environments ++ (givenUp ++ gone)).map (·.id)).Nodup →
        Kept name s'.2 (givenUp ++ gone) (past ++ runs)

theorem leadsTo_setUp {name : RegistryName} {config : ProxyConfig} {s : World σ τ × Fleet τ}
    {e : Environment τ} {w₁ w' : World σ τ} (hregistry : e.registry = some name)
    (h : Environment.SetUp config s.1 e w₁) (hlog : Logs w₁ w') :
    LeadsTo name s [] (w', ({ s.2 with environments := s.2.environments ++ [e] }).register name e.id
      (.environment s.2.environments.length)) := by
  have hstill : Still s.1 w' := trans_of Still h.still hlog.asks
  refine ⟨[], .nil hstill, ?_, by simp, fun givenUp past hkept _ hids => ?_⟩
  · rw [environments_register, List.map_append]
    exact List.sublist_append_left _ _
  · rw [List.append_nil, environments_register] at hids
    rw [List.append_nil, List.append_nil]
    exact hkept.add hids hregistry h.isLive h.cleanup_eq h.isComplete

theorem leadsTo_givenUp {name : RegistryName} {s : World σ τ × Fleet τ} {e : Environment τ}
    {w' : World σ τ} (h : Environment.GivenUp s.1 e w') : LeadsTo name s [e] (w', s.2) := by
  obtain ⟨runs, ht, howner, hall⟩ := h.exists_chronicle
  refine ⟨runs, ht, List.Sublist.refl _, ?_, ?_⟩
  · intro x hx
    cases List.mem_singleton.mp hx
    exact h
  · exact fun givenUp past hkept hun hids => hkept.giveUp hids howner (hall hun)

/-- Provisioning adds an environment and registers it, or gives one up, or does not even begin with one. -/
inductive Provisioned (name : RegistryName) (config : ProxyConfig) (s : World σ τ × Fleet τ) :
    List (Environment τ) → World σ τ × Fleet τ → Prop
  | setUp {e : Environment τ} {w₁ w' : World σ τ} (hregistry : e.registry = some name)
      (h : Environment.SetUp config s.1 e w₁) (hlog : Logs w₁ w') :
      Provisioned name config s [] (w', ({ s.2 with environments := s.2.environments ++ [e] }).register name
        e.id (.environment s.2.environments.length))
  | givenUp {e : Environment τ} {w' : World σ τ} (h : Environment.GivenUp s.1 e w') :
      Provisioned name config s [e] (w', s.2)
  | refused {w' : World σ τ} (h : Still s.1 w') : Provisioned name config s [] (w', s.2)

theorem after_provision (name : RegistryName) (r : Request τ) (s : World σ τ × Fleet τ) :
    After (Deed.perform name (.provision r)) s fun _ s' =>
      Provisioned name r.config s (Deed.givesUp name s.1 (.provision r)) s' := by
  have hprovision : After (provision { r with registry := name }) s fun _ s' =>
      Provisioned name r.config s (Deed.givesUp name s.1 (.provision r)) s' := by
    unfold provision
    have hprepare := (after_run (prepare { r with registry := name }) s.1).and
      (after_prepare { r with registry := name } s.1)
    refine after_bind hprepare.world ?_ ?_
    · rintro ⟨outcome, e⟩ s₁ ⟨⟨hrun, hsettings, hregistry, houtcome⟩, hs₁⟩
      have hrun := of_attempt_ok hrun
      refine after_conclude_bind ?_ ?_
      · rintro _ rfl
        refine after_bind (after_add e s₁) ?_ (by simp)
        intro n s₂ hpost
        obtain ⟨hn, rfl⟩ := hpost
        cases hn
        refine after_change_bind (after_record_bind fun s' hlog => after_pure ?_)
        have hgone : Deed.givesUp name s.1 (.provision r) = [] := by simp only [Deed.givesUp, hrun]
        obtain ⟨w', f'⟩ := s'
        obtain ⟨hlog, hf⟩ := hlog
        cases hf
        rw [hgone, hs₁]
        exact .setUp hregistry houtcome hlog
      · rintro fault rfl
        have hgone : Deed.givesUp name s.1 (.provision r) = [e] := by simp only [Deed.givesUp, hrun]
        obtain ⟨w', f'⟩ := s₁
        cases hs₁
        rw [hgone]
        exact .givenUp houtcome
    · rintro fault ⟨w', f'⟩ ⟨⟨hrun, huntouched⟩, hs₁⟩
      cases hs₁
      have hgone : Deed.givesUp name s.1 (.provision r) = [] := by
        simp only [Deed.givesUp, of_attempt_error hrun]
      rw [hgone]
      exact .refused (huntouched.1.mono fun r a hidle => Request.quiet_of_not_isRelease hidle.1 a)
  exact after_bind hprovision (fun _ _ h => after_pure h) fun _ _ h => h

theorem Provisioned.leadsTo {name : RegistryName} {config : ProxyConfig} {s s' : World σ τ × Fleet τ}
    {gone : List (Environment τ)} (h : Provisioned name config s gone s') : LeadsTo name s gone s' := by
  cases h with
  | setUp hregistry h hlog => exact leadsTo_setUp hregistry h hlog
  | givenUp h => exact leadsTo_givenUp h
  | refused hstill =>
    refine ⟨[], .nil hstill, List.Sublist.refl _, by simp, fun givenUp past hkept _ _ => ?_⟩
    rw [List.append_nil, List.append_nil]
    exact hkept

/-! ## The course -/

theorem InStep.leadsTo {α : Type} {name : RegistryName} {act : On σ τ (Fleet τ) α} (h : InStep name act)
    (s : World σ τ × Fleet τ) : After act s fun _ s' => LeadsTo name s [] s' := by
  refine (h s).mono ?_
  intro _ s' hpost
  obtain ⟨runs, ht, hids, hkept⟩ := hpost
  refine ⟨runs, ht, hids ▸ List.Sublist.refl _, by simp, fun givenUp past h hun _ => ?_⟩
  rw [List.append_nil]
  exact hkept givenUp past h hun

theorem after_perform (name : RegistryName) (deed : Deed τ) (s : World σ τ × Fleet τ) :
    After (deed.perform name) s fun _ s' => LeadsTo name s (deed.givesUp name s.1) s' := by
  cases deed with
  | provision r => exact (after_provision name r s).mono fun _ _ h => h.leadsTo
  | release n => exact (inStep_release name n).leadsTo s
  | leave n ending => exact (inStep_closing name n ending).leadsTo s
  | issueCertificate n hostname options =>
    exact (inStep_onEnvironment name n (Environment.keeps_issueCertificate hostname options)).leadsTo s
  | startBackend n order =>
    exact (inStep_onEnvironment name n (Environment.keeps_startBackend order)).leadsTo s
  | releaseAll => exact (inStep_releaseAll name).leadsTo s

namespace Course

variable {name : RegistryName} {w : World σ τ} {c : Course σ τ}

theorem advance_of_after {deed : Deed τ} {P : World σ τ × Fleet τ → Prop}
    (h : After (deed.perform name) (c.world, c.fleet) fun _ s' => P s') :
    P ((c.advance name deed).world, (c.advance name deed).fleet) := by
  unfold After at h
  unfold advance
  split at h
  · rename_i hrun
    simp only [hrun]
    exact h
  · rename_i hrun
    simp only [hrun]
    exact h

theorem advance_givenUp (deed : Deed τ) :
    (c.advance name deed).givenUp = c.givenUp ++ deed.givesUp name c.world := by
  unfold advance
  split <;> rfl

/-- On a course from `w`, the registry, the environments and the steps that ran are in step. -/
def InStepSince (name : RegistryName) (w : World σ τ) (c : Course σ τ) : Prop :=
  ∃ runs, Chronicle w runs c.world ∧
    (Unbroken runs → (c.environments.map (·.id)).Nodup → Kept name c.fleet c.givenUp runs)

theorem inStepSince_start (w : World σ τ) : InStepSince name w (start w) := by
  refine ⟨[], .nil (refl_of Still w), fun _ _ => ?_⟩
  have hregistry : (start w).fleet.registry name = [] := by
    cases name <;> rfl
  exact ⟨List.nodup_nil, hregistry, by simp [start, empty], by simp [start, empty],
    by simp [start, empty], by simp [start], by simp⟩

/-- If the ids are distinct after a deed, they were before. -/
theorem nodup_of_advance {deed : Deed τ} (h : ((c.advance name deed).environments.map (·.id)).Nodup) :
    (c.environments.map (·.id)).Nodup := by
  obtain ⟨_, _, hids, _⟩ := advance_of_after (after_perform name deed (c.world, c.fleet))
  refine List.Nodup.sublist ?_ h
  rw [environments, environments, advance_givenUp, List.map_append, List.map_append]
  refine hids.append ?_
  rw [List.map_append]
  exact List.sublist_append_left _ _

theorem InStepSince.advance (h : InStepSince name w c) (deed : Deed τ) :
    InStepSince name w (c.advance name deed) := by
  obtain ⟨runs, ht, hkept⟩ := h
  obtain ⟨runs', ht', -, -, hkept'⟩ := advance_of_after (after_perform name deed (c.world, c.fleet))
  refine ⟨runs ++ runs', ht.append ht', fun hun hdistinct => ?_⟩
  obtain ⟨hun, hun'⟩ := Unbroken.append_iff.mp hun
  have hbefore := hkept hun (nodup_of_advance hdistinct)
  rw [environments, advance_givenUp] at hdistinct
  rw [advance_givenUp]
  exact hkept' _ _ hbefore hun' hdistinct

theorem inStepSince_foldl (deeds : List (Deed τ)) (h : InStepSince name w c) :
    InStepSince name w (deeds.foldl (advance name) c) := by
  induction deeds generalizing c with
  | nil => exact h
  | cons deed deeds ih => exact ih (h.advance deed)

theorem givenUp_foldl {deeds : List (Deed τ)} {e : Environment τ}
    (h : e ∈ (deeds.foldl (advance name) c).givenUp) :
    e ∈ c.givenUp ∨ ∃ w₁ w₂ : World σ τ, Environment.GivenUp w₁ e w₂ := by
  induction deeds generalizing c with
  | nil => exact .inl h
  | cons deed deeds ih =>
    rcases ih h with h | h
    · rw [advance_givenUp] at h
      rcases List.mem_append.mp h with h | h
      · exact .inl h
      · obtain ⟨_, _, _, hgone, _⟩ :=
          advance_of_after (after_perform name deed (c.world, c.fleet))
        exact .inr ⟨_, _, hgone e h⟩
    · exact .inr h

end Course

omit [Host σ τ] in
theorem Kept.live_eq {name : RegistryName} {f : Fleet τ} {givenUp : List (Environment τ)}
    {runs : List (StepRun (String × CleanupStep) τ)} (h : Kept name f givenUp runs) :
    f.live name = (f.environments.filter (·.isLive)).map (·.id) := by
  rw [live, h.registry, keys_tenants]

/-- **The registry and the release steps on any course.** After any deeds of a process, the registry lists the
live environments, in the order in which they were provisioned. Every other environment is destroyed. None of
the release steps of a live one has run; those of every other one, and of every environment that was given up
before it was ready, have run once each, the latest first. After all that stands in the registry is released,
it is empty and every environment is destroyed. All of this if no release step was broken off by something
that is no exception, and no two environments have the same id. -/
theorem registry_of_course (name : RegistryName) (w : World σ τ) (deeds : List (Deed τ)) :
    let c := Course.after name w deeds
    (∃ runs, Chronicle w runs c.world ∧
      (Unbroken runs → (c.environments.map (·.id)).Nodup →
        c.fleet.registry name = tenants 0 c.fleet.environments ∧
        c.fleet.live name = (c.fleet.environments.filter (·.isLive)).map (·.id) ∧
        (∀ e ∈ c.fleet.environments, Standing runs e ∧ e.IsComplete) ∧
        (∀ e ∈ c.givenUp, ownedBy e.id runs = e.resources.reverse ∧
          ∃ w₁ w₂ : World σ τ, Environment.GivenUp w₁ e w₂) ∧
        ∀ x ∈ runs, x.step.1 ∈ c.environments.map (·.id))) ∧
    After (releaseAll name) (c.world, c.fleet) fun r s' => ∃ runs, Chronicle w runs s'.1 ∧
      (Unbroken runs → (c.environments.map (·.id)).Nodup →
        r = .ok () ∧ s'.2.live name = [] ∧ ∀ e ∈ s'.2.environments, e.state = .destroyed) := by
  intro c
  have hcourse : Course.InStepSince name w c :=
    Course.inStepSince_foldl deeds (Course.inStepSince_start w)
  obtain ⟨runs, ht, hkept⟩ := hcourse
  constructor
  · refine ⟨runs, ht, fun hun hids => ?_⟩
    have h := hkept hun hids
    refine ⟨h.registry, h.live_eq, fun e he => ⟨h.standing e he, h.complete e he⟩,
      fun e he => ⟨h.abandoned e he, ?_⟩, h.owners⟩
    rcases Course.givenUp_foldl he with he | he
    · cases he
    · exact he
  · refine (after_releaseAll name (c.world, c.fleet)).mono ?_
    intro r s' hpost
    obtain ⟨runs', ht', hids', hkept'⟩ := hpost
    refine ⟨runs ++ runs', ht.append ht', fun hun hids => ?_⟩
    obtain ⟨hun, hun'⟩ := Unbroken.append_iff.mp hun
    obtain ⟨hr, h, hdead⟩ := hkept' _ _ (hkept hun hids) hun'
    refine ⟨hr, ?_, fun e he => ?_⟩
    · rw [h.live_eq, List.map_eq_nil_iff, List.filter_eq_nil_iff]
      exact fun e he => by simp [hdead e he]
    · rcases h.standing e he with ⟨hlive, _⟩ | ⟨hstate, _⟩
      · rw [hdead e he] at hlive
        cases hlive
      · exact hstate

end ProxyTestbed.Fleet
