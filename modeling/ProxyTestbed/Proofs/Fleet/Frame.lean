import Mathlib.Data.List.Nodup
import ProxyTestbed.Proofs.Cleanup.Groups
import ProxyTestbed.Proofs.Fleet.Holdings
import ProxyTestbed.Proofs.Fleet.Interrupted

/-!
# What a release leaves alone

However a process came to where it is, the release of an environment calls the daemon and the system for the proxy, the
network and the directory of this environment, in this order, and for nothing else. Backends and other environments
stay as they are, and so do all files but those in this directory, and a block that ends with the release ends as it
would without it.

* `Reached`: the states of processes.
* `reached_orderly`: an environment that is not over holds its own things for their release, and no
  thing that the daemon did not make.
* `release_contained`: the calls of a release, and what it changes.
-/

namespace ProxyTestbed

variable {σ τ α : Type} [Seconds τ]

/-! ## Environments that can be released -/

namespace Environment

/-- It was released, or it holds what it acquired, which is all that it needs, for its release. -/
def IsSound (e : Environment τ) : Prop :=
  e.isOver = true ∨ e.cleanup = .holding e.id e.resources ∧ e.IsComplete

theorem IsSound.of_alike {e e' : Environment τ} (h : e.IsSound) (halike : Alike e e') : e'.IsSound := by
  rcases h with hover | ⟨hheld, hcomplete⟩
  · left
    have hstate := halike.state (e.isLive_of_isOver hover)
    rwa [isOver, hstate]
  · right
    rw [IsComplete, halike.cleanup, halike.id, halike.resources]
    exact ⟨hheld, hcomplete⟩

theorem exists_of_isComplete {e : Environment τ} (h : e.IsComplete) : ∃ scratch network proxy,
    e.scratch = some scratch ∧ e.network = some network ∧ e.proxy = some proxy ∧ e.resources.reverse =
      [.container proxy CleanupStep.usualStopTimeout, .network network, .directory scratch] := by
  obtain ⟨scratch, network, proxy, hresources⟩ := h
  refine ⟨scratch, network, proxy, ?_⟩
  rw [hresources]
  unfold resources resourcesOf at hresources
  cases hscratch : e.scratch <;> cases hnetwork : e.network <;> cases hproxy : e.proxy <;>
    simp_all

/-- What a release of an environment calls for, if the environment holds its resources. -/
theorem after_tearDown_groups [Host σ τ] (w : World σ τ) {e : Environment τ}
    (hheld : e.cleanup = .holding e.id e.resources) : After tearDown (w, e) fun r s' => ∃ gs cleanup,
      RunsGroups e.resources.reverse w gs s'.1 (r = .ok ()) ∧ s'.2 = { e with state := .destroyed, cleanup } := by
  unfold tearDown
  refine after_change_bind (after_object_bind (after_record_bind fun s₁ hlog => ?_))
  obtain ⟨hlogs, hs₁⟩ := hlog
  refine after_always (P := fun r s₂ => ∃ gs cleanup, RunsGroups e.resources.reverse w gs s₂.1 (r = .ok ()) ∧
    s₂.2 = { e with state := .tearingDown, cleanup }) ?_ ?_
  · have hrelease : After (onCleanup Cleanup.release) s₁ fun r s₂ => ∃ gs cleanup,
        RunsGroups e.resources.reverse w gs s₂.1 (∃ failures, r = .ok failures) ∧
        s₂.2 = { e with state := .tearingDown, cleanup } := by
      refine after_part ?_
      have hcleanup : s₁.2.cleanup = .holding e.id e.resources := by rw [hs₁]; exact hheld
      rw [hcleanup]
      refine (Cleanup.after_release_groups s₁.1 e.id e.resources).mono ?_
      rintro r s₂ ⟨gs, hruns⟩
      exact ⟨gs, s₂.2, hruns.after_logs hlogs, by rw [hs₁]⟩
    refine after_bind hrelease ?_ ?_
    · rintro failures s₂ ⟨gs, cleanup, hruns, he⟩
      exact after_pure ⟨gs, cleanup, hruns.mono fun _ => rfl, he⟩
    · rintro fault s₂ ⟨gs, cleanup, hruns, he⟩
      exact ⟨gs, cleanup, hruns.mono (by simp), he⟩
  · rintro r ⟨w₂, e₂⟩ ⟨gs, cleanup, hruns, rfl⟩
    exact ⟨gs, cleanup, hruns, rfl⟩

end Environment

/-! ## What the steps of a process keep -/

section

variable {β γ : Type}

omit [Seconds τ] in
/-- What is held more by one member was found, so it is found that all hold it more. -/
theorem subperm_flatMap_set {l : List β} {n : Nat} {b b' : β} (hn : l[n]? = some b) {get : β → List γ}
    {found : List γ} (h : (get b').Subperm (found ++ get b)) :
    ((l.set n b').flatMap get).Subperm (found ++ l.flatMap get) := by
  obtain ⟨hlt, rfl⟩ := List.getElem?_eq_some_iff.mp hn
  have hl : l.flatMap get = (l.take n).flatMap get ++ (get l[n] ++ (l.drop (n + 1)).flatMap get) := by
    rw [← List.flatMap_cons, ← List.flatMap_append, List.getElem_cons_drop, List.take_append_drop]
  have hset : (l.set n b').flatMap get =
      (l.take n).flatMap get ++ (get b' ++ (l.drop (n + 1)).flatMap get) := by
    rw [List.set_eq_take_append_cons_drop, if_pos hlt, List.flatMap_append, List.flatMap_cons]
  rw [hset, hl]
  generalize (l.take n).flatMap get = before
  generalize (l.drop (n + 1)).flatMap get = later
  have hfront : (before ++ (get b' ++ later)).Perm (get b' ++ (before ++ later)) := by
    rw [← List.append_assoc, ← List.append_assoc]
    exact List.perm_append_comm.append_right later
  have hback : (found ++ get l[n] ++ (before ++ later)).Perm (found ++ (before ++ (get l[n] ++ later))) := by
    rw [List.append_assoc]
    refine List.Perm.append_left found ?_
    rw [← List.append_assoc, ← List.append_assoc]
    exact List.perm_append_comm.append_right later
  exact hfront.subperm.trans ((h.append (List.Subperm.refl _)).trans hback.subperm)

end

namespace Fleet

/-- What the environments of a fleet hold of the daemon. -/
def holdings (f : Fleet τ) : List Thing :=
  f.environments.flatMap (·.holdings)

/-- All environments can be released, or were. -/
def IsSound (f : Fleet τ) : Prop :=
  ∀ e ∈ f.environments, e.IsSound

/-- What is held more was made in between, and environments that can be released still can. -/
def Orderly (s s' : World σ τ × Fleet τ) : Prop :=
  Accounts holdings s s' ∧ (s.2.IsSound → s'.2.IsSound)

instance : IsPreorder (World σ τ × Fleet τ) Orderly where
  refl s := ⟨refl_of (Accounts holdings) s, id⟩
  trans _ _ _ h h' := ⟨trans_of (Accounts holdings) h.1 h'.1, h'.2 ∘ h.2⟩

theorem orderly_of_environments {s s' : World σ τ × Fleet τ} (hsince : Since s.1 s'.1)
    (h : s'.2.environments = s.2.environments) : Orderly s s' := by
  refine ⟨accounts_of_since hsince (by rw [holdings, holdings, h]), fun hsound => ?_⟩
  rw [IsSound, h]
  exact hsound

theorem keeps_orderly_world {act : Act σ τ α} (h : Keeps Since act) :
    Keeps Orderly (world act : On σ τ (Fleet τ) α) :=
  h.world.mono fun _ _ hkept => orderly_of_environments hkept.1 (by rw [hkept.2])

theorem keeps_orderly_onEnvironment (n : Nat) {act : On σ τ (Environment τ) α}
    (haccounts : Keeps (Accounts Environment.holdings) act)
    (hsound : Keeps (fun s s' => s.2.IsSound → s'.2.IsSound) act) :
    Keeps Orderly (onEnvironment n act : On σ τ (Fleet τ) (Option α)) := by
  intro s
  refine after_onEnvironment (fun _ => refl_of Orderly s) fun e hn => ?_
  refine ((haccounts (s.1, e)).and (hsound (s.1, e))).mono fun r t hpost => ?_
  obtain ⟨⟨found, hfinds, hheld⟩, hstill⟩ := hpost
  refine ⟨⟨found, hfinds, subperm_flatMap_set hn hheld⟩, fun h x hx => ?_⟩
  rcases List.mem_or_eq_of_mem_set hx with hx | rfl
  · exact h x hx
  · exact hstill (h e (List.mem_of_getElem? hn))

theorem keeps_orderly_used (n : Nat) {act : On σ τ (Environment τ) α}
    (haccounts : Keeps (Accounts Environment.holdings) act) (hused : Keeps Environment.Used act) :
    Keeps Orderly (do let _ ← onEnvironment n act : On σ τ (Fleet τ) Unit) :=
  (keeps_orderly_onEnvironment n haccounts
    (hused.mono fun _ _ hkept hsound => hsound.of_alike hkept.2)).bind fun _ => .pure ()

section

variable [Host σ τ]

theorem keeps_orderly_release (n : Nat) : Keeps Orderly (release n : On σ τ (Fleet τ) Unit) := by
  have hobject : Keeps Orderly (On.object : On σ τ (Fleet τ) (Fleet τ)) := fun s => refl_of Orderly s
  have htear : Keeps (fun s s' => s.2.IsSound → s'.2.IsSound) (Environment.tearDown : On σ τ (Environment τ) Unit) := by
    intro s
    refine (Environment.after_tearDown s.1 s.2).mono fun r s' hpost _ => ?_
    obtain ⟨_, htorn⟩ := hpost
    exact .inl (by simp [Environment.isOver, htorn.state])
  refine hobject.bind fun f => ?_
  split
  · exact .pure ()
  · rename_i e _
    have hforget : Keeps Orderly (forget e : On σ τ (Fleet τ) Unit) := fun s =>
      (after_forget e s).mono fun _ _ hpost => orderly_of_environments (hpost.2.1 ▸ refl_of Since _) hpost.2.2.1
    refine .ite (.pure ()) (Keeps.always ?_ hforget)
    exact (keeps_orderly_onEnvironment n Environment.keeps_accounts_tearDown htear).bind fun _ => .pure ()

theorem keeps_orderly_releaseAll (name : RegistryName) : Keeps Orderly (releaseAll name : On σ τ (Fleet τ) Unit) := by
  have hmark (label : String) (detail : Datum) : Keeps Since (mark label detail : Act σ τ Unit) :=
    fun _ => ⟨[.mark label detail], rfl, by simp⟩
  have hstandIn (n : Nat) : Keeps Orderly (releaseStandIn n : On σ τ (Fleet τ) Unit) := by
    refine Keeps.bind (fun s => refl_of Orderly s) fun f => ?_
    split
    · exact .pure ()
    · refine (keeps_orderly_world (hmark _ _)).bind fun _ => ?_
      split
      · exact .throw _
      · exact .ite (fun s => orderly_of_environments (refl_of Since s.1) rfl) (.pure ())
  have heach (l : List (String × Tenant)) : Keeps Orderly (releaseEach l : On σ τ (Fleet τ) Unit) := by
    induction l with
    | nil => exact .pure ()
    | cons p l ih =>
      obtain ⟨id, tenant⟩ := p
      refine (keeps_orderly_world (keeps_record _ _ _)).bind fun _ => ?_
      cases tenant with
      | environment n => exact (keeps_orderly_release n).bind fun _ => ih
      | standIn n => exact (hstandIn n).bind fun _ => ih
  exact Keeps.bind (fun s => refl_of Orderly s) fun f => heach _

/-- What is held by an environment that is set up was made for it. -/
theorem after_prepare_made (r : Request τ) (w : World σ τ) :
    After (prepare r) w fun x w' => ∃ found, Finds Event.made? w found w' ∧
      ∀ outcome e, x = .ok (outcome, e) → e.holdings.Subperm found := by
  have hrest {w₁ : World σ τ} (h₁ : Since w w₁) : After (do
      let id ← freshEnvironmentId
      On.start (Environment.create id r.settings (some r.registry))
        (Environment.setUpOrAbort (givenOr r.image r.settings.image) r.config)) w₁ fun x w' =>
      ∃ found, Finds Event.made? w found w' ∧ ∀ outcome e, x = .ok (outcome, e) → e.holdings.Subperm found := by
    obtain ⟨found₁, hfinds₁⟩ := h₁.exists_finds
    have hid : After freshEnvironmentId w₁ fun x w₂ => (∃ id, x = .ok id) ∧ w₂.past = w₁.past := ⟨⟨_, rfl⟩, rfl⟩
    refine after_bind hid ?_ (by simp)
    rintro id w₂ ⟨_, hpast⟩
    have hsetUp := Environment.keeps_accounts_setUpOrAbort (σ := σ) (givenOr r.image r.settings.image) r.config
    refine after_start ((hsetUp (w₂, Environment.create id r.settings (some r.registry))).mono ?_)
    rintro outcome s' ⟨found, ⟨es, hes, hfound⟩, hheld⟩
    have hfinds : Finds Event.made? w₁ found s'.1 := ⟨es, by rw [hes, hpast], hfound⟩
    refine ⟨found ++ found₁, hfinds₁.trans hfinds, ?_⟩
    rintro _ _ ⟨⟩
    have hnone : (Environment.create id r.settings (some r.registry)).holdings = [] := rfl
    rw [hnone, List.append_nil] at hheld
    exact hheld.trans (List.sublist_append_left found found₁).subperm
  unfold prepare
  split
  · have hconnect : Keeps Since (connect : Act σ τ Unit) :=
      keeps_connect.mono fun _ _ huntouched => huntouched.1.mono fun _ _ _ => trivial
    refine after_bind (hconnect w) (fun _ w₁ h₁ => hrest h₁) fun fault w₁ h₁ => ?_
    obtain ⟨found, hfinds⟩ := Since.exists_finds h₁
    exact ⟨found, hfinds, by simp⟩
  · exact hrest (refl_of Since w)

theorem keeps_accounts_provision (r : Request τ) : Keeps (Accounts holdings) (provision r : On σ τ (Fleet τ) Nat) := by
  intro s
  unfold provision
  refine after_bind (after_prepare_made r s.1).world ?_ ?_
  · rintro ⟨outcome, e⟩ s₁ ⟨⟨found, hfinds, hheld⟩, hs₁⟩
    have hsince : Accounts holdings s s₁ := accounts_of_since hfinds.since (by rw [hs₁])
    refine after_conclude_bind ?_ fun fault _ => hsince
    rintro _ rfl
    refine after_bind (after_add e s₁) ?_ (by simp)
    rintro n s₂ ⟨_, rfl⟩
    refine after_change_bind (after_record_bind fun s' hlog => after_pure ?_)
    obtain ⟨hlogs, hs'⟩ := hlog
    refine trans_of (Accounts holdings) (b := (s₁.1, s'.2)) ⟨found, hfinds, ?_⟩
      (accounts_of_since hlogs.asks rfl)
    have hholdings : holdings s'.2 = holdings s.2 ++ e.holdings := by
      rw [hs', holdings, holdings, environments_register, List.flatMap_append, hs₁]
      simp
    rw [hholdings]
    exact List.perm_append_comm.subperm.trans ((hheld _ e rfl).append (List.Subperm.refl _))
  · rintro fault s₁ ⟨⟨found, hfinds, _⟩, hs₁⟩
    exact accounts_of_since hfinds.since (by rw [hs₁])

theorem keeps_orderly_perform (name : RegistryName) (deed : Deed τ) :
    Keeps Orderly (deed.perform name : On σ τ (Fleet τ) Unit) := by
  cases deed with
  | provision r =>
    have haccounts : Keeps (Accounts holdings) (Deed.perform name (.provision r) : On σ τ (Fleet τ) Unit) :=
      (keeps_accounts_provision _).bind fun _ => .pure ()
    intro s
    refine ((haccounts s).and (after_provision name r s)).mono ?_
    rintro _ s' ⟨hmade, hprovisioned⟩
    refine ⟨hmade, fun hsound => ?_⟩
    generalize Deed.givesUp name s.1 (.provision r) = gone at hprovisioned
    cases hprovisioned with
    | @setUp e _ _ hregistry h hlog =>
      intro x hx
      rw [environments_register] at hx
      rcases List.mem_append.mp hx with hx | hx
      · exact hsound x hx
      · cases List.mem_singleton.mp hx
        exact .inr ⟨h.cleanup_eq, h.isComplete⟩
    | givenUp | refused => exact hsound
  | release n => exact keeps_orderly_release n
  | leave n ending => exact Keeps.always (.conclude ending) (keeps_orderly_release n)
  | issueCertificate n hostname options =>
    exact keeps_orderly_used n (Environment.keeps_accounts_issueCertificate hostname options)
      (Environment.keeps_issueCertificate hostname options)
  | startBackend n order =>
    exact keeps_orderly_used n (Environment.keeps_accounts_startBackend order)
      (Environment.keeps_startBackend order)
  | releaseAll => exact keeps_orderly_releaseAll name

/-! ## Processes -/

/-- A process is reached by any deeds with its environments, by operations on their backends, which keep their
containers, and by anything else that it does with the outside world. -/
inductive Reached : World σ τ × Fleet τ → Prop
  | start (w : World σ τ) : Reached (w, .empty)
  | deed {s : World σ τ × Fleet τ} (h : Reached s) (name : RegistryName) (deed : Deed τ) :
      Reached (stateAfter (deed.perform name) s)
  | backend {s : World σ τ × Fleet τ} (h : Reached s) (n m : Nat) {α : Type} {act : On σ τ (Backend τ) α}
      (hcontainer : Keeps (Same Backend.container) act) (hsince : Keeps (Beside Since) act) :
      Reached (stateAfter (onEnvironment n (Environment.onBackend m act)) s)
  | outside {s : World σ τ × Fleet τ} (h : Reached s) {α : Type} {act : Act σ τ α} (hsince : Keeps Since act) :
      Reached (stateAfter (world act) s)

omit [Host σ τ] in
/-- An operation on a backend changes nothing of its environment that a release needs. -/
theorem keeps_orderly_backend (n m : Nat) {act : On σ τ (Backend τ) α} (hcontainer : Keeps (Same Backend.container) act)
    (hsince : Keeps (Beside Since) act) :
    Keeps Orderly (onEnvironment n (Environment.onBackend m act) : On σ τ (Fleet τ) (Option (Option α))) := by
  have hback : Keeps (fun s s' : World σ τ × Environment τ => Since s.1 s'.1 ∧
      s'.2.holdings = s.2.holdings ∧ (s.2.IsSound → s'.2.IsSound)) (Environment.onBackend m act) := by
    intro s
    unfold After Environment.onBackend On.member
    cases hm : s.2.backends[m]? with
    | none => exact ⟨refl_of Since s.1, rfl, id⟩
    | some b =>
      have hkept := (hcontainer (s.1, b)).and (hsince (s.1, b))
      have hdone {w' : World σ τ} {b' : Backend τ} (hw : Since s.1 w') (hb : b'.container = b.container) :
          let e' : Environment τ := { s.2 with backends := s.2.backends.set m b' }
          Since s.1 w' ∧ e'.holdings = s.2.holdings ∧ (s.2.IsSound → e'.IsSound) := by
        refine ⟨hw, ?_, id⟩
        obtain ⟨hlt, rfl⟩ := List.getElem?_eq_some_iff.mp hm
        have hcontainers : (s.2.backends.set m b').map (·.container) = s.2.backends.map (·.container) := by
          have hself := List.set_getElem_self
            (show m < (s.2.backends.map (·.container)).length by rwa [List.length_map])
          rwa [List.getElem_map, ← hb, ← List.map_set] at hself
        have hthings := congrArg (List.map (Sum.inl (β := Network))) hcontainers
        simp only [List.map_map, Function.comp_def] at hthings
        rw [Environment.holdings, Environment.holdings, hthings]
      unfold After at hkept
      dsimp only
      cases hrun : act (s.1, b) with
      | ok a t =>
        rw [hrun] at hkept
        exact hdone hkept.2 hkept.1
      | error e t =>
        rw [hrun] at hkept
        exact hdone hkept.2 hkept.1
  exact keeps_orderly_onEnvironment n (hback.mono fun _ _ hkept => accounts_of_since hkept.1 hkept.2.1)
    (hback.mono fun _ _ hkept => hkept.2.2)

/-- By induction on how the process came there: what is held was made, and every environment can be released or was. -/
theorem reached_orderly {s : World σ τ × Fleet τ} (h : Reached s) :
    (holdings s.2).Subperm (made s.1) ∧ s.2.IsSound := by
  have hstep {s : World σ τ × Fleet τ} {α : Type} {act : On σ τ (Fleet τ) α} (hact : Keeps Orderly act)
      (h : (holdings s.2).Subperm (made s.1) ∧ s.2.IsSound) :
      (holdings (stateAfter act s).2).Subperm (made (stateAfter act s).1) ∧ (stateAfter act s).2.IsSound := by
    obtain ⟨⟨found, hfinds, hheld⟩, hsound⟩ : Orderly s (stateAfter act s) := After.stateAfter (hact s)
    refine ⟨?_, hsound h.2⟩
    rw [hfinds.made_eq]
    exact hheld.trans ((List.subperm_append_left found).mpr h.1)
  induction h with
  | start w =>
    have hsound : (empty : Fleet τ).IsSound := by simp [IsSound, empty]
    exact ⟨List.nil_subperm, hsound⟩
  | deed _ name deed ih => exact hstep (keeps_orderly_perform name deed) ih
  | backend _ n m hcontainer hsince ih => exact hstep (keeps_orderly_backend n m hcontainer hsince) ih
  | outside _ hsince ih => exact hstep (keeps_orderly_world hsince) ih

end

/-! ## The release of an environment -/

/-- The request stops, starts, restarts or removes the container, or takes something off the network or removes it. -/
def Alters : Thing → ProxyTestbed.Request τ → Prop
  | .inl c, r => (∃ timeout, r = .docker (.stop c timeout)) ∨ r = .docker (.start c) ∨
      (∃ timeout, r = .docker (.restart c timeout)) ∨ r = .docker (.remove c)
  | .inr n, r => (∃ c, r = .docker (.disconnect n c)) ∨ r = .docker (.removeNetwork n)

omit [Seconds τ] in
/-- A step alters what it releases and nothing else. -/
theorem eq_of_alters {step : CleanupStep} {r : ProxyTestbed.Request τ} {thing : Thing} (hstep : step.Concerns r)
    (h : Alters thing r) : (∃ c timeout, step = .container c timeout ∧ thing = .inl c) ∨
      ∃ n, step = .network n ∧ thing = .inr n := by
  cases step with
  | container c timeout =>
    rcases thing with c' | n
    · rcases hstep with rfl | rfl <;> simp_all [Alters]
    · rcases hstep with rfl | rfl <;> simp [Alters] at h
  | network n =>
    rcases thing with c | n'
    · rcases hstep with rfl | ⟨_, rfl⟩ | rfl <;> simp [Alters] at h
    · rcases hstep with rfl | ⟨_, rfl⟩ | rfl <;> simp_all [Alters]
  | directory path =>
    cases hstep
    rcases thing with c | n <;> simp [Alters] at h

/-- The fleet when its environment with the number has become `e` and is taken from its registry. -/
def discharge (n : Nat) (e : Environment τ) (f : Fleet τ) : Fleet τ :=
  let f := { f with environments := f.environments.set n e }
  match e.registry with
  | none => f
  | some name => f.unregister name e.id

variable [Host σ τ]

/-- In the process that was `s` the environment `e` with a number was released with these groups of calls, and the
release ended in `r`. -/
structure Contained (n : Nat) (e : Environment τ) (s : World σ τ × Fleet τ) (r : Except (Fault τ) Unit)
    (gs : List (StepRun CleanupStep τ × List (Exchange τ))) (s' : World σ τ × Fleet τ) : Prop where
  groups : Groups s.1 gs s'.1
  /-- Nothing is asked but the calls of the groups. -/
  asked : Exchanges s.1 (callsOf gs) s'.1
  /-- The steps are those for the proxy, the network and the directory, in this order, and all of them, if only
  exceptions are answered. -/
  own : ∃ scratch network proxy, e.scratch = some scratch ∧ e.network = some network ∧ e.proxy = some proxy ∧
    gs.map (·.1.step) <+:
      [.container proxy CleanupStep.usualStopTimeout, .network network, .directory scratch] ∧
    (CleanupStep.Excepted (callsOf gs) → r = .ok () ∧ gs.map (·.1.step) =
      [.container proxy CleanupStep.usualStopTimeout, .network network, .directory scratch])
  /-- Where the daemon made no thing twice, the backends and the other environments are spared. -/
  spares : (made s.1).Nodup → ∀ m e', s.2.environments[m]? = some e' → ∀ x ∈ callsOf gs,
    (∀ b ∈ e'.backends, ¬ Alters (.inl b.container) x.1) ∧
      (m ≠ n → ∀ thing ∈ e'.holdings, ¬ Alters thing x.1)
  /-- Of the files, the directory of the environment is gone with all that was in it, if its deletion was granted, and
  nothing else is changed. -/
  files : ∀ scratch, e.scratch = some scratch →
    (CleanupStep.Granted scratch (callsOf gs) → s.1.files.Clears scratch s'.1.files) ∧
      (¬ CleanupStep.Granted scratch (callsOf gs) → s'.1.files = s.1.files)
  fleet : ∃ cleanup, s'.2 = s.2.discharge n { e with state := .destroyed, cleanup }

section

variable {s : World σ τ × Fleet τ} {n m : Nat} {e e' : Environment τ}

omit [Host σ τ] in
theorem not_mem_holdings (hnodup : (holdings s.2).Nodup) (hn : s.2.environments[n]? = some e)
    (hm : s.2.environments[m]? = some e') (hne : m ≠ n) {thing : Thing} (h : thing ∈ e.holdings) :
    thing ∉ e'.holdings := by
  obtain ⟨hlt, rfl⟩ := List.getElem?_eq_some_iff.mp hn
  obtain ⟨hlt', rfl⟩ := List.getElem?_eq_some_iff.mp hm
  have hpairwise := List.pairwise_iff_getElem.mp (List.nodup_flatMap.mp hnodup).2
  rcases Nat.lt_or_gt_of_ne hne with hless | hless
  · exact fun h' => hpairwise m n hlt' hlt hless h' h
  · exact fun h' => hpairwise n m hlt hlt' hless h h'

omit [Host σ τ] in
theorem container_ne_of_mem {proxy : Container} (hnodup : e.holdings.Nodup) (hproxy : e.proxy = some proxy)
    {b : Backend τ} (hb : b ∈ e.backends) : b.container ≠ proxy := by
  have hmem : Sum.inl proxy ∈ e.network.toList.map (.inr : Network → Thing) ++ e.proxy.toList.map .inl :=
    List.mem_append_right _ (by simp [hproxy])
  have hne := (List.nodup_append.mp hnodup).2.2 _ hmem _ (List.mem_map_of_mem hb)
  exact fun heq => hne (congrArg Sum.inl heq.symm)

omit [Host σ τ] in
theorem forget_eq (e : Environment τ) (w : World σ τ) (f : Fleet τ) : forget e (w, f) =
    .ok () (w, match e.registry with | none => f | some name => f.unregister name e.id) := by
  unfold forget
  cases e.registry <;> rfl

omit [Host σ τ] in
/-- No call of a release alters what a backend or another environment holds. -/
theorem spares_of_groups {gs : List (StepRun CleanupStep τ × List (Exchange τ))} {w' : World σ τ}
    {scratch : Path} {network : Network} {proxy : Container} (hheld : (holdings s.2).Subperm (made s.1))
    (hn : s.2.environments[n]? = some e) (hnetwork : e.network = some network) (hproxy : e.proxy = some proxy)
    (hgroups : Groups s.1 gs w') (hsteps : gs.map (·.1.step) <+:
      [.container proxy CleanupStep.usualStopTimeout, .network network, .directory scratch])
    (hmade : (made s.1).Nodup) (hm : s.2.environments[m]? = some e') : ∀ x ∈ callsOf gs,
      (∀ b ∈ e'.backends, ¬ Alters (.inl b.container) x.1) ∧
        (m ≠ n → ∀ thing ∈ e'.holdings, ¬ Alters thing x.1) := by
  intro x hx
  have hnodup : (holdings s.2).Nodup := by
    obtain ⟨l, hperm, hsublist⟩ := hheld
    exact hperm.nodup_iff.mp (hmade.sublist hsublist)
  have hown {thing : Thing} (h : Alters thing x.1) : thing = .inl proxy ∨ thing = .inr network := by
    obtain ⟨g, hg, hxg⟩ := List.mem_flatMap.mp hx
    obtain ⟨t, t', hcalls⟩ := hgroups.exists_calls hg
    have hstep := hsteps.subset (List.mem_map_of_mem hg)
    rcases eq_of_alters (hcalls.concerns x hxg) h with ⟨c, timeout, heq, rfl⟩ | ⟨k, heq, rfl⟩
    · simp only [heq] at hstep
      simp_all
    · simp only [heq] at hstep
      simp_all
  have hproxyMem : .inl proxy ∈ e.holdings := by simp [Environment.holdings, hproxy]
  have hnetworkMem : .inr network ∈ e.holdings := by simp [Environment.holdings, hnetwork]
  have hother (hne : m ≠ n) {thing : Thing} (hthing : thing ∈ e'.holdings) : ¬ Alters thing x.1 := by
    intro h
    rcases hown h with rfl | rfl
    · exact not_mem_holdings hnodup hn hm hne hproxyMem hthing
    · exact not_mem_holdings hnodup hn hm hne hnetworkMem hthing
  refine ⟨fun b hb => ?_, fun hne thing hthing => hother hne hthing⟩
  by_cases hne : m = n
  · subst hne
    cases hn.symm.trans hm
    have hownNodup := (List.nodup_flatMap.mp hnodup).1 e (List.mem_of_getElem? hn)
    intro h
    rcases hown h with heq | heq
    · exact container_ne_of_mem hownNodup hproxy hb (Sum.inl.inj heq)
    · cases heq
  · exact hother hne (List.mem_append_right _ (List.mem_map_of_mem hb))

theorem after_release_groups (hn : s.2.environments[n]? = some e) (hover : ¬ e.isOver = true)
    (hheld : e.cleanup = .holding e.id e.resources) : After (release n) s fun r s' => ∃ gs cleanup,
      RunsGroups e.resources.reverse s.1 gs s'.1 (r = .ok ()) ∧
        s'.2 = s.2.discharge n { e with state := .destroyed, cleanup } := by
  have htear : After (do let _ ← onEnvironment n Environment.tearDown : On σ τ (Fleet τ) Unit) s fun r s₁ =>
      ∃ gs cleanup, RunsGroups e.resources.reverse s.1 gs s₁.1 (r = .ok ()) ∧ s₁.2 = { s.2 with
        environments := s.2.environments.set n { e with state := .destroyed, cleanup } } := by
    have hon : After (onEnvironment n Environment.tearDown) s fun r s₁ => ∃ gs cleanup,
        RunsGroups e.resources.reverse s.1 gs s₁.1 (∃ a, r = .ok a) ∧ s₁.2 = { s.2 with
          environments := s.2.environments.set n { e with state := .destroyed, cleanup } } := by
      refine after_onEnvironment (by simp [hn]) fun e₀ he₀ => ?_
      cases hn.symm.trans he₀
      refine (Environment.after_tearDown_groups s.1 hheld).mono ?_
      rintro r ⟨w₁, e₁⟩ ⟨gs, cleanup, hruns, rfl⟩
      refine ⟨gs, cleanup, hruns.mono ?_, rfl⟩
      rintro rfl
      exact ⟨_, rfl⟩
    refine after_bind hon ?_ ?_
    · rintro a s₁ ⟨gs, cleanup, hruns, hs₁⟩
      exact after_pure ⟨gs, cleanup, hruns.mono fun _ => rfl, hs₁⟩
    · rintro fault s₁ ⟨gs, cleanup, hruns, hs₁⟩
      exact ⟨gs, cleanup, hruns.mono (by simp), hs₁⟩
  unfold release
  refine after_object_bind ?_
  rw [hn]
  refine after_ite (fun h => absurd h hover) fun _ => after_always htear ?_
  rintro r ⟨w₁, f₁⟩ ⟨gs, cleanup, hruns, rfl⟩
  rw [After, forget_eq]
  exact ⟨gs, cleanup, hruns, rfl⟩

/-- A block that ends with a release that ends normally ends as it would without the release. -/
theorem attempt_closing {block : On σ τ (Fleet τ) α} {s₀ s' : World σ τ × Fleet τ} {outcome : Except (Fault τ) α}
    (hblock : attempt block s₀ = .ok outcome s) (hrelease : release n s = .ok () s') :
    attempt (closing n block) s₀ = .ok outcome s' := by
  have hclosing : closing n block s₀ = conclude outcome s' := by
    simp only [closing, always, bind, EStateM.bind, hblock, hrelease]
  have hattempt := attempt_conclude outcome s'
  unfold attempt at hattempt ⊢
  rwa [hclosing]

end

/-- **What a release leaves alone.** However a process came to where it is, the release of one of its environments does
nothing, if the environment is over, or makes the calls of the steps for its own proxy, network and directory, in this
order and each group whatever became of those before, and changes this environment alone, neither its backends nor
others, and of the files those in its directory. Unless something other than an exception is answered, all groups are
made and the release ends normally; and whenever it does, a block that it ends has the outcome that the block has without
it. -/
theorem release_contained {s : World σ τ × Fleet τ} (h : Reached s) (n : Nat) :
    After (release n) s fun r s' =>
      ((r = .ok () ∧ s' = s ∧ ∀ e, s.2.environments[n]? = some e → e.isOver = true) ∨
        ∃ e gs, s.2.environments[n]? = some e ∧ Contained n e s r gs s') ∧
      (r = .ok () → ∀ (α : Type) (block : On σ τ (Fleet τ) α) (s₀ : World σ τ × Fleet τ)
        (outcome : Except (Fault τ) α), attempt block s₀ = .ok outcome s →
          attempt (closing n block) s₀ = .ok outcome s') := by
  obtain ⟨hheld, hsound⟩ := reached_orderly h
  have hblocks : After (release n) s fun r s' => r = .ok () → ∀ (α : Type) (block : On σ τ (Fleet τ) α)
      (s₀ : World σ τ × Fleet τ) (outcome : Except (Fault τ) α), attempt block s₀ = .ok outcome s →
        attempt (closing n block) s₀ = .ok outcome s' := by
    refine (after_run (release n) s).mono ?_
    rintro _ s' hrun rfl α block s₀ outcome hblock
    exact attempt_closing hblock (of_attempt_ok hrun)
  refine After.and ?_ hblocks
  cases hn : s.2.environments[n]? with
  | none =>
    refine (after_release_number n s).mono ?_
    rintro r s' (⟨hr, hs', _⟩ | ⟨e, _, _, he, _⟩)
    · exact .inl ⟨hr, hs', by simp⟩
    · cases hn.symm.trans he
  | some e =>
    by_cases hover : e.isOver = true
    · refine (after_release_number n s).mono ?_
      rintro r s' (⟨hr, hs', _⟩ | ⟨e', _, _, he', hnot, _⟩)
      · refine .inl ⟨hr, hs', ?_⟩
        rintro _ ⟨⟩
        exact hover
      · cases hn.symm.trans he'
        exact absurd hover hnot
    · obtain ⟨hc, hcomplete⟩ := (hsound e (List.mem_of_getElem? hn)).resolve_left hover
      obtain ⟨scratch, network, proxy, hscratch, hnetwork, hproxy, hresources⟩ :=
        Environment.exists_of_isComplete hcomplete
      refine (after_release_groups hn hover hc).mono ?_
      rintro r s' ⟨gs, cleanup, ⟨hgroups, hsteps, hall⟩, hfleet⟩
      rw [hresources] at hsteps hall
      refine .inr ⟨e, gs, rfl, hgroups, hgroups.exchanges, ⟨scratch, network, proxy, hscratch, hnetwork, hproxy, hsteps, hall⟩,
        fun hmade m e' hm => ?_, fun path hpath => ?_, cleanup, hfleet⟩
      · exact spares_of_groups hheld hn hnetwork hproxy hgroups hsteps hmade hm
      · cases hscratch.symm.trans hpath
        have hothers : ∀ step ∈ [.container proxy CleanupStep.usualStopTimeout, .network network],
            ∀ p, step ≠ CleanupStep.directory p := by
          simp
        exact hgroups.files hothers hsteps

end Fleet

/-- A daemon that gives every thing a number of its own, and fails to stop containers and to remove networks. -/
structure CountingDaemon where
  count : Nat
  /-- What is attached to its network. -/
  attached : List Container

def CountingDaemon.failure : Fault Rat :=
  .foreign (.plain (.docker .api) "server error")

instance : Host CountingDaemon Rat where
  answer r h := match r with
    | .docker (.createNetwork name _) => (.ok ⟨h.count, name⟩, { h with count := h.count + 1 })
    | .docker (.create plan) =>
      (.ok ⟨h.count, plan.name⟩, ⟨h.count + 1, h.attached ++ [⟨h.count, plan.name⟩]⟩)
    | .docker (.inspectNetwork _) => (.ok h.attached, h)
    | .docker (.disconnect _ c) | .docker (.remove c) => (.ok (), { h with attached := h.attached.erase c })
    | .docker (.logs _ _) => (.ok (Text.utf8 "WebServer started successfully"), h)
    | .docker (.inspect _) => (.ok InterruptedDaemon.report, h)
    | .docker (.findImage _) | .docker (.start _) => (.ok (), h)
    | .file _ _ | .setTimeout _ _ | .closeSocket _ => (.ok (), h)
    | .connect _ _ _ => (.ok 0, h)
    | .receiveByte _ => (.ok (Text.utf8 "a"), h)
    | _ => (.error CountingDaemon.failure, h)
  now _ := 0
  sleep _ h := h
  wallClock _ := ⟨⟨2024, 2, 28⟩, 12, 0, 0, 0, some 0⟩
  freshId h := ("00000001", h)
  env _ := []
  temporaryDirectory _ := ⟨.here, []⟩
  freshEnding h := ("0001", h)

namespace Fleet

def plainBackend : Environment.BackendOrder Rat :=
  ⟨none, [], "80/tcp", .null, none, none⟩

-- irreducible, since it is costly to compute
/-- A process with an environment and a backend of it. -/
@[irreducible] def busy : World CountingDaemon Rat × Fleet Rat :=
  let begun : World CountingDaemon Rat × Fleet Rat := (⟨⟨0, []⟩, ⟨[], []⟩, []⟩, .empty)
  let provisioned := stateAfter (Deed.perform .shared (.provision plainRequest)) begun
  stateAfter (Deed.perform .shared (.startBackend 0 plainBackend)) provisioned

/-- The proxy cannot be stopped and the network cannot be removed, and the backend is spared and the directory is
deleted. -/
theorem release_contained_busy :
    After (release 0) busy fun r s' => r = .ok () ∧ (made busy.1).Nodup ∧
      busy.1.files.entries ≠ [] ∧ s'.1.files.entries = [] ∧ ∃ e gs,
      busy.2.environments[0]? = some e ∧ e.backends.length = 1 ∧ Contained 0 e busy r gs s' := by
  have hreached : Reached busy := by
    rw [busy]
    exact ((Reached.start _).deed .shared _).deed .shared _
  have hmade : (made busy.1).Nodup := by decide +kernel
  have hbusy : busy.2.environments.map (fun e => (e.isOver, e.backends.length)) = [(false, 1)] := by
    decide +kernel
  have hends : After (release 0) busy fun r s' => r.toOption = some () ∧ busy.1.files.entries ≠ [] ∧
      s'.1.files.entries = [] := by
    decide +kernel
  refine (hends.and (release_contained hreached 0)).mono ?_
  rintro r s' ⟨⟨hr, hfull, hempty⟩, hcases, _⟩
  obtain rfl : r = .ok () := by
    cases r with
    | ok _ => rfl
    | error _ => cases hr
  have hone (e : Environment Rat) (he : busy.2.environments[0]? = some e) :
      e.isOver = false ∧ e.backends.length = 1 := by
    have hmap := congrArg (·[0]?) hbusy
    simpa [List.getElem?_map, he] using hmap
  rcases hcases with ⟨_, _, hover⟩ | ⟨e, gs, he, hcontained⟩
  · have hexists : ∃ e, busy.2.environments[0]? = some e := by
      have hmap := congrArg (·[0]?) hbusy
      cases he : busy.2.environments[0]? with
      | none => simp [List.getElem?_map, he] at hmap
      | some e => exact ⟨e, rfl⟩
    obtain ⟨e, he⟩ := hexists
    have hnot := (hone e he).1
    rw [hover e he] at hnot
    cases hnot
  · exact ⟨rfl, hmade, hfull, hempty, e, gs, he, (hone e he).2, hcontained⟩

end Fleet

end ProxyTestbed
