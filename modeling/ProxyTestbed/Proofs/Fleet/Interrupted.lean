import ProxyTestbed.Proofs.Fleet.Course

/-!
# Interrupted releases

An interruption of a release step leaves the release there. The environment is destroyed and taken from the
registry all the same, so the steps that have not begun are lost: no release comes back to them.

* `lost_of_course`: after any deeds and a release of all that is registered, an environment has lost steps if
  and only if one of its steps was broken off before the last one.
-/

namespace ProxyTestbed

variable {σ τ : Type} [Seconds τ]

/-- The runs of the steps of an owner, in their order. -/
def runsOf (owner : String) (runs : List (StepRun (String × CleanupStep) τ)) : List (StepRun CleanupStep τ) :=
  (runs.filter (·.step.1 = owner)).map fun x => ⟨x.step.2, x.ending⟩

section

variable {owner : String} {runs runs' : List (StepRun (String × CleanupStep) τ)}

omit [Seconds τ]

theorem runsOf_append : runsOf owner (runs ++ runs') = runsOf owner runs ++ runsOf owner runs' := by
  simp [runsOf]

theorem runsOf_of_none (h : ∀ x ∈ runs, x.step.1 ≠ owner) : runsOf owner runs = [] := by
  rw [runsOf, List.filter_eq_nil_iff.mpr (by simpa using h), List.map_nil]

theorem runsOf_map_of (xs : List (StepRun CleanupStep τ)) : runsOf owner (xs.map (.of owner)) = xs := by
  have hall : (xs.map (StepRun.of owner)).filter (·.step.1 = owner) = xs.map (.of owner) := by
    refine List.filter_eq_self.mpr fun x hx => ?_
    obtain ⟨y, _, rfl⟩ := List.mem_map.mp hx
    simp [StepRun.of]
  rw [runsOf, hall, List.map_map]
  exact List.map_id _

end

namespace Fleet

/-- An environment is live and none of its steps has run, or it is destroyed and they ran through. -/
def Account (runs : List (StepRun (String × CleanupStep) τ)) (e : Environment τ) : Prop :=
  (e.isLive = true ∧ e.cleanup = .holding e.id e.resources ∧ runsOf e.id runs = []) ∨
    (e.state = .destroyed ∧ RanThrough e.resources (runsOf e.id runs))

/-- The environments of a fleet are listed and accounted for. -/
structure Accounted (name : RegistryName) (f : Fleet τ) (givenUp : List (Environment τ))
    (runs : List (StepRun (String × CleanupStep) τ)) : Prop extends Listed name f givenUp runs where
  accounts : ∀ e ∈ f.environments, Account runs e

section

variable {name : RegistryName} {f : Fleet τ} {givenUp : List (Environment τ)}
  {past runs : List (StepRun (String × CleanupStep) τ)} {n : Nat} {e e' : Environment τ}

theorem Account.append_of_ne (h : Account past e) (hne : ∀ x ∈ runs, x.step.1 ≠ e.id) :
    Account (past ++ runs) e := by
  rw [Account, runsOf_append, runsOf_of_none hne, List.append_nil]
  exact h

theorem Accounted.set_alike (h : Accounted name f givenUp past) (hn : f.environments[n]? = some e)
    (halike : Environment.Alike e e') :
    Accounted name { f with environments := f.environments.set n e' } givenUp past := by
  refine ⟨h.toListed.set_alike hn halike, fun x hx => ?_⟩
  rcases List.mem_or_eq_of_mem_set hx with hx | rfl
  · exact h.accounts x hx
  · rw [Account, halike.id, halike.cleanup, halike.resources, halike.isLive]
    rcases h.accounts e (List.mem_of_getElem? hn) with hlive | ⟨hdead, hruns⟩
    · exact .inl hlive
    · have hno : e.isLive = false := by simp [Environment.isLive, hdead]
      exact .inr ⟨(halike.state hno).trans hdead, hruns⟩

theorem Accounted.add (h : Accounted name f givenUp past)
    (hids : ((f.environments ++ [e] ++ givenUp).map (·.id)).Nodup) (hregistry : e.registry = some name)
    (hlive : e.isLive = true) (hheld : e.cleanup = .holding e.id e.resources) (hcomplete : e.IsComplete) :
    Accounted name (({ f with environments := f.environments ++ [e] }).register name e.id
      (.environment f.environments.length)) givenUp past := by
  have hone : Account past e :=
    .inl ⟨hlive, hheld, runsOf_of_none (h.ne_owner (not_mem_of_nodup_add hids))⟩
  refine ⟨h.toListed.add hids hregistry hlive hcomplete, ?_⟩
  rw [environments_register]
  simpa [or_imp, forall_and] using ⟨h.accounts, hone⟩

theorem Accounted.giveUp (h : Accounted name f givenUp past)
    (hids : ((f.environments ++ (givenUp ++ [e])).map (·.id)).Nodup)
    (howner : ∀ x ∈ runs, x.step.1 = e.id) : Accounted name f (givenUp ++ [e]) (past ++ runs) := by
  refine ⟨h.toListed.giveUp hids howner, fun x hx => (h.accounts x hx).append_of_ne fun y hy hid => ?_⟩
  rw [howner y hy] at hid
  refine not_mem_of_nodup_giveUp hids (hid ▸ ?_)
  exact List.mem_map_of_mem (List.mem_append_left _ hx)

variable [Host σ τ]

theorem Accounted.discharge {s s' : World σ τ × Fleet τ} {r : Except (Fault τ) Unit}
    (h : Accounted name s.2 givenUp past) (hn : s.2.environments[n]? = some e) (hover : ¬ e.isOver = true)
    (hd : Discharged n e s r runs e' s') : Accounted name s'.2 givenUp (past ++ runs) := by
  have hmem := List.mem_of_getElem? hn
  obtain ⟨hheld, hnone⟩ : e.cleanup = .holding e.id e.resources ∧ runsOf e.id past = [] := by
    rcases h.accounts e hmem with ⟨_, hheld, hnone⟩ | ⟨hdead, _⟩
    · exact ⟨hheld, hnone⟩
    · simp [Environment.isOver, hdead] at hover
  have hperformed := hd.performed hheld
  refine ⟨?_, fun x hx => ?_⟩
  · rw [hd.unregistered name (h.registered e hmem)]
    exact h.toListed.set_dead hn hd.id hd.registry hd.resources hd.isLive hperformed.owner_eq
  · rw [hd.environments] at hx
    rcases mem_set_of_distinct h.ids_nodup hn hx with rfl | ⟨hx, hne⟩
    · obtain ⟨xs, rfl, hthrough, _⟩ := hperformed
      refine .inr ⟨hd.state, ?_⟩
      rw [hd.id, hd.resources, runsOf_append, hnone, List.nil_append, runsOf_map_of]
      exact hthrough
    · refine (h.accounts x hx).append_of_ne fun y hy hid => hne ?_
      rw [← hid, hperformed.owner_eq y hy]

end

/-! ## Deeds -/

section

variable [Host σ τ]

/-- Since `w` steps ran that account for the environments of a fleet. -/
def AccountedSince (name : RegistryName) (w : World σ τ) (givenUp : List (Environment τ))
    (s : World σ τ × Fleet τ) : Prop :=
  ∃ runs, Chronicle w runs s.1 ∧ Accounted name s.2 givenUp runs

variable {name : RegistryName} {w : World σ τ} {givenUp : List (Environment τ)} {s : World σ τ × Fleet τ}

theorem AccountedSince.still (h : AccountedSince name w givenUp s) {w' : World σ τ} (hstill : Still s.1 w') :
    AccountedSince name w givenUp (w', s.2) := by
  obtain ⟨runs, ht, hacc⟩ := h
  exact ⟨runs, ht.before_gap hstill, hacc⟩

theorem AccountedSince.use (h : AccountedSince name w givenUp s) {n : Nat} {e e' : Environment τ}
    {w' : World σ τ} (hn : s.2.environments[n]? = some e) (hstill : Still s.1 w')
    (halike : Environment.Alike e e') :
    AccountedSince name w givenUp (w', { s.2 with environments := s.2.environments.set n e' }) := by
  obtain ⟨runs, ht, hacc⟩ := h
  exact ⟨runs, ht.before_gap hstill, hacc.set_alike hn halike⟩

theorem AccountedSince.after_release (h : AccountedSince name w givenUp s) (n : Nat) :
    After (release n) s fun _ s' => AccountedSince name w givenUp s' ∧ Fewer s.2 s'.2 ∧
      ∀ e, s'.2.environments[n]? = some e → e.isLive = false := by
  refine (after_release_number n s).mono ?_
  rintro r s' (⟨rfl, rfl, hover⟩ | ⟨e, runs, e', hn, hover, hd⟩)
  · exact ⟨h, refl_of Fewer s'.2, fun e he => e.isLive_of_isOver (hover e he)⟩
  · -- interrupted or not, the environment is destroyed and unregistered
    obtain ⟨past, ht, hacc⟩ := h
    exact ⟨⟨past ++ runs, ht.append hd.chronicle, hacc.discharge hn hover hd⟩, hd.fewer hn⟩

theorem AccountedSince.after_releaseEach {l : List (String × Tenant)}
    (hall : ∀ p ∈ l, ∃ n, p.2 = .environment n) (h : AccountedSince name w givenUp s) :
    After (releaseEach l) s fun r s' => AccountedSince name w givenUp s' ∧ Fewer s.2 s'.2 ∧
      (r = .ok () → ∀ p ∈ l, ∀ n, p.2 = .environment n →
        ∀ e, s'.2.environments[n]? = some e → e.isLive = false) := by
  -- the registry changes under the loop, but its list was taken before; the dead stay dead by `Fewer`
  induction l generalizing s with
  | nil => exact after_pure ⟨h, refl_of Fewer s.2, by simp⟩
  | cons p l ih =>
    obtain ⟨id, tenant⟩ := p
    obtain ⟨k, rfl⟩ := hall _ List.mem_cons_self
    unfold releaseEach
    refine after_record_bind fun s₀ hlog => ?_
    obtain ⟨w₀, f₀⟩ := s₀
    obtain ⟨hlog, rfl⟩ := hlog
    refine after_bind ((h.still hlog.asks).after_release k) ?_ ?_
    · intro _ s₁ hpost
      obtain ⟨h₁, hfewer, hdead⟩ := hpost
      refine (ih (fun p hp => hall p (List.mem_cons_of_mem _ hp)) h₁).mono ?_
      intro r s' hpost
      obtain ⟨h₂, hfewer', hdead'⟩ := hpost
      refine ⟨h₂, trans_of Fewer hfewer hfewer', fun hr p hp n hn e he => ?_⟩
      rcases List.mem_cons.mp hp with rfl | hp
      · cases hn
        exact hfewer'.dead hdead e he
      · exact hdead' hr p hp n hn e he
    · rintro fault s₁ ⟨h₁, hfewer, -⟩
      exact ⟨h₁, hfewer, by simp⟩

theorem AccountedSince.after_releaseAll (h : AccountedSince name w givenUp s) :
    After (releaseAll name) s fun r s' => AccountedSince name w givenUp s' ∧
      (r = .ok () → ∀ e ∈ s'.2.environments, e.isLive = false) := by
  obtain ⟨runs, -, hacc⟩ := id h
  unfold releaseAll
  refine after_object_bind ((h.after_releaseEach (exists_of_mem_registry hacc.registry)).mono ?_)
  rintro r s' ⟨h', hfewer, hdead⟩
  exact ⟨h', fun hr => hfewer.all_dead hacc.registry (hdead hr)⟩

theorem Provisioned.accountedSince {config : ProxyConfig} {gone : List (Environment τ)}
    {s' : World σ τ × Fleet τ} (hprovisioned : Provisioned name config s gone s')
    (h : AccountedSince name w givenUp s)
    (hids : ((s'.2.environments ++ (givenUp ++ gone)).map (·.id)).Nodup) :
    AccountedSince name w (givenUp ++ gone) s' := by
  obtain ⟨runs, ht, hacc⟩ := h
  cases hprovisioned with
  | setUp hregistry hsetUp hlog =>
    rw [environments_register, List.append_nil] at hids
    rw [List.append_nil]
    exact ⟨runs, ht.before_gap (trans_of Still hsetUp.still hlog.asks),
      hacc.add hids hregistry hsetUp.isLive hsetUp.cleanup_eq hsetUp.isComplete⟩
  | givenUp hgone =>
    obtain ⟨runs', ht', howner, -⟩ := hgone.exists_chronicle
    exact ⟨runs ++ runs', ht.append ht', hacc.giveUp hids howner⟩
  | refused hstill =>
    rw [List.append_nil]
    exact ⟨runs, ht.before_gap hstill, hacc⟩

theorem AccountedSince.after_perform (h : AccountedSince name w givenUp s) (deed : Deed τ) :
    After (deed.perform name) s fun _ s' =>
      ((s'.2.environments ++ (givenUp ++ deed.givesUp name s.1)).map (·.id)).Nodup →
        AccountedSince name w (givenUp ++ deed.givesUp name s.1) s' := by
  have hstays {act : On σ τ (Fleet τ) Unit}
      (hact : After act s fun _ s' => AccountedSince name w givenUp s') :
      After act s fun _ (s' : World σ τ × Fleet τ) =>
        ((s'.2.environments ++ (givenUp ++ [])).map Environment.id).Nodup →
          AccountedSince name w (givenUp ++ []) s' := by
    simp only [List.append_nil]
    exact hact.mono fun _ _ h _ => h
  have hused {α : Type} (n : Nat) {act : On σ τ (Environment τ) α} (hact : Keeps Environment.Used act) :
      After (do let _ ← onEnvironment n act) s fun _ s' => AccountedSince name w givenUp s' :=
    after_use hact h fun _ _ _ => h.use
  cases deed with
  | provision r => exact (after_provision name r s).mono fun _ _ h' hids => h'.accountedSince h hids
  | release n => exact hstays ((h.after_release n).mono fun _ _ h' => h'.1)
  | leave n ending => exact hstays (after_closing ((h.after_release n).mono fun _ _ h' => h'.1))
  | issueCertificate n hostname options =>
    exact hstays (hused n (Environment.keeps_issueCertificate hostname options))
  | startBackend n order => exact hstays (hused n (Environment.keeps_startBackend order))
  | releaseAll => exact hstays (h.after_releaseAll.mono fun _ _ h' => h'.1)

/-! ## The course -/

theorem accountedSince_start (name : RegistryName) (w : World σ τ) :
    AccountedSince name w [] (w, .empty) := by
  have hregistry : (empty : Fleet τ).registry name = [] := by
    cases name <;> rfl
  exact ⟨[], .nil (refl_of Still w), ⟨List.nodup_nil, hregistry, by simp [empty], by simp [empty], by simp⟩,
    by simp [empty]⟩

theorem accountedSince_foldl {c : Course σ τ} (deeds : List (Deed τ))
    (h : (c.environments.map (·.id)).Nodup → AccountedSince name w c.givenUp (c.world, c.fleet)) :
    let c' := deeds.foldl (Course.advance name) c
    (c'.environments.map (·.id)).Nodup → AccountedSince name w c'.givenUp (c'.world, c'.fleet) := by
  induction deeds generalizing c with
  | nil => exact h
  | cons deed deeds ih =>
    refine ih fun hids => ?_
    have hnext := Course.advance_of_after ((h (Course.nodup_of_advance hids)).after_perform deed)
    rw [Course.environments, Course.advance_givenUp] at hids
    rw [Course.advance_givenUp]
    exact hnext hids

/-- **What an interrupted release loses.** After any deeds of a process and a release of all that stands in the
registry that ends normally, the registry is empty and every environment is destroyed. All release steps of an
environment have begun if and only if none was broken off by something that is no exception, but perhaps the
last one, which deletes the directory. If another one was broken off, those that come after it never begin. -/
theorem lost_of_course (name : RegistryName) (w : World σ τ) (deeds : List (Deed τ)) :
    let c := Course.after name w deeds
    (c.environments.map (·.id)).Nodup →
      After (releaseAll name) (c.world, c.fleet) fun r s' => ∃ runs, Chronicle w runs s'.1 ∧
        (r = .ok () → s'.2.live name = [] ∧ ∀ e ∈ s'.2.environments, e.state = .destroyed ∧
          ∃ path network proxy, e.resources =
              [.directory path, .network network, .container proxy CleanupStep.usualStopTimeout] ∧
            RanThrough e.resources (runsOf e.id runs) ∧
            ((∀ step ∈ e.resources, step ∈ (runsOf e.id runs).map (·.step)) ↔
              ∀ x ∈ runsOf e.id runs, x.BrokenOff → x.step = .directory path)) := by
  intro c hids
  have hcourse := accountedSince_foldl deeds (fun _ => accountedSince_start name w) hids
  -- no environment is live in the end, so each of them is accounted for by steps that ran through
  refine hcourse.after_releaseAll.mono ?_
  rintro r s' ⟨⟨runs, ht, hacc⟩, hdead⟩
  refine ⟨runs, ht, fun hr => ⟨?_, fun e he => ?_⟩⟩
  · rw [live, hacc.registry, keys_tenants, List.map_eq_nil_iff, List.filter_eq_nil_iff]
    exact fun e he => by simp [hdead hr e he]
  · obtain ⟨path, network, proxy, hresources⟩ := hacc.complete e he
    rcases hacc.accounts e he with ⟨hlive, _⟩ | ⟨hstate, hthrough⟩
    · rw [hdead hr e he] at hlive
      cases hlive
    · refine ⟨hstate, path, network, proxy, hresources, hthrough, ?_⟩
      rw [hresources] at hthrough ⊢
      exact hthrough.allBegun_iff (by simp)

end

end Fleet

/-- A daemon whose proxy is ready at once, and which is interrupted whenever it stops a container. -/
structure InterruptedDaemon where

/-- What the daemon tells about a proxy. -/
def InterruptedDaemon.report : ContainerReport :=
  let ports : Datum := .map [(.text "80/tcp", .list [.map [(.text "HostPort", .int 32768)]])]
  ⟨"running", .map [(.text "NetworkSettings", .map [(.text "Ports", ports)])]⟩

instance : Host InterruptedDaemon Rat where
  answer r h := match r with
    | .docker (.createNetwork name _) => (.ok ⟨0, name⟩, h)
    | .docker (.create plan) => (.ok ⟨0, plan.name⟩, h)
    | .docker (.logs _ _) => (.ok (Text.utf8 "WebServer started successfully"), h)
    | .docker (.inspect _) => (.ok InterruptedDaemon.report, h)
    | .docker (.stop _ _) => (.error (.foreign (.plain .interrupt "")), h)
    | .docker (.findImage _) | .docker (.start _) => (.ok (), h)
    | .file _ _ | .setTimeout _ _ | .closeSocket _ => (.ok (), h)
    | .connect _ _ _ => (.ok 0, h)
    | _ => (.error (.foreign (.plain (.docker .api) "server error")), h)
  now _ := 0
  sleep _ h := h
  wallClock _ := ⟨⟨2024, 2, 28⟩, 12, 0, 0, 0, some 0⟩
  freshId h := ("00000001", h)
  env _ := []
  temporaryDirectory _ := ⟨.here, []⟩
  freshEnding h := ("0001", h)

def InterruptedDaemon.world : World InterruptedDaemon Rat :=
  ⟨⟨⟩, ⟨[], []⟩, []⟩

/-- The step of a container is always broken off. -/
theorem InterruptedDaemon.brokenOff {owner : String} {c : Container} {timeout : Int}
    {runs : List (StepRun (String × CleanupStep) Rat)} {w w' : World InterruptedDaemon Rat}
    (ht : Chronicle w runs w') {x : StepRun CleanupStep Rat} (hx : x ∈ runsOf owner runs)
    (hstep : x.step = .container c timeout) : x.BrokenOff := by
  obtain ⟨y, hy, rfl⟩ := List.mem_map.mp hx
  obtain ⟨w₁, w₂, hrun⟩ := ht.exists_run (List.mem_filter.mp hy).1
  have hinterrupted : After (CleanupStep.run y.step.1 y.step.2) w₁ fun r _ =>
      ∃ e, r = .error e ∧ e.isException = false := by
    rw [show y.step.2 = .container c timeout from hstep]
    exact ⟨_, rfl, rfl⟩
  exact hinterrupted.attempted hrun

namespace Fleet

/-- An order for an environment with the standard settings. -/
def plainRequest : Request Rat :=
  ⟨none, .usual, .standard, false, .shared⟩

-- irreducible, since it is costly to compute
/-- A process that provisions an environment and is interrupted when it releases it. -/
@[irreducible] def interruptedCourse : Course InterruptedDaemon Rat :=
  .after .shared InterruptedDaemon.world [.provision plainRequest, .release 0]

/-- The stop of the proxy is interrupted, and the network and the directory are left for good. -/
theorem lost_of_course_interrupted :
    After (releaseAll .shared) (interruptedCourse.world, interruptedCourse.fleet) fun r s' =>
      r = .ok () ∧ ∃ runs, Chronicle InterruptedDaemon.world runs s'.1 ∧ ∃ e ∈ s'.2.environments,
        e.state = .destroyed ∧ ∃ step ∈ e.resources, step ∉ (runsOf e.id runs).map (·.step) := by
  have hids : (interruptedCourse.environments.map (·.id)).Nodup := by decide +kernel
  have hends : After (releaseAll .shared) (interruptedCourse.world, interruptedCourse.fleet) fun r s' =>
      r.toOption = some () ∧ s'.2.environments.length = 1 := by
    decide +kernel
  have hcourse := lost_of_course .shared InterruptedDaemon.world [.provision plainRequest, .release 0]
  rw [← interruptedCourse] at hcourse
  refine (hends.and (hcourse hids)).mono ?_
  rintro r s' ⟨⟨hr, hone⟩, runs, ht, hlost⟩
  obtain rfl : r = .ok () := by
    cases r with
    | ok _ => rfl
    | error _ => cases hr
  obtain ⟨-, hall⟩ := hlost rfl
  obtain ⟨e, he⟩ := List.length_eq_one_iff.mp hone
  have hmem : e ∈ s'.2.environments := he ▸ List.mem_cons_self
  obtain ⟨hstate, path, network, proxy, hresources, -, hiff⟩ := hall e hmem
  refine ⟨rfl, runs, ht, e, hmem, hstate, ?_⟩
  have hleft : ¬ ∀ step ∈ e.resources, step ∈ (runsOf e.id runs).map (·.step) := by
    intro hbegun
    have hstopped := hbegun (.container proxy CleanupStep.usualStopTimeout) (by simp [hresources])
    obtain ⟨x, hx, hstep⟩ := List.mem_map.mp hstopped
    have hlast := hiff.mp hbegun x hx (InterruptedDaemon.brokenOff ht hx hstep)
    cases hstep.symm.trans hlast
  simpa only [Classical.not_forall, exists_prop] using hleft

end Fleet

end ProxyTestbed
