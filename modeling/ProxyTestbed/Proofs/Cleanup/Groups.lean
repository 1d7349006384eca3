import ProxyTestbed.Proofs.Cleanup.Requests
import ProxyTestbed.Proofs.File.Spared

/-!
# The calls of a release

Every release step makes a group of calls: a container is stopped and removed, a network is looked at, taken off the
containers that are attached to it and removed, and a directory is deleted. A group ends early where a call fails, and
its end says whether the step fails. A release makes the groups of its steps one after another, and no other calls.
It changes no files but by the deletion of directories.

* `CleanupStep.after_run_calls`: the group of a step.
* `Calls.concerns`, `Calls.isException`: what the calls of a group are about, and where its fault comes from.
* `Groups.exchanges`: the groups of a whole release are all its calls.
* `Groups.files`: what becomes of the files.
* `Cleanup.after_release_groups`: which groups a release makes.
-/

namespace ProxyTestbed

variable {σ τ : Type}

/-! ## Exchanges -/

/-- A request with its answer. -/
abbrev Exchange (τ : Type) := (r : Request τ) × Except (Fault τ) r.Answer

def Event.exchange? : Event τ → Option (Exchange τ)
  | .asked r a => some ⟨r, a⟩
  | _ => none

/-- Between `w` and `w'` just these requests were asked and answered, the earliest first. -/
abbrev Exchanges (w : World σ τ) (xs : List (Exchange τ)) (w' : World σ τ) : Prop :=
  Finds Event.exchange? w xs.reverse w'

section

variable {w w₁ w₂ : World σ τ}

theorem Event.exchange?_of_not_asked (e : Event τ) (h : ∀ r a, e ≠ .asked r a) : e.exchange? = none := by
  cases e with
  | asked r a => exact absurd rfl (h r a)
  | _ => rfl

theorem Exchanges.trans {xs ys : List (Exchange τ)} (h : Exchanges w xs w₁) (h' : Exchanges w₁ ys w₂) :
    Exchanges w (xs ++ ys) w₂ := by
  have hall := Finds.trans h h'
  rwa [← List.reverse_append] at hall

theorem exchanges_asked {r : Request τ} {a : Except (Fault τ) r.Answer} (h : w₁.past = .asked r a :: w.past) :
    Exchanges w [⟨r, a⟩] w₁ :=
  finds_asked h

theorem Exchanges.cons {r : Request τ} {a : Except (Fault τ) r.Answer} {xs : List (Exchange τ)}
    (h : w₁.past = .asked r a :: w.past) (h' : Exchanges w₁ xs w₂) : Exchanges w (⟨r, a⟩ :: xs) w₂ :=
  (exchanges_asked h).trans h'

theorem Logs.exchanges (h : Logs w w₁) : Exchanges w [] w₁ :=
  h.finds Event.exchange?_of_not_asked

end

/-! ## Deleted directories -/

namespace FileTree

/-- From `t` to `t'` the directory that a path leads to goes with all that is in it, but for the root, and nothing else
changes. -/
structure Clears (path : Path) (t t' : FileTree) : Prop where
  home : t'.home = t.home
  gone : ∀ l, t.look path = .ok (l, .directory) → ∀ l', l' ≠ [] → l <+: l' → t'.entryAt? l' = none
  others : ∀ l', (∀ l, t.look path = .ok (l, .directory) → ¬ l <+: l') → t'.entryAt? l' = t.entryAt? l'

variable {t t' : FileTree} {path : Path}

theorem clears_deleteDirectory (h : t.deleteDirectory path = .ok t') : Clears path t t' := by
  obtain ⟨⟨l, e⟩, hlook, h⟩ := bind_eq_ok_iff.mp h
  cases e with
  | file content mode => cases h
  | directory =>
    cases h
    refine ⟨rfl, fun l₁ hl₁ l' hroot hbelow => ?_, fun l' hbeside => ?_⟩
    · cases hlook.symm.trans hl₁
      rw [entryAt?_deleteBelow hroot, if_pos (List.isPrefixOf_iff_prefix.mpr hbelow)]
    · by_cases hroot : l' = []
      · rw [hroot, entryAt?_nil, entryAt?_nil]
      · rw [entryAt?_deleteBelow hroot, if_neg]
        exact fun h => hbeside l hlook (List.isPrefixOf_iff_prefix.mp h)

/-- Only a directory can be deleted so. -/
theorem clears_of_error {problem : FileProblem} (h : t.deleteDirectory path = .error problem) : Clears path t t := by
  refine ⟨rfl, fun l hlook => ?_, fun _ _ => rfl⟩
  rw [deleteDirectory, hlook] at h
  cases h

end FileTree

namespace CleanupStep

/-! ## The group of a step -/

/-- What is answered when a thing that the daemon does not have is no fault. -/
def forgiven : Except (Fault τ) Unit → Except (Fault τ) Unit
  | .ok () => .ok ()
  | .error e => if e.comesFrom Foreign.isNotFound then .ok () else .error e

/-- A container was taken off a network. -/
def taken (n : Network) (c : Container) : Exchange τ :=
  ⟨.docker (.disconnect n c), .ok ()⟩

/-- An operation on a file that was done, or could not be done. -/
def IsDone (r : Except (Fault τ) Unit) : Prop :=
  ∀ e, r = .error e → ∃ (problem : FileProblem) (shown : String), e = .foreign (problem.toForeign shown)

/-- The calls of a step that begins with the files `t`, its end, and the files then. -/
inductive Calls (t : FileTree) : CleanupStep → List (Exchange τ) → Except (Fault τ) Unit → FileTree → Prop
  /-- There is no such container. -/
  | gone {c : Container} {timeout : Int} {e : Fault τ} (he : e.comesFrom Foreign.isNotFound = true) :
      Calls t (.container c timeout) [⟨.docker (.stop c timeout), .error e⟩] (.ok ()) t
  /-- Something other than the daemon keeps the container from being stopped. -/
  | unstopped {c : Container} {timeout : Int} {e : Fault τ} (hfound : e.comesFrom Foreign.isNotFound = false)
      (hother : e.comesFrom Foreign.isApi = false) :
      Calls t (.container c timeout) [⟨.docker (.stop c timeout), .error e⟩] (.error e) t
  /-- A container is removed when it was stopped, or when the daemon could not stop it. -/
  | removed {c : Container} {timeout : Int} {stopped removed : Except (Fault τ) Unit}
      (hstopped : ∀ e, stopped = .error e →
        e.comesFrom Foreign.isNotFound = false ∧ e.comesFrom Foreign.isApi = true) :
      Calls t (.container c timeout) [⟨.docker (.stop c timeout), stopped⟩, ⟨.docker (.remove c), removed⟩]
        (forgiven removed) t
  /-- The network cannot be looked at. -/
  | unseen {n : Network} {e : Fault τ} :
      Calls t (.network n) [⟨.docker (.inspectNetwork n), .error e⟩] (forgiven (.error e)) t
  /-- One of the containers cannot be taken off the network. -/
  | attached {n : Network} {before later : List Container} {c : Container} {e : Fault τ} :
      Calls t (.network n) (⟨.docker (.inspectNetwork n), .ok (before ++ c :: later)⟩ ::
        (before.map (taken n) ++ [⟨.docker (.disconnect n c), .error e⟩])) (forgiven (.error e)) t
  | takenOff {n : Network} {cs : List Container} {removed : Except (Fault τ) Unit} :
      Calls t (.network n) (⟨.docker (.inspectNetwork n), .ok cs⟩ ::
        (cs.map (taken n) ++ [⟨.docker (.removeNetwork n), removed⟩])) (forgiven removed) t
  /-- There is no such directory, or nothing can be said about it. -/
  | noDirectory {path : Path} {r : Except (Fault τ) Unit} (h : t.hasEntry path ≠ .ok true) (hr : IsDone r) :
      Calls t (.directory path) [] r t
  | refused {path : Path} {e : Fault τ} (h : t.hasEntry path = .ok true) :
      Calls t (.directory path) [⟨.file .deleteTree path, .error e⟩] (.error e) t
  | deleted {path : Path} {r : Except (Fault τ) Unit} {t' : FileTree} (h : t.hasEntry path = .ok true) (hr : IsDone r)
      (hfiles : t.Clears path t') : Calls t (.directory path) [⟨.file .deleteTree path, .ok ()⟩] r t'

section

variable {t t' : FileTree} {step : CleanupStep} {calls : List (Exchange τ)} {r : Except (Fault τ) Unit}

theorem forgiven_eq_error {e : Fault τ} (h : forgiven r = .error e) : r = .error e := by
  unfold forgiven at h
  split at h
  · cases h
  · split at h
    · cases h
    · exact h

/-- A request about what a step releases. -/
def Concerns : CleanupStep → Request τ → Prop
  | .container c timeout, r => r = .docker (.stop c timeout) ∨ r = .docker (.remove c)
  | .network n, r =>
    r = .docker (.inspectNetwork n) ∨ (∃ c, r = .docker (.disconnect n c)) ∨ r = .docker (.removeNetwork n)
  | .directory path, r => r = .file .deleteTree path

theorem Calls.concerns (h : Calls t step calls r t') : ∀ x ∈ calls, step.Concerns x.1 := by
  intro x hx
  cases h with
  | gone | unstopped =>
    cases List.mem_singleton.mp hx
    exact .inl rfl
  | removed =>
    rcases List.mem_pair.mp hx with rfl | rfl
    · exact .inl rfl
    · exact .inr rfl
  | unseen =>
    cases List.mem_singleton.mp hx
    exact .inl rfl
  | attached =>
    rcases List.mem_cons.mp hx with rfl | hx
    · exact .inl rfl
    · rcases List.mem_append.mp hx with hx | hx
      · obtain ⟨c, _, rfl⟩ := List.mem_map.mp hx
        exact .inr (.inl ⟨c, rfl⟩)
      · cases List.mem_singleton.mp hx
        exact .inr (.inl ⟨_, rfl⟩)
  | takenOff =>
    rcases List.mem_cons.mp hx with rfl | hx
    · exact .inl rfl
    · rcases List.mem_append.mp hx with hx | hx
      · obtain ⟨c, _, rfl⟩ := List.mem_map.mp hx
        exact .inr (.inl ⟨c, rfl⟩)
      · cases List.mem_singleton.mp hx
        exact .inr (.inr rfl)
  | noDirectory => cases hx
  | refused | deleted =>
    cases List.mem_singleton.mp hx
    rfl

/-- All answers that are faults are exceptions. -/
def Excepted (calls : List (Exchange τ)) : Prop :=
  ∀ x ∈ calls, ∀ e, x.2 = .error e → e.isException = true

/-- The fault of a step was answered to one of its calls, or it is a problem with files. -/
theorem Calls.isException (h : Calls t step calls r t') (hcalls : Excepted calls) {e : Fault τ} (he : r = .error e) :
    e.isException = true := by
  have hdone (hr : IsDone r) : e.isException = true := by
    obtain ⟨problem, shown, rfl⟩ := hr e he
    exact isException_toForeign problem shown
  cases h with
  | gone => cases he
  | unstopped =>
    cases he
    exact hcalls _ List.mem_cons_self e rfl
  | removed =>
    exact hcalls _ (List.mem_cons_of_mem _ List.mem_cons_self) e (forgiven_eq_error he)
  | unseen =>
    cases forgiven_eq_error he
    exact hcalls _ List.mem_cons_self e rfl
  | attached =>
    cases forgiven_eq_error he
    exact hcalls _ (List.mem_cons_of_mem _ (List.mem_append_right _ List.mem_cons_self)) e rfl
  | takenOff =>
    have hfault := forgiven_eq_error he
    exact hcalls _ (List.mem_cons_of_mem _ (List.mem_append_right _ List.mem_cons_self)) e hfault
  | noDirectory _ hr => exact hdone hr
  | refused =>
    cases he
    exact hcalls _ List.mem_cons_self e rfl
  | deleted _ hr => exact hdone hr

/-- The deletion of the tree at a path was granted. -/
def Granted (path : Path) (calls : List (Exchange τ)) : Prop :=
  ⟨.file .deleteTree path, .ok ()⟩ ∈ calls

/-- Only a step for a directory changes the files. -/
theorem Calls.files_eq (h : Calls t step calls r t') (hstep : ∀ path, step ≠ .directory path) : t' = t := by
  cases h with
  | noDirectory | refused | deleted => exact absurd rfl (hstep _)
  | _ => rfl

theorem Calls.not_granted (h : Calls t step calls r t') (hstep : ∀ path, step ≠ .directory path) (path : Path) :
    ¬ Granted path calls := by
  intro hgranted
  have hconcerns := h.concerns _ hgranted
  cases step with
  | container c timeout => simp [Concerns] at hconcerns
  | network n => simp [Concerns] at hconcerns
  | directory p => exact hstep p rfl

/-- The step for a directory clears it, if that is granted. -/
theorem Calls.files_directory {path : Path} (h : Calls t (.directory path) calls r t') :
    (Granted path calls → t.Clears path t') ∧ (¬ Granted path calls → t' = t) := by
  cases h with
  | noDirectory => exact ⟨fun h => absurd h List.not_mem_nil, fun _ => rfl⟩
  | refused => exact ⟨fun h => by simp [Granted] at h, fun _ => rfl⟩
  | deleted _ _ hfiles => exact ⟨fun _ => hfiles, fun h => absurd List.mem_cons_self h⟩

end

section

variable [Host σ τ] {w : World σ τ}

/-- The rule for a call and what is done with its answer. -/
theorem after_exchange_bind {α : Type} {r : Request τ} {f : Except (Fault τ) r.Answer → Act σ τ α}
    {P : Except (Fault τ) α → World σ τ → Prop}
    (h : ∀ a w₁, w₁.past = .asked r a :: w.past → w₁.files = w.files → After (f a) w₁ P) :
    After (attempt (ask r) >>= f) w P := by
  refine after_attempt_bind (after_ask r w) ?_
  rintro a w₁ ⟨_, hfiles, _, hpast⟩
  exact h a w₁ hpast hfiles

omit [Host σ τ] in
theorem after_unlessMissing_of {act : Act σ τ Unit} {Q : Except (Fault τ) Unit → World σ τ → Prop}
    (h : After act w fun r w' => Q (forgiven r) w') : After (unlessMissing act) w Q := by
  refine after_attempt_bind h fun r w₁ hr => ?_
  cases r with
  | ok u => exact after_pure hr
  | error e =>
    refine after_ite (fun hfound => ?_) fun hfound => ?_
    · simp only [forgiven, if_pos hfound] at hr
      exact after_pure hr
    · simp only [forgiven, if_neg hfound] at hr
      exact after_throw hr

theorem after_removeContainer_calls (c : Container) (w : World σ τ) :
    After (removeContainer c) w fun r w' =>
      w'.files = w.files ∧ ∃ removed, Exchanges w [⟨.docker (.remove c), removed⟩] w' ∧ r = forgiven removed := by
  refine after_unlessMissing_of ((after_docker (.remove c) w).mono ?_)
  rintro r w' ⟨_, hfiles, _, hpast⟩
  exact ⟨hfiles, r, exchanges_asked hpast, rfl⟩

theorem after_releaseContainer_calls [Seconds τ] (owner : String) (c : Container) (timeout : Int) (w : World σ τ) :
    After (releaseContainer owner c timeout) w fun r w' =>
      ∃ calls, Exchanges w calls w' ∧ Calls w.files (.container c timeout) calls r w'.files := by
  refine after_exchange_bind fun stopped w₁ hpast hfiles => ?_
  have hremoved {w₂ : World σ τ} (hlogs : Logs w₁ w₂) (hstopped : ∀ e, stopped = .error e →
      e.comesFrom Foreign.isNotFound = false ∧ e.comesFrom Foreign.isApi = true) :
      After (removeContainer c) w₂ fun r w' =>
        ∃ calls, Exchanges w calls w' ∧ Calls w.files (.container c timeout) calls r w'.files := by
    refine (after_removeContainer_calls c w₂).mono ?_
    rintro r w₃ ⟨hfiles₃, removed, hasked, rfl⟩
    rw [hfiles₃, hlogs.files, hfiles]
    exact ⟨_, .cons hpast (hlogs.exchanges.trans hasked), .removed hstopped⟩
  cases stopped with
  | ok u => exact hremoved (refl_of Logs w₁) (by simp)
  | error e =>
    refine after_ite (fun hfound => ?_) fun hfound => after_ite (fun hapi => ?_) fun hapi => ?_
    · exact after_pure ⟨_, exchanges_asked hpast, hfiles ▸ .gone hfound⟩
    · refine after_record_act_bind fun w₂ hlogs => hremoved hlogs ?_
      rintro _ ⟨⟩
      exact ⟨Bool.eq_false_iff.mpr hfound, hapi⟩
    · exact after_throw ⟨_, exchanges_asked hpast,
        hfiles ▸ .unstopped (Bool.eq_false_iff.mpr hfound) (Bool.eq_false_iff.mpr hapi)⟩

/-- By induction on the containers that are left: those before were taken off, and one of them may not be. -/
theorem after_disconnectAll_calls (owner : String) (n : Network) (cs : List Container) (w : World σ τ) :
    After (disconnectAll owner n cs) w fun r w' => w'.files = w.files ∧
      ((r = .ok () ∧ Exchanges w (cs.map (taken n)) w') ∨
      ∃ before c later e, cs = before ++ c :: later ∧ r = .error e ∧
        Exchanges w (before.map (taken n) ++ [⟨.docker (.disconnect n c), .error e⟩]) w') := by
  induction cs generalizing w with
  | nil => exact after_pure ⟨rfl, .inl ⟨rfl, (refl_of Logs w).exchanges⟩⟩
  | cons c rest ih =>
    refine after_record_act_bind fun w₁ hlogs => ?_
    refine after_bind (after_docker (.disconnect n c) w₁) ?_ ?_
    · rintro _ w₂ ⟨_, hfiles, _, hpast⟩
      have hfirst : Exchanges w [taken n c] w₂ := hlogs.exchanges.trans (exchanges_asked hpast)
      refine (ih w₂).mono ?_
      rintro r w₃ ⟨hfiles₃, hends⟩
      refine ⟨by rw [hfiles₃, hfiles, hlogs.files], ?_⟩
      rcases hends with ⟨hr, hrest⟩ | ⟨before, c', later, e, rfl, hr, hrest⟩
      · exact .inl ⟨hr, hfirst.trans hrest⟩
      · exact .inr ⟨c :: before, c', later, e, rfl, hr, hfirst.trans hrest⟩
    · rintro e w₂ ⟨_, hfiles, _, hpast⟩
      refine ⟨by rw [hfiles, hlogs.files], .inr ⟨[], c, rest, e, rfl, rfl, ?_⟩⟩
      exact hlogs.exchanges.trans (exchanges_asked hpast)

theorem after_releaseNetwork_calls (owner : String) (n : Network) (w : World σ τ) :
    After (releaseNetwork owner n) w fun r w' =>
      ∃ calls, Exchanges w calls w' ∧ Calls w.files (.network n) calls r w'.files := by
  refine after_unlessMissing_of (after_bind (after_docker (.inspectNetwork n) w) ?_ ?_)
  · rintro cs w₁ ⟨_, hfiles, _, hpast⟩
    refine after_bind (after_disconnectAll_calls owner n cs w₁) ?_ ?_
    · rintro _ w₂ ⟨hfiles₂, ⟨_, htaken⟩ | ⟨_, _, _, _, _, hr, _⟩⟩
      · refine (after_docker (.removeNetwork n) w₂).mono ?_
        rintro r w₃ ⟨_, hfiles₃, _, hpast₃⟩
        rw [hfiles₃, hfiles₂, hfiles]
        exact ⟨_, .cons hpast (htaken.trans (exchanges_asked hpast₃)), .takenOff⟩
      · cases hr
    · rintro e w₂ ⟨hfiles₂, ⟨hr, _⟩ | ⟨before, c, later, e', rfl, hr, htaken⟩⟩
      · cases hr
      · cases hr
        rw [hfiles₂, hfiles]
        exact ⟨_, .cons hpast htaken, .attached⟩
  · rintro e w₁ ⟨_, hfiles, _, hpast⟩
    rw [hfiles]
    exact ⟨_, exchanges_asked hpast, .unseen⟩

theorem after_releaseDirectory_calls (path : Path) (w : World σ τ) :
    After (releaseDirectory path) w fun r w' =>
      ∃ calls, Exchanges w calls w' ∧ Calls w.files (.directory path) calls r w'.files := by
  refine after_bind (after_look_files _ (·.hasEntry path) w) ?_ ?_
  · rintro there w₁ ⟨rfl, ⟨_, hentry, ⟨⟩⟩ | ⟨_, _, ⟨⟩⟩⟩
    refine after_ite (fun hthere => ?_) fun hthere => ?_
    · rw [hthere] at hentry
      refine after_bind (after_ask _ w₁) ?_ ?_
      · rintro _ w₂ ⟨_, hfiles, _, hpast⟩
        refine (after_change_files _ _ w₂).mono ?_
        rw [hfiles]
        rintro r w₃ (⟨t, hdelete, rfl, rfl⟩ | ⟨problem, hdelete, rfl, rfl⟩)
        · exact ⟨_, exchanges_asked hpast, .deleted hentry (by simp [IsDone]) (FileTree.clears_deleteDirectory hdelete)⟩
        · rw [hfiles]
          refine ⟨_, exchanges_asked hpast, .deleted hentry ?_ (FileTree.clears_of_error hdelete)⟩
          rintro _ ⟨⟩
          exact ⟨problem, _, rfl⟩
      · rintro e w₂ ⟨_, hfiles, _, hpast⟩
        rw [hfiles]
        exact ⟨_, exchanges_asked hpast, .refused hentry⟩
    · refine after_pure ⟨[], (refl_of Logs w₁).exchanges, .noDirectory ?_ (by simp [IsDone])⟩
      rw [hentry]
      simpa using hthere
  · rintro e w₁ ⟨rfl, ⟨_, _, ⟨⟩⟩ | ⟨problem, hentry, ⟨⟩⟩⟩
    refine ⟨[], (refl_of Logs w₁).exchanges, .noDirectory (by simp [hentry]) ?_⟩
    rintro _ ⟨⟩
    exact ⟨problem, _, rfl⟩

theorem after_run_calls [Seconds τ] (owner : String) (step : CleanupStep) (w : World σ τ) :
    After (step.run owner) w fun r w' =>
      ∃ calls, Exchanges w calls w' ∧ Calls w.files step calls r w'.files := by
  cases step with
  | container c timeout => exact after_releaseContainer_calls owner c timeout w
  | network n => exact after_releaseNetwork_calls owner n w
  | directory path => exact after_releaseDirectory_calls path w

end

end CleanupStep

/-! ## The groups of a release -/

/-- From `w` to `w'` steps ran one after another, each with its group of calls, and nothing was asked beside. -/
inductive Groups : World σ τ → List (StepRun CleanupStep τ × List (Exchange τ)) → World σ τ → Prop
  | nil {w w' : World σ τ} (h : Logs w w') : Groups w [] w'
  | cons {w w₁ w₂ w' : World σ τ} {x : StepRun CleanupStep τ} {calls : List (Exchange τ)}
      {gs : List (StepRun CleanupStep τ × List (Exchange τ))} (h : Logs w w₁)
      (hcalls : x.step.Calls w₁.files calls x.ending w₂.files) (hasked : Exchanges w₁ calls w₂)
      (hrest : Groups w₂ gs w') : Groups w ((x, calls) :: gs) w'

/-- The calls of all groups. -/
def callsOf (gs : List (StepRun CleanupStep τ × List (Exchange τ))) : List (Exchange τ) :=
  gs.flatMap (·.2)

section

variable {w w₁ w' : World σ τ} {gs : List (StepRun CleanupStep τ × List (Exchange τ))}

theorem groups_of_trail [Seconds τ] [Host σ τ] {owner : String} {runs : List (StepRun CleanupStep τ)}
    (ht : Trail (CleanupStep.run owner) Logs w runs w') : ∃ gs, Groups w gs w' ∧ gs.map (·.1) = runs := by
  induction ht with
  | nil h => exact ⟨[], .nil h, rfl⟩
  | @cons _ s₁ s₂ _ x xs h hx _ ih =>
    obtain ⟨gs, hgs, hruns⟩ := ih
    obtain ⟨calls, hasked, hcalls⟩ := (CleanupStep.after_run_calls owner x.step s₁).attempted hx
    exact ⟨(x, calls) :: gs, .cons h hcalls hasked hgs, by rw [List.map_cons, hruns]⟩

theorem Groups.after_logs (h : Logs w w₁) (hgs : Groups w₁ gs w') : Groups w gs w' := by
  cases hgs with
  | nil h' => exact .nil (trans_of Logs h h')
  | cons h' hcalls hasked hrest => exact .cons (trans_of Logs h h') hcalls hasked hrest

/-- Nothing is asked between the groups. -/
theorem Groups.exchanges (h : Groups w gs w') : Exchanges w (callsOf gs) w' := by
  induction h with
  | nil h => exact h.exchanges
  | cons h _ hasked _ ih => exact h.exchanges.trans (hasked.trans ih)

theorem Groups.exists_calls (h : Groups w gs w') {g : StepRun CleanupStep τ × List (Exchange τ)} (hg : g ∈ gs) :
    ∃ t t' : FileTree, g.1.step.Calls t g.2 g.1.ending t' := by
  induction h with
  | nil => cases hg
  | cons _ hcalls _ _ ih =>
    rcases List.mem_cons.mp hg with rfl | hg
    · exact ⟨_, _, hcalls⟩
    · exact ih hg

theorem Groups.unbroken (h : Groups w gs w') (hcalls : CleanupStep.Excepted (callsOf gs)) :
    Unbroken (gs.map (·.1)) := by
  intro x hx e he
  obtain ⟨g, hg, rfl⟩ := List.mem_map.mp hx
  obtain ⟨t, t', hgroup⟩ := h.exists_calls hg
  exact hgroup.isException (fun y hy => hcalls y (List.mem_flatMap.mpr ⟨g, hg, hy⟩)) he

/-- Of the files, a release of other things and then of a directory changes nothing but this directory: by induction on
the groups. -/
theorem Groups.files {steps : List CleanupStep} {path : Path} (h : Groups w gs w')
    (hother : ∀ step ∈ steps, ∀ p, step ≠ .directory p)
    (hsteps : gs.map (·.1.step) <+: steps ++ [.directory path]) :
    (CleanupStep.Granted path (callsOf gs) → w.files.Clears path w'.files) ∧
      (¬ CleanupStep.Granted path (callsOf gs) → w'.files = w.files) := by
  induction h generalizing steps with
  | nil h => exact ⟨fun hgranted => absurd hgranted List.not_mem_nil, fun _ => h.files⟩
  | @cons _ _ _ _ x calls gs h hcalls _ hrest ih =>
    rw [List.map_cons] at hsteps
    cases steps with
    | nil =>
      obtain ⟨hstep, hlast⟩ := List.cons_prefix_cons.mp hsteps
      obtain rfl : gs = [] := List.map_eq_nil_iff.mp (List.prefix_nil.mp hlast)
      obtain hlogs : Logs _ _ := by
        cases hrest
        assumption
      dsimp only at hstep
      rw [hstep] at hcalls
      rw [hlogs.files, ← h.files]
      simpa [callsOf] using hcalls.files_directory
    | cons step steps =>
      obtain ⟨hstep, hsteps⟩ := List.cons_prefix_cons.mp hsteps
      have hplain : ∀ p, x.step ≠ .directory p := hstep ▸ hother step List.mem_cons_self
      have hmore := ih (fun s hs => hother s (List.mem_cons_of_mem _ hs)) hsteps
      have hgranted : CleanupStep.Granted path (callsOf ((x, calls) :: gs)) ↔ CleanupStep.Granted path (callsOf gs) := by
        rw [callsOf, List.flatMap_cons, CleanupStep.Granted, List.mem_append]
        exact or_iff_right (hcalls.not_granted hplain path)
      rwa [hgranted, ← h.files, ← hcalls.files_eq hplain]

/-- From `w` to `w'` the steps were run in their order, and all of them, up to an end, if only exceptions were
answered. -/
structure RunsGroups (steps : List CleanupStep) (w : World σ τ)
    (gs : List (StepRun CleanupStep τ × List (Exchange τ))) (w' : World σ τ) (ends : Prop) : Prop where
  groups : Groups w gs w'
  inOrder : gs.map (·.1.step) <+: steps
  all : CleanupStep.Excepted (callsOf gs) → ends ∧ gs.map (·.1.step) = steps

section

variable {steps : List CleanupStep} {ends ends' : Prop}

theorem RunsGroups.mono (h : RunsGroups steps w gs w' ends) (himp : ends → ends') :
    RunsGroups steps w gs w' ends' :=
  ⟨h.groups, h.inOrder, fun hexcepted => (h.all hexcepted).imp_left himp⟩

theorem RunsGroups.after_logs (hlogs : Logs w w₁) (h : RunsGroups steps w₁ gs w' ends) :
    RunsGroups steps w gs w' ends :=
  ⟨h.groups.after_logs hlogs, h.inOrder, h.all⟩

end

theorem Cleanup.after_release_groups [Seconds τ] [Host σ τ] (w : World σ τ) (owner : String)
    (steps : List CleanupStep) : After release (w, holding owner steps) fun r s' => ∃ gs,
      RunsGroups steps.reverse w gs s'.1 (∃ failures, r = .ok failures) := by
  refine (after_release_holding w owner steps).mono ?_
  rintro r s' ⟨runs, ⟨htrail, hinOrder, hall⟩, hok, _⟩
  obtain ⟨gs, hgroups, rfl⟩ := groups_of_trail htrail
  rw [List.map_map] at hinOrder hall
  refine ⟨gs, hgroups, hinOrder, fun hexcepted => ?_⟩
  have hunbroken := hgroups.unbroken hexcepted
  exact ⟨hok hunbroken, hall hunbroken⟩

end

end ProxyTestbed
