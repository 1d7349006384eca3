import ProxyTestbed.Proofs.Cleanup.Steps
import ProxyTestbed.Proofs.Wait.Seen

/-!
# When a release is silent about a leak

A step that does not fail should have released its thing: the daemon removed it, or it has no such thing. So
it is with containers and directories. A network is taken off its containers first, and if one of them is
gone by then, the daemon says so, which is taken for the network's being gone: the network is left, and
nothing is recorded.

* `Cleanup.release_gone_iff`: of the steps that do not fail, the silent ones are just those.
-/

namespace ProxyTestbed

variable {σ τ : Type}

namespace CleanupStep

/-- The daemon or the system removed what the step releases, or the daemon said that it has no such thing. -/
def Confirms (step : CleanupStep) (e : Event τ) : Prop :=
  match step with
  | container c timeout =>
    e = .asked (.docker (.remove c)) (.ok ()) ∨ ∃ fault, fault.comesFrom Foreign.isNotFound = true ∧
      (e = .asked (.docker (.stop c timeout)) (.error fault) ∨
        e = .asked (.docker (.remove c)) (.error fault))
  | network n =>
    e = .asked (.docker (.removeNetwork n)) (.ok ()) ∨ ∃ fault, fault.comesFrom Foreign.isNotFound = true ∧
      (e = .asked (.docker (.inspectNetwork n)) (.error fault) ∨
        e = .asked (.docker (.removeNetwork n)) (.error fault))
  | directory path => e = .asked (.file .deleteTree path) (.ok ())

/-- A container was gone when it was to be taken off the network that the step releases. -/
def LosesContainer (step : CleanupStep) (e : Event τ) : Prop :=
  ∃ n c fault, step = .network n ∧ fault.comesFrom Foreign.isNotFound = true ∧
    e = .asked (.docker (.disconnect n c)) (.error fault)

/-- What the step releases was there no more at the end: its removal is confirmed, or nothing was at the path of
the directory. -/
def Gone (step : CleanupStep) (w w' : World σ τ) : Prop :=
  Seen step.Confirms w w' ∨ ∃ path, step = .directory path ∧ w.files.hasEntry path = .ok false

end CleanupStep

section

variable {p : Event τ → Prop} {w w' : World σ τ}

/-- Of the requests between `w` and `w'` none is answered as `p` says. -/
abbrev Unheard (p : Event τ → Prop) (w w' : World σ τ) : Prop :=
  Asks (fun r a => ¬ p (.asked r a)) w w'

theorem Unheard.not_seen (hp : ∀ e, p e → ∃ r a, e = .asked r a) (h : Unheard p w w') : ¬ Seen p w w' := by
  obtain ⟨es, hes, hno⟩ := h
  rintro ⟨late, e, early, hpast, he⟩
  obtain ⟨r, a, rfl⟩ := hp e he
  rw [hes, ← List.cons_append, ← List.append_assoc] at hpast
  refine hno r a ?_ he
  rw [List.append_cancel_right hpast]
  simp

end

namespace CleanupStep

theorem Confirms.exists_asked {step : CleanupStep} {e : Event τ} (h : step.Confirms e) :
    ∃ r a, e = .asked r a := by
  cases step with
  | container c timeout =>
    rcases h with rfl | ⟨fault, _, rfl | rfl⟩
    · exact ⟨_, _, rfl⟩
    · exact ⟨_, _, rfl⟩
    · exact ⟨_, _, rfl⟩
  | network n =>
    rcases h with rfl | ⟨fault, _, rfl | rfl⟩
    · exact ⟨_, _, rfl⟩
    · exact ⟨_, _, rfl⟩
    · exact ⟨_, _, rfl⟩
  | directory path => exact ⟨_, _, h⟩

theorem LosesContainer.exists_asked {step : CleanupStep} {e : Event τ} (h : step.LosesContainer e) :
    ∃ r a, e = .asked r a := by
  obtain ⟨_, _, _, _, _, rfl⟩ := h
  exact ⟨_, _, rfl⟩

/-- An act ended, or it did not find something. -/
def Settles (r : Except (Fault τ) Unit) : Prop :=
  r = .ok () ∨ ∃ e, r = .error e ∧ e.comesFrom Foreign.isNotFound = true

theorem after_unlessMissing {act : Act σ τ Unit} {w : World σ τ} {Q : World σ τ → Prop}
    (h : After act w fun r w' => Settles r → Q w') :
    After (unlessMissing act) w fun r w' => r = .ok () → Q w' := by
  refine after_attempt_bind h fun r w₁ hr => ?_
  cases r with
  | ok u => exact after_pure fun _ => hr (.inl rfl)
  | error e =>
    refine after_ite (fun hfound => ?_) fun _ => after_throw (by simp)
    exact after_pure fun _ => hr (.inr ⟨e, rfl, hfound⟩)

variable [Host σ τ]

theorem after_removeContainer (c : Container) (timeout : Int) (w : World σ τ) :
    After (removeContainer c) w fun r w' => r = .ok () → Seen (container c timeout).Confirms w w' := by
  refine after_unlessMissing ((after_docker (.remove c) w).mono ?_)
  rintro r w₁ ⟨_, _, _, hpast⟩ hsettles
  refine .of_last (refl_of (Asks fun _ _ => True) w) hpast ?_
  rcases hsettles with rfl | ⟨e, rfl, hfound⟩
  · exact .inl rfl
  · exact .inr ⟨e, hfound, .inr rfl⟩

theorem after_releaseContainer [Seconds τ] (owner : String) (c : Container) (timeout : Int) (w : World σ τ) :
    After (releaseContainer owner c timeout) w fun r w' =>
      r = .ok () → Seen (container c timeout).Confirms w w' := by
  refine after_attempt_bind (after_docker (.stop c timeout) w) ?_
  rintro (e | _) w₁ ⟨_, _, _, hpast⟩
  · have hasks : Asks (fun _ _ => True) w w₁ := (refl_of (Asks _) w).ask hpast trivial
    refine after_ite (fun hfound => after_pure fun _ => ?_) fun _ => after_ite (fun _ => ?_) fun _ => ?_
    · exact .of_last (refl_of (Asks fun _ _ => True) w) hpast (.inr ⟨e, hfound, .inl rfl⟩)
    · refine after_record_act_bind fun w₂ hlogs => (after_removeContainer c timeout w₂).mono ?_
      exact fun r w₃ h hr => (trans_of (Asks _) hasks hlogs.asks).seen (h hr)
    · exact after_throw (by simp)
  · have hasks : Asks (fun _ _ => True) w w₁ := (refl_of (Asks _) w).ask hpast trivial
    exact (after_removeContainer c timeout w₁).mono fun r w₂ h hr => hasks.seen (h hr)

/-- The removal of the network is confirmed, or a container that is gone keeps it from being asked for. -/
def Decided (n : Network) (w w' : World σ τ) : Prop :=
  Seen (network n).Confirms w w' ∧ Unheard (network n).LosesContainer w w' ∨
    Unheard (network n).Confirms w w' ∧ Seen (network n).LosesContainer w w'

theorem after_disconnectAll (owner : String) (n : Network) (cs : List Container) (w : World σ τ) :
    After (disconnectAll owner n cs) w fun r w' =>
      Unheard (network n).Confirms w w' ∧
      (r = .ok () → Unheard (network n).LosesContainer w w') ∧
      ∀ e, r = .error e → e.comesFrom Foreign.isNotFound = true →
        Seen (network n).LosesContainer w w' := by
  induction cs generalizing w with
  | nil => exact after_pure ⟨refl_of (Unheard _) w, fun _ => refl_of (Unheard _) w, by simp⟩
  | cons c rest ih =>
    refine after_record_act_bind fun w₁ hlogs => ?_
    have hunconfirmed (a : Except (Fault τ) Unit) :
        ¬ (network n).Confirms (.asked (.docker (.disconnect n c)) a) := by
      simp [Confirms]
    refine after_bind (after_docker (.disconnect n c) w₁) ?_ ?_
    · rintro _ w₂ ⟨_, _, _, hpast⟩
      have hconfirms : Unheard (network n).Confirms w w₂ := hlogs.asks.ask hpast (hunconfirmed _)
      have hloses : Unheard (network n).LosesContainer w w₂ := by
        refine hlogs.asks.ask hpast ?_
        rintro ⟨_, _, _, _, _, h⟩
        cases h
      refine (ih w₂).mono ?_
      rintro r w₃ ⟨hconfirms₃, hok, herror⟩
      exact ⟨trans_of (Unheard _) hconfirms hconfirms₃, fun hr => trans_of (Unheard _) hloses (hok hr),
        fun e hr hfound => hloses.seen (herror e hr hfound)⟩
    · rintro e w₂ ⟨_, _, _, hpast⟩
      refine ⟨hlogs.asks.ask hpast (hunconfirmed _), by simp, ?_⟩
      rintro _ ⟨⟩ hfound
      have hasks : Asks (fun _ _ => True) w w₁ := hlogs.asks
      exact .of_last hasks hpast ⟨n, c, e, rfl, hfound, rfl⟩

theorem after_releaseNetwork (owner : String) (n : Network) (w : World σ τ) :
    After (releaseNetwork owner n) w fun r w' => r = .ok () → Decided n w w' := by
  refine after_unlessMissing (after_bind (after_docker (.inspectNetwork n) w) ?_ ?_)
  · rintro attached w₁ ⟨_, _, _, hpast⟩
    have hunheard (p : Event τ → Prop) (hp : ¬ p (.asked (.docker (.inspectNetwork n)) (.ok attached))) :
        Unheard p w w₁ :=
      (refl_of (Unheard p) w).ask hpast hp
    have hconfirms : Unheard (network n).Confirms w w₁ := hunheard _ (by simp [Confirms])
    have hloses : Unheard (network n).LosesContainer w w₁ := hunheard _ (by simp [LosesContainer])
    refine after_bind (after_disconnectAll owner n attached w₁) ?_ ?_
    · rintro _ w₂ ⟨_, hok, _⟩
      have hloses₂ : Unheard (network n).LosesContainer w w₂ := trans_of (Unheard _) hloses (hok rfl)
      refine (after_docker (.removeNetwork n) w₂).mono ?_
      rintro r w₃ ⟨_, _, _, hpast₃⟩ hsettles
      refine .inl ⟨.of_last hloses₂ hpast₃ ?_, hloses₂.ask hpast₃ (by simp [LosesContainer])⟩
      rcases hsettles with rfl | ⟨e, rfl, hfound⟩
      · exact .inl rfl
      · exact .inr ⟨e, hfound, .inr rfl⟩
    · -- the handler is meant for the network, but a container that is gone ends up in it as well
      rintro e w₂ ⟨hconfirms₂, _, herror⟩ (h | ⟨_, ⟨⟩, hfound⟩)
      · cases h
      · exact .inr ⟨trans_of (Unheard _) hconfirms hconfirms₂, hconfirms.seen (herror e rfl hfound)⟩
  · rintro e w₁ ⟨_, _, _, hpast⟩ (h | ⟨_, ⟨⟩, hfound⟩)
    · cases h
    · refine .inl ⟨.of_last (refl_of (Asks fun _ _ => True) w) hpast (.inr ⟨e, hfound, .inl rfl⟩), ?_⟩
      exact (refl_of (Unheard _) w).ask hpast (by simp [LosesContainer])

theorem after_releaseDirectory (path : Path) (w : World σ τ) :
    After (releaseDirectory path) w fun r w' => r = .ok () → (directory path).Gone w w' := by
  refine after_bind (after_look_files _ (·.hasEntry path) w) ?_ (by simp)
  rintro there w₁ ⟨rfl, ⟨_, hentry, ⟨⟩⟩ | ⟨_, _, ⟨⟩⟩⟩
  cases there with
  | false => exact after_pure fun _ => .inr ⟨path, rfl, hentry⟩
  | true =>
    refine after_bind (after_ask _ w₁) ?_ (by simp)
    rintro _ w₂ ⟨_, _, _, hpast⟩
    refine (keeps_change_files (P := fun _ _ => True) _ _ w₂).mono fun r w₃ hasks _ => .inl ?_
    have hseen : Seen (directory path).Confirms w₁ w₂ :=
      .of_last (refl_of (Asks fun _ _ => True) w₁) hpast rfl
    exact hseen.asks hasks

/-- A step that does not fail released its thing, unless it lost a container on the way. -/
theorem after_run_gone [Seconds τ] (owner : String) (step : CleanupStep) (w : World σ τ) :
    After (step.run owner) w fun r w' => r = .ok () → (step.Gone w w' ↔ ¬ Seen step.LosesContainer w w') := by
  have hother (hstep : ∀ n, step ≠ network n) (w' : World σ τ) : ¬ Seen step.LosesContainer w w' := by
    rintro ⟨_, _, _, _, n, _, _, h, _⟩
    exact hstep n h
  cases step with
  | container c timeout =>
    refine (after_releaseContainer owner c timeout w).mono fun r w' h hr => ?_
    exact iff_of_true (.inl (h hr)) (hother (by simp) w')
  | network n =>
    refine (after_releaseNetwork owner n w).mono fun r w' h hr => ?_
    rcases h hr with ⟨hgone, hloses⟩ | ⟨hconfirms, hloses⟩
    · exact iff_of_true (.inl hgone) (hloses.not_seen fun _ => LosesContainer.exists_asked)
    · refine iff_of_false ?_ (not_not_intro hloses)
      rintro (hgone | ⟨_, h, _⟩)
      · exact hconfirms.not_seen (fun _ => Confirms.exists_asked) hgone
      · cases h
  | directory path =>
    refine (after_releaseDirectory path w).mono fun r w' h hr => ?_
    exact iff_of_true (h hr) (hother (by simp) w')

end CleanupStep

namespace Cleanup

/-- The steps that failed, by their descriptions, in the order in which they ran. -/
def reported (runs : List (StepRun CleanupStep τ)) : List (String × Fault τ) :=
  runs.filterMap fun x =>
    match x.ending with
    | .ok () => none
    | .error e => some (x.step.description, e)

theorem failed_eq_reported {xs : List (StepRun (String × CleanupStep) τ)}
    (h : ∀ x ∈ xs, x.step.1 = x.step.2.description) : Coordinator.failed xs = reported (xs.map plain) := by
  induction xs with
  | nil => rfl
  | cons x xs ih =>
    obtain ⟨hx, hxs⟩ := List.forall_mem_cons.mp h
    have ih := ih hxs
    unfold Coordinator.failed reported at ih ⊢
    rw [List.map_cons, List.filterMap_cons, List.filterMap_cons, ih, hx]
    cases h : x.ending <;> simp [plain, h]

variable [Seconds τ] [Host σ τ]

/-- **When a release is silent about a leak.** A release answers and records the steps that failed, and no
others. A step that does not fail released its thing, that is, its removal succeeded or there was no such thing,
if and only if no container turned out to be gone while it was taken off the network of the step. -/
theorem release_gone_iff (w : World σ τ) (owner : String) (steps : List CleanupStep) :
    After release (w, holding owner steps) fun r s' => ∃ runs, Released owner steps w runs s'.1 ∧
      (∀ failures, r = .ok failures → failures = reported runs ∧ s'.2.failures = failures) ∧
      ∀ before x later, runs = before ++ x :: later → ∃ w₁ w₂,
        Trail (CleanupStep.run owner) Logs w before w₁ ∧
        attempt (x.step.run owner) w₁ = .ok x.ending w₂ ∧
        Trail (CleanupStep.run owner) Logs w₂ later s'.1 ∧
        (x.ending = .ok () → (x.step.Gone w₁ w₂ ↔ ¬ Seen x.step.LosesContainer w₁ w₂)) := by
  refine (after_release_ended w (holding owner steps) rfl).mono ?_
  rintro r s' ⟨xs, ht, hend, hc⟩
  have hthrough := (ranThrough_of_ended hend).1
  rw [holding_steps] at hthrough
  refine ⟨xs.map plain, ⟨ht, hthrough.inOrder, hthrough.all⟩, ?_, fun before x later hruns => ?_⟩
  · rintro failures rfl
    obtain ⟨hsteps, rfl, -⟩ := hend
    have hdescribed (x : StepRun (String × CleanupStep) τ) (hx : x ∈ xs) :
        x.step.1 = x.step.2.description := by
      have hmem : x.step ∈ (holding owner steps : Cleanup τ).steps := by
        rw [← List.mem_reverse, ← hsteps]
        exact List.mem_map_of_mem hx
      obtain ⟨step, _, hstep⟩ := List.mem_map.mp hmem
      rw [← hstep]
    rw [hc, failed_eq_reported hdescribed]
    exact ⟨rfl, rfl⟩
  · rw [hruns] at ht
    obtain ⟨w₁, w₂, hbefore, hrun, hlater⟩ := ht.exists_split
    refine ⟨w₁, w₂, hbefore, hrun, hlater, ?_⟩
    exact (CleanupStep.after_run_gone owner x.step w₁).attempted hrun

end Cleanup

/-- A daemon with a network that a container is attached to which is gone by now. -/
structure GhostDaemon where

instance : Host GhostDaemon Rat where
  answer r h := match r with
    | .docker (.inspectNetwork _) => (.ok [⟨1, "left"⟩], h)
    | .docker (.disconnect _ c) =>
      (.error (.foreign (.plain (.docker .notFound) s!"No such container: {c.name}")), h)
    | _ => (.error (.foreign (.plain (.docker .api) "server error")), h)
  now _ := 0
  sleep _ h := h
  wallClock _ := ⟨⟨2024, 2, 28⟩, 12, 0, 0, 0, some 0⟩
  freshId h := ("00000001", h)
  env _ := []
  temporaryDirectory _ := ⟨.here, []⟩
  freshEnding h := ("0001", h)

def GhostDaemon.world : World GhostDaemon Rat :=
  ⟨⟨⟩, ⟨[], []⟩, []⟩

namespace Cleanup

/-- A network is removed, or looked at without success. -/
def removesNetwork : Event τ → Bool
  | .asked (.docker (.removeNetwork _)) _ => true
  | .asked (.docker (.inspectNetwork _)) (.error _) => true
  | _ => false

theorem removesNetwork_of_confirms {n : Network} {e : Event τ} (h : (CleanupStep.network n).Confirms e) :
    removesNetwork e = true := by
  rcases h with rfl | ⟨_, _, rfl | rfl⟩
  · rfl
  · rfl
  · rfl

/-- Nothing is recorded, and the network is left. -/
theorem release_ghost :
    After release (GhostDaemon.world, holding "env" [.network ⟨0, "net"⟩]) fun r s' =>
      r = .ok [] ∧ s'.2.failures = [] ∧ ∃ w₁ w₂ : World GhostDaemon Rat,
        attempt ((CleanupStep.network ⟨0, "net"⟩).run "env") w₁ = .ok (.ok ()) w₂ ∧
        Seen (CleanupStep.network ⟨0, "net"⟩).LosesContainer w₁ w₂ ∧
        ¬ (CleanupStep.network ⟨0, "net"⟩).Gone w₁ w₂ := by
  let step : CleanupStep := .network ⟨0, "net"⟩
  have hends : After release (GhostDaemon.world, holding "env" [step]) fun r s' =>
      r.toOption.map (·.length) = some 0 ∧ s'.1.past.all (fun e => !removesNetwork e) = true := by
    decide +kernel
  refine (hends.and (release_gone_iff _ "env" [step])).mono ?_
  rintro r s' ⟨⟨hr, hpast⟩, runs, hreleased, hreported, hsteps⟩
  obtain rfl : r = .ok [] := by
    cases r with
    | ok failures => simpa [Except.toOption] using hr
    | error e => cases hr
  obtain ⟨hnone, hfailures⟩ := hreported [] rfl
  -- the one step ran, and it did not fail
  obtain ⟨x, rfl, hx, hending⟩ : ∃ x, runs = [x] ∧ x.step = step ∧ x.ending = .ok () := by
    cases runs with
    | nil => cases hreleased.all (by simp [Unbroken])
    | cons x xs =>
      obtain ⟨hx, rfl⟩ : x.step = step ∧ xs = [] := by
        simpa using hreleased.inOrder
      cases h : x.ending with
      | ok u => exact ⟨x, rfl, hx, h⟩
      | error e => simp [reported, h] at hnone
  obtain ⟨w₁, w₂, _, hrun, hlater, hgone⟩ := hsteps [] x [] rfl
  rw [hx, hending] at hrun
  rw [hx] at hgone
  have hleft : ¬ step.Gone w₁ w₂ := by
    rintro (⟨late, e, early, hseen, he⟩ | ⟨_, h, _⟩)
    · cases hlater with
      | nil hlogs =>
        obtain ⟨es, hes, _⟩ := hlogs
        have hmem := List.all_eq_true.mp hpast e (by simp [hes, hseen])
        rw [removesNetwork_of_confirms he] at hmem
        cases hmem
    · exact CleanupStep.noConfusion h
  have hlost : Seen step.LosesContainer w₁ w₂ :=
    Classical.not_not.mp fun hno => hleft ((hgone hending).mpr hno)
  exact ⟨rfl, hfailures, w₁, w₂, hrun, hlost, hleft⟩

end Cleanup

end ProxyTestbed
