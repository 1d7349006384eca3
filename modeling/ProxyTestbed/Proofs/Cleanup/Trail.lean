import ProxyTestbed.Cleanup.Coordinator
import ProxyTestbed.Proofs.World.Asks

/-!
# Runs of release steps

A trail is what is left of a release: the steps that ran, one after another, each with how it ended. The
state after a step is the one that this very run of it left behind; in between, only what a gap allows has
happened. So a trail with a step in it once is a run of that step once.

* `after_runSteps`: running steps leaves a trail of all of them in their order, or, if one of them is broken
  off by something that is no exception, of all up to that one.
* `after_release`: a first release leaves a trail of the pending steps, the latest first, and records which
  of them failed.
-/

namespace ProxyTestbed

variable {σ τ α β S : Type}

/-- A step that ran, and how it ended. -/
structure StepRun (β τ : Type) where
  step : β
  ending : Except (Fault τ) Unit

/-- From the first state to the second one, steps ran one after another and ended as they say. Before each
of them and after the last one, `gap` happened. -/
inductive Trail (run : β → EStateM (Fault τ) S Unit) (gap : S → S → Prop) :
    S → List (StepRun β τ) → S → Prop
  | nil {s s' : S} (h : gap s s') : Trail run gap s [] s'
  | cons {s s₁ s₂ s' : S} {x : StepRun β τ} {xs : List (StepRun β τ)} (h : gap s s₁)
      (hrun : attempt (run x.step) s₁ = .ok x.ending s₂) (hrest : Trail run gap s₂ xs s') :
      Trail run gap s (x :: xs) s'

namespace Trail

variable {run : β → EStateM (Fault τ) S Unit} {gap : S → S → Prop} {s s' s'' : S}
  {xs ys : List (StepRun β τ)}

theorem after_gap [IsTrans S gap] (h : gap s s') (ht : Trail run gap s' xs s'') :
    Trail run gap s xs s'' := by
  cases ht with
  | nil h' => exact .nil (trans_of gap h h')
  | cons h' hrun hrest => exact .cons (trans_of gap h h') hrun hrest

theorem append [IsTrans S gap] (h₁ : Trail run gap s xs s') (h₂ : Trail run gap s' ys s'') :
    Trail run gap s (xs ++ ys) s'' := by
  induction h₁ with
  | nil h => exact h₂.after_gap h
  | cons h hrun _ ih => exact .cons h hrun (ih h₂)

theorem before_gap [IsTrans S gap] (ht : Trail run gap s xs s') (h : gap s' s'') :
    Trail run gap s xs s'' := by
  simpa using ht.append (.nil h)

/-- A trail leads up to any of its steps, through the run of that step, and on from there. -/
theorem exists_split {x : StepRun β τ} (ht : Trail run gap s (xs ++ x :: ys) s') :
    ∃ s₁ s₂, Trail run gap s xs s₁ ∧ attempt (run x.step) s₁ = .ok x.ending s₂ ∧
      Trail run gap s₂ ys s' := by
  induction xs generalizing s with
  | nil =>
    cases ht with
    | cons h hrun hrest => exact ⟨_, _, .nil h, hrun, hrest⟩
  | cons y xs ih =>
    cases ht with
    | cons h hrun hrest =>
      obtain ⟨s₁, s₂, hbefore, hx, hlater⟩ := ih hrest
      exact ⟨s₁, s₂, .cons h hrun hbefore, hx, hlater⟩

/-- Every step of a trail was begun somewhere, and ended there as the trail says. -/
theorem exists_run {x : StepRun β τ} (ht : Trail run gap s xs s') (hx : x ∈ xs) :
    ∃ s₁ s₂, attempt (run x.step) s₁ = .ok x.ending s₂ := by
  obtain ⟨before, later, rfl⟩ := List.append_of_mem hx
  obtain ⟨s₁, s₂, _, hrun, _⟩ := ht.exists_split
  exact ⟨s₁, s₂, hrun⟩

theorem isException (hrun : ∀ b, Excepts (run b)) (ht : Trail run gap s xs s') {x : StepRun β τ}
    (hx : x ∈ xs) {e : Fault τ} (he : x.ending = .error e) : e.isException = true := by
  obtain ⟨s₁, s₂, h⟩ := ht.exists_run hx
  unfold attempt at h
  split at h
  · simp only [he, EStateM.Result.ok.injEq] at h
    cases h.1
  · rename_i f s₃ hf
    simp only [he, EStateM.Result.ok.injEq, Except.error.injEq] at h
    rw [← h.1]
    exact hrun _ _ _ _ hf

/-- A trail of one machine is one of another machine that it is seen as, as long as `I` holds. -/
theorem map {S' β' : Type} {run' : β' → EStateM (Fault τ) S' Unit} {gap' : S' → S' → Prop}
    (view : S → S') (name : β → β') (I : S → Prop)
    (hgap : ∀ s s', I s → gap s s' → I s' ∧ gap' (view s) (view s'))
    (hrun : ∀ b s r s', I s → attempt (run b) s = .ok r s' →
      I s' ∧ attempt (run' (name b)) (view s) = .ok r (view s'))
    (hs : I s) (ht : Trail run gap s xs s') :
    Trail run' gap' (view s) (xs.map fun x => ⟨name x.step, x.ending⟩) (view s') := by
  induction ht with
  | nil h => exact .nil (hgap _ _ hs h).2
  | cons h hx _ ih =>
    obtain ⟨hs₁, hgap₁⟩ := hgap _ _ hs h
    obtain ⟨hs₂, hrun₂⟩ := hrun _ _ _ _ hs₁ hx
    exact .cons hgap₁ hrun₂ (ih hs₂)

end Trail

namespace Coordinator

variable {run : α → On σ τ (Coordinator α τ) Unit}

/-- Nothing happens to the world but log records, and nothing to the coordinator. -/
abbrev Pause : World σ τ × Coordinator α τ → World σ τ × Coordinator α τ → Prop :=
  Besides Logs

/-- The trail of steps of a coordinator, each with its description. -/
abbrev StepTrail (run : α → On σ τ (Coordinator α τ) Unit) :=
  Trail (fun step : String × α => run step.2) Pause

/-- The steps that failed, with their faults, in the order in which they ran. -/
def failed (xs : List (StepRun (String × α) τ)) : List (String × Fault τ) :=
  xs.filterMap fun x =>
    match x.ending with
    | .ok () => none
    | .error e => some (x.step.1, e)

/-- Of the steps `steps` those in `xs` ran and the run of all of them ended in `r`: all of them ran, and
none was broken off; or the last one that ran was broken off, and `r` is its fault. -/
def Ended (steps : List (String × α)) (xs : List (StepRun (String × α) τ))
    (r : Except (Fault τ) (List (String × Fault τ))) : Prop :=
  match r with
  | .ok failures => xs.map (·.step) = steps ∧ failures = failed xs ∧
      ∀ x ∈ xs, ∀ e, x.ending = .error e → e.isException = true
  | .error e => e.isException = false ∧ xs.map (·.step) <+: steps ∧
      ∃ ys step, xs = ys ++ [⟨step, .error e⟩] ∧
        ∀ y ∈ ys, ∀ f, y.ending = .error f → f.isException = true

theorem Ended.eq_ok (hrun : ∀ a, Excepts (run a)) {s s' : World σ τ × Coordinator α τ}
    {steps : List (String × α)} {xs : List (StepRun (String × α) τ)}
    {r : Except (Fault τ) (List (String × Fault τ))} (hend : Ended steps xs r)
    (ht : StepTrail run s xs s') : r = .ok (failed xs) := by
  cases r with
  | ok failures => rw [hend.2.1]
  | error e =>
    obtain ⟨hno, _, ys, step, rfl, _⟩ := hend
    have he := ht.isException (fun step => hrun step.2) (List.mem_append_right ys List.mem_cons_self) rfl
    rw [hno] at he
    cases he

variable [Seconds τ]

theorem after_runSteps (steps : List (String × α)) (s : World σ τ × Coordinator α τ) :
    After (runSteps run steps) s fun r s' => ∃ xs, StepTrail run s xs s' ∧ Ended steps xs r := by
  induction steps generalizing s with
  | nil => exact ⟨[], .nil (refl_of Pause s), rfl, rfl, by simp⟩
  | cons step rest ih =>
    obtain ⟨description, action⟩ := step
    unfold runSteps
    refine after_object_bind (after_attempt_run fun r s₁ hrun => ?_)
    cases r with
    | ok a =>
      refine after_record_bind fun s₂ hpause => ?_
      refine (ih s₂).mono ?_
      intro r s' hpost
      obtain ⟨xs, ht, hend⟩ := hpost
      refine ⟨⟨(description, action), .ok ()⟩ :: xs,
        .cons (refl_of Pause s) hrun (ht.after_gap hpause), ?_⟩
      cases r with
      | ok failures =>
        obtain ⟨hsteps, hfailures, hexc⟩ := hend
        exact ⟨by simp [hsteps], by simp [hfailures, failed], by simpa using hexc⟩
      | error e =>
        obtain ⟨hno, hsteps, ys, last, rfl, hexc⟩ := hend
        exact ⟨hno, by simpa using hsteps, ⟨(description, action), .ok ()⟩ :: ys, last, rfl,
          by simpa using hexc⟩
    | error e =>
      have hone : StepTrail run s [⟨(description, action), .error e⟩] s₁ :=
        .cons (refl_of Pause s) hrun (.nil (refl_of Pause s₁))
      by_cases he : e.isException = true
      · simp only [he, Bool.not_true, Bool.false_eq_true, if_false]
        refine after_record_bind fun s₂ hpause => ?_
        refine after_bind (ih s₂) ?_ ?_
        · intro failures s' hpost
          obtain ⟨xs, ht, hsteps, hfailures, hexc⟩ := hpost
          refine ⟨⟨(description, action), .error e⟩ :: xs,
            .cons (refl_of Pause s) hrun (ht.after_gap hpause), ?_⟩
          exact ⟨by simp [hsteps], by simp [hfailures, failed], by simpa [he] using hexc⟩
        · intro f s' hpost
          obtain ⟨xs, ht, hno, hsteps, ys, last, rfl, hexc⟩ := hpost
          refine ⟨⟨(description, action), .error e⟩ :: (ys ++ [⟨last, .error f⟩]),
            .cons (refl_of Pause s) hrun (ht.after_gap hpause), ?_⟩
          exact ⟨hno, by simpa using hsteps, ⟨(description, action), .error e⟩ :: ys, last, rfl,
            by simpa [he] using hexc⟩
      · have hno : e.isException = false := by simpa using he
        simp only [hno, Bool.not_false, if_true]
        exact after_throw ⟨_, hone, hno, by simp, [], (description, action), rfl, by simp⟩

/-! ## A release -/

omit [Seconds τ] in
/-- What is done to a coordinator that is released already leaves it as it is. -/
def Sealed (s s' : World σ τ × Coordinator α τ) : Prop :=
  s.2.released = true → s'.2 = s.2

omit [Seconds τ] in
instance : IsPreorder (World σ τ × Coordinator α τ) Sealed where
  refl _ _ := rfl
  trans s₁ s₂ s₃ h h' hs := by
    have h₁ := h hs
    rw [h' (h₁ ▸ hs), h₁]

omit [Seconds τ] in
theorem keeps_push (description : String) (action : α) :
    Keeps Sealed (push description action : On σ τ (Coordinator α τ) Unit) := by
  intro s
  refine .of_run (fun a s' hrun hs => ?_) fun e s' hrun hs => ?_
  · rw [show s = (s.1, s.2) from rfl, push_released hs] at hrun
    cases hrun
  · rw [show s = (s.1, s.2) from rfl, push_released hs] at hrun
    cases hrun
    rfl

/-- The coordinator while it is being released. -/
def closed (c : Coordinator α τ) : Coordinator α τ :=
  { c with steps := [], released := true }

omit [Seconds τ] in
theorem StepTrail.coordinator_eq (hsealed : ∀ a, Keeps Sealed (run a))
    {s s' : World σ τ × Coordinator α τ} {xs : List (StepRun (String × α) τ)}
    (ht : StepTrail run s xs s') (hs : s.2.released = true) : s'.2 = s.2 := by
  induction ht with
  | nil h => exact h.2
  | @cons s s₁ s₂ s' x xs h hrun _ ih =>
    have h₁ : s₁.2.released = true := by rw [h.2]; exact hs
    have h₂ : s₂.2 = s₁.2 := ((hsealed x.step.2).attempt.of_ok hrun) h₁
    rw [ih (by rw [h₂]; exact h₁), h₂, h.2]

/-- The failures that an ending adds to those of the coordinator. -/
def endFailures (r : Except (Fault τ) (List (String × Fault τ))) : List (String × Fault τ) :=
  match r with
  | .ok failures => failures
  | .error _ => []

theorem after_release (hsealed : ∀ a, Keeps Sealed (run a)) {w : World σ τ} {c : Coordinator α τ}
    (h : c.released = false) :
    After (release run) (w, c) fun r s' => ∃ xs, StepTrail run (w, c.closed) xs (s'.1, c.closed) ∧
      Ended c.steps.reverse xs r ∧
      s'.2 = { c.closed with failures := c.failures ++ endFailures r } := by
  unfold release
  refine after_object_bind ?_
  simp only [h, Bool.false_eq_true, if_false]
  refine after_change_bind (after_bind (after_runSteps c.steps.reverse _) ?_ ?_)
  · rintro failures ⟨w₁, c₁⟩ ⟨xs, ht, hend⟩
    obtain rfl : c₁ = c.closed := StepTrail.coordinator_eq hsealed ht rfl
    refine after_change_bind ?_
    have hend' (w' : World σ τ) (hlog : Logs w₁ w') :
        StepTrail run (w, c.closed) xs (w', c.closed) := ht.before_gap ⟨hlog, rfl⟩
    split
    · refine after_record_bind fun s' hpause => after_pure ?_
      exact ⟨xs, hend' s'.1 hpause.1, hend, hpause.2⟩
    · exact after_pure ⟨xs, hend' w₁ (refl_of Logs w₁), hend, rfl⟩
  · rintro e ⟨w₁, c₁⟩ ⟨xs, ht, hend⟩
    obtain rfl : c₁ = c.closed := StepTrail.coordinator_eq hsealed ht rfl
    exact ⟨xs, ht, hend, by simp [endFailures, closed]⟩

end Coordinator

end ProxyTestbed
