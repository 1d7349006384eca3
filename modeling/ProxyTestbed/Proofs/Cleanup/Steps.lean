import ProxyTestbed.Cleanup.Step
import ProxyTestbed.Proofs.Cleanup.Trail

/-!
# The release of what an environment holds

A coordinator of containers, networks and directories runs its steps on the world alone. So the trail of its
release is one of worlds, and the coordinator does not change under the steps.

* `RanThrough.allBegun_iff`: which broken-off steps keep others from beginning.
* `Cleanup.after_release`: a first release runs the steps, the latest first, and all of them unless one is
  broken off.
-/

namespace ProxyTestbed

variable {σ τ : Type}

/-- No step was broken off by something that is no exception. -/
def Unbroken {β : Type} (runs : List (StepRun β τ)) : Prop :=
  ∀ x ∈ runs, ∀ e, x.ending = .error e → e.isException = true

/-- The step was broken off by something that is no exception. -/
def StepRun.BrokenOff {β : Type} (x : StepRun β τ) : Prop :=
  ∃ e, x.ending = .error e ∧ e.isException = false

theorem StepRun.BrokenOff.not_unbroken {β : Type} {x : StepRun β τ} {runs : List (StepRun β τ)}
    (h : x.BrokenOff) (hx : x ∈ runs) : ¬ Unbroken runs := by
  obtain ⟨e, he, hno⟩ := h
  intro hun
  rw [hun x hx e he] at hno
  cases hno

/-- Steps ran, the latest first: all of them, or all up to one that was broken off. -/
def RanThrough (steps : List CleanupStep) (runs : List (StepRun CleanupStep τ)) : Prop :=
  (Unbroken runs ∧ runs.map (·.step) = steps.reverse) ∨
    ∃ before x, runs = before ++ [x] ∧ Unbroken before ∧ x.BrokenOff ∧
      runs.map (·.step) <+: steps.reverse

theorem RanThrough.inOrder {steps : List CleanupStep} {runs : List (StepRun CleanupStep τ)}
    (h : RanThrough steps runs) : runs.map (·.step) <+: steps.reverse := by
  rcases h with ⟨_, hall⟩ | ⟨_, _, _, _, _, hsome⟩
  · exact hall ▸ List.prefix_rfl
  · exact hsome

theorem RanThrough.all {steps : List CleanupStep} {runs : List (StepRun CleanupStep τ)}
    (h : RanThrough steps runs) (hun : Unbroken runs) : runs.map (·.step) = steps.reverse := by
  rcases h with ⟨_, hall⟩ | ⟨before, x, rfl, _, hbroken, _⟩
  · exact hall
  · exact absurd hun (hbroken.not_unbroken (List.mem_append_right _ List.mem_cons_self))

/-- All steps have begun if and only if none was broken off, but perhaps the last one to begin. -/
theorem RanThrough.allBegun_iff {first : CleanupStep} {later : List CleanupStep}
    {runs : List (StepRun CleanupStep τ)} (h : RanThrough (first :: later) runs) (hnew : first ∉ later) :
    (∀ step ∈ first :: later, step ∈ runs.map (·.step)) ↔ ∀ x ∈ runs, x.BrokenOff → x.step = first := by
  -- where the last step has begun, all have
  have hwhole (hmem : first ∈ runs.map (·.step)) : runs.map (·.step) = later.reverse ++ [first] := by
    have hsome := h.inOrder
    rw [List.reverse_cons] at hsome
    rcases List.prefix_concat_iff.mp hsome with heq | hsome
    · exact heq
    · exact absurd (List.mem_reverse.mp (hsome.subset hmem)) hnew
  constructor
  · intro hbegun y hy hbroken
    have heq := hwhole (hbegun first List.mem_cons_self)
    rcases h with ⟨hun, _⟩ | ⟨before, x, rfl, hun, _, _⟩
    · exact absurd hun (hbroken.not_unbroken hy)
    · rcases List.mem_append.mp hy with hy | hy
      · exact absurd hun (hbroken.not_unbroken hy)
      · cases List.mem_singleton.mp hy
        rw [List.map_append, List.map_singleton] at heq
        exact List.singleton_inj.mp (List.append_inj' heq rfl).2
  · intro hlast step hstep
    have hmem : first ∈ runs.map (·.step) := by
      rcases h with ⟨_, hall⟩ | ⟨before, x, rfl, _, hbroken, _⟩
      · rw [hall]
        exact List.mem_reverse.mpr List.mem_cons_self
      · have hx : x ∈ before ++ [x] := List.mem_append_right _ List.mem_cons_self
        rw [← hlast x hx hbroken]
        exact List.mem_map_of_mem hx
    rw [hwhole hmem, ← List.reverse_cons]
    exact List.mem_reverse.mpr hstep

variable [Seconds τ] [Host σ τ]

/-- From `w` to `w'` the steps of an owner ran, the latest first: all of them, unless one was broken off. -/
structure Released (owner : String) (steps : List CleanupStep) (w : World σ τ)
    (runs : List (StepRun CleanupStep τ)) (w' : World σ τ) : Prop where
  trail : Trail (CleanupStep.run owner) Logs w runs w'
  inOrder : runs.map (·.step) <+: steps.reverse
  all : Unbroken runs → runs.map (·.step) = steps.reverse

theorem Released.logs {owner : String} {steps : List CleanupStep} {w w' w'' : World σ τ}
    {runs : List (StepRun CleanupStep τ)} (h : Released owner steps w runs w') (hlog : Logs w' w'') :
    Released owner steps w runs w'' :=
  ⟨h.trail.before_gap hlog, h.inOrder, h.all⟩

namespace Cleanup

/-- What a coordinator does to run a step. -/
def act (step : CleanupStep) : On σ τ (Cleanup τ) Unit := do
  world (step.run (← On.object).owner)

theorem after_act (step : CleanupStep) (s : World σ τ × Cleanup τ) :
    After (act step) s fun r s' => s'.2 = s.2 ∧ attempt (step.run s.2.owner) s.1 = .ok r s'.1 := by
  refine after_object_bind (after_world (.of_run (fun a w h => ?_) fun e w h => ?_))
  · exact ⟨rfl, by simp only [attempt, h]⟩
  · exact ⟨rfl, by simp only [attempt, h]⟩

theorem keeps_act (step : CleanupStep) :
    Keeps (fun s s' => s'.2 = s.2) (act step : On σ τ (Cleanup τ) Unit) :=
  fun s => (after_act step s).mono fun _ _ h => h.1

/-- The coordinator of an owner that holds steps, none of which ran. -/
def holding (owner : String) (steps : List CleanupStep) : Cleanup τ :=
  ⟨owner, steps.map fun step => (step.description, step), false, []⟩

omit [Seconds τ] [Host σ τ] in
theorem push_holding (owner : String) (steps : List CleanupStep) (step : CleanupStep) (w : World σ τ) :
    push step (w, holding owner steps) = .ok () (w, holding owner (steps ++ [step])) := by
  simp [push, Coordinator.push, holding, On.object, On.change, bind, EStateM.bind]

omit [Seconds τ] [Host σ τ] in
theorem holding_steps (owner : String) (steps : List CleanupStep) :
    (holding owner steps : Cleanup τ).steps.map (·.2) = steps := by
  simp [holding, Function.comp_def]

/-- The run of a step without its description. -/
def plain (x : StepRun (String × CleanupStep) τ) : StepRun CleanupStep τ :=
  ⟨x.step.2, x.ending⟩

omit [Seconds τ] [Host σ τ] in
theorem map_plain (xs : List (StepRun (String × CleanupStep) τ)) :
    (xs.map plain).map (·.step) = (xs.map (·.step)).map (·.2) := by
  simp [plain]

theorem trail_of_stepTrail {s s' : World σ τ × Cleanup τ}
    {xs : List (StepRun (String × CleanupStep) τ)} (ht : Coordinator.StepTrail act s xs s') :
    Trail (CleanupStep.run s.2.owner) Logs s.1 (xs.map plain) s'.1 := by
  refine ht.map Prod.fst (·.2) (fun t => t.2 = s.2) ?_ ?_ rfl
  · exact fun s₁ s₂ h₁ hpause => ⟨hpause.2.trans h₁, hpause.1⟩
  · intro step s₁ r s₂ h₁ hrun
    obtain ⟨h₂, hstep⟩ := (after_act step.2 s₁).attempted hrun
    rw [h₁] at h₂ hstep
    exact ⟨h₂, hstep⟩

theorem release_eq : (release : On σ τ (Cleanup τ) _) = Coordinator.release act := rfl

/-- A first release leaves a trail of worlds. -/
theorem after_release_ended (w : World σ τ) (c : Cleanup τ) (h : c.released = false) :
    After release (w, c) fun r s' => ∃ xs : List (StepRun (String × CleanupStep) τ),
      Trail (CleanupStep.run c.owner) Logs w (xs.map plain) s'.1 ∧
      Coordinator.Ended c.steps.reverse xs r ∧
      s'.2 = ⟨c.owner, [], true, c.failures ++ Coordinator.endFailures r⟩ := by
  have hsealed (step : CleanupStep) :
      Keeps Coordinator.Sealed (act step : On σ τ (Cleanup τ) Unit) :=
    (keeps_act step).mono fun _ _ h _ => h
  rw [release_eq]
  refine (Coordinator.after_release hsealed h).mono ?_
  rintro r s' ⟨xs, ht, hend, hc⟩
  have htrail := trail_of_stepTrail ht
  exact ⟨xs, htrail, hend, hc⟩

omit [Seconds τ] [Host σ τ] in
theorem unbroken_plain {xs : List (StepRun (String × CleanupStep) τ)} :
    Unbroken (xs.map plain) ↔ Unbroken xs := by
  simp [Unbroken, plain]

omit [Seconds τ] [Host σ τ] in
theorem ranThrough_of_ended {steps : List (String × CleanupStep)}
    {xs : List (StepRun (String × CleanupStep) τ)} {r : Except (Fault τ) (List (String × Fault τ))}
    (hend : Coordinator.Ended steps.reverse xs r) :
    RanThrough (steps.map (·.2)) (xs.map plain) ∧
      (Unbroken (xs.map plain) → ∃ failures, r = .ok failures) := by
  have hmap : (steps.map (·.2)).reverse = steps.reverse.map (·.2) := List.map_reverse.symm
  cases r with
  | ok failures =>
    obtain ⟨hall, -, hexceptions⟩ := hend
    exact ⟨.inl ⟨unbroken_plain.mpr hexceptions, by rw [map_plain, hall, hmap]⟩, fun _ => ⟨failures, rfl⟩⟩
  | error e =>
    obtain ⟨hno, hsome, before, step, rfl, hexceptions⟩ := hend
    let x : StepRun (String × CleanupStep) τ := ⟨step, .error e⟩
    have hbroken : (plain x).BrokenOff := ⟨e, rfl, hno⟩
    have hlast : plain x ∈ (before ++ [x]).map plain :=
      List.mem_map_of_mem (List.mem_append_right before List.mem_cons_self)
    refine ⟨.inr ⟨before.map plain, plain x, List.map_append, unbroken_plain.mpr hexceptions, hbroken, ?_⟩,
      fun hun => absurd hun (hbroken.not_unbroken hlast)⟩
    rw [map_plain, hmap]
    exact hsome.map _

/-- A first release: what is held is released, and nothing is held any more. -/
theorem after_release (w : World σ τ) (c : Cleanup τ) (h : c.released = false) :
    After release (w, c) fun r s' => ∃ runs, Released c.owner (c.steps.map (·.2)) w runs s'.1 ∧
      (Unbroken runs → ∃ failures, r = .ok failures) ∧
      s'.2 = ⟨c.owner, [], true, c.failures ++ Coordinator.endFailures r⟩ := by
  refine (after_release_ended w c h).mono ?_
  rintro r s' ⟨xs, ht, hend, hc⟩
  obtain ⟨hthrough, hok⟩ := ranThrough_of_ended hend
  exact ⟨xs.map plain, ⟨ht, hthrough.inOrder, hthrough.all⟩, hok, hc⟩

theorem after_release_holding (w : World σ τ) (owner : String) (steps : List CleanupStep) :
    After release (w, holding owner steps) fun r s' => ∃ runs, Released owner steps w runs s'.1 ∧
      (Unbroken runs → ∃ failures, r = .ok failures) ∧ s'.2.released = true := by
  refine (after_release w (holding owner steps) rfl).mono ?_
  intro r s' hpost
  obtain ⟨runs, hrel, hok, hc⟩ := hpost
  rw [holding_steps] at hrel
  exact ⟨runs, hrel, hok, by rw [hc]⟩

end Cleanup

end ProxyTestbed
