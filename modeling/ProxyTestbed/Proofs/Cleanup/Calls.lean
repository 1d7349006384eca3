import ProxyTestbed.Proofs.Cleanup.Trail

/-!
# Calls of a coordinator

Any sequence of registrations and releases on one coordinator splits at the first release. Before it, every
step that is registered waits. The first release runs all of them once, the latest first, whichever of them
fail. After it, a release finds nothing to do and a registration is refused, and neither changes anything.

* `play_calls`: the answers of all calls, the steps that ran, and the coordinator in the end.
-/

namespace ProxyTestbed.Coordinator

variable {σ τ α : Type}

/-- A call of a coordinator. -/
inductive Call (α : Type)
  | push (description : String) (action : α)
  | release

/-- The steps that are registered before the first release. -/
def pushed : List (Call α) → List (String × α)
  | .push description action :: calls => (description, action) :: pushed calls
  | _ => []

/-- Some call is a release. -/
def hasRelease : List (Call α) → Bool
  | [] => false
  | .push _ _ :: calls => hasRelease calls
  | .release :: _ => true

/-- The calls after the first release. -/
def later : List (Call α) → List (Call α)
  | [] => []
  | .push _ _ :: calls => later calls
  | .release :: calls => calls

variable [Seconds τ]

/-- What a call answers: the failures of a release, nothing for a registration, or a fault. -/
abbrev Reply (τ : Type) := Except (Fault τ) (Option (List (String × Fault τ)))

/-- Makes a call. -/
def perform (run : α → On σ τ (Coordinator α τ) Unit) :
    Call α → On σ τ (Coordinator α τ) (Option (List (String × Fault τ)))
  | .push description action => do
    push description action
    return none
  | .release => return some (← release run)

/-- Makes calls from first to last, whatever they answer. -/
def play (run : α → On σ τ (Coordinator α τ) Unit) :
    List (Call α) → On σ τ (Coordinator α τ) (List (Reply τ))
  | [] => pure []
  | call :: calls => do
    let reply ← attempt (perform run call)
    return reply :: (← play run calls)

/-- What a call answers after the release. -/
def lateReply (owner : String) : Call α → Reply τ
  | .push description _ => .error (.released owner description)
  | .release => .ok (some [])

section

variable {run : α → On σ τ (Coordinator α τ) Unit} {s : World σ τ × Coordinator α τ}

theorem play_cons_of_attempt {call : Call α} {calls : List (Call α)} {reply : Reply τ}
    {s' : World σ τ × Coordinator α τ} (h : attempt (perform run call) s = .ok reply s')
    {P : Except (Fault τ) (List (Reply τ)) → World σ τ × Coordinator α τ → Prop}
    (hrest : After (play run calls) s' fun r s'' =>
      P (r.map fun replies => reply :: replies) s'') :
    After (play run (call :: calls)) s P := by
  unfold play
  refine after_attempt_run fun r s₁ hrun => ?_
  rw [h] at hrun
  cases hrun
  exact after_bind hrest (fun _ _ h' => h') fun _ _ h' => h'

theorem attempt_push {description : String} {action : α} (h : s.2.released = false) :
    attempt (perform run (.push description action)) s =
      .ok (.ok none) (s.1, { s.2 with steps := s.2.steps ++ [(description, action)] }) := by
  simp [attempt, perform, push, On.object, On.change, bind, EStateM.bind, pure, EStateM.pure, h]

/-- After the release nothing happens any more. -/
theorem attempt_late (call : Call α) (h : s.2.released = true) :
    attempt (perform run call) s = .ok (lateReply s.2.owner call) s := by
  cases call with
  | push description action =>
    have hpush : push description action s = .error (.released s.2.owner description) s :=
      push_released h
    simp only [attempt, perform, bind, EStateM.bind, hpush]
    rfl
  | release =>
    have hrelease : release run s = .ok [] s := release_released h
    simp only [attempt, perform, bind, EStateM.bind, hrelease]
    rfl

theorem play_late (calls : List (Call α)) (h : s.2.released = true) :
    After (play run calls) s fun r s' => r = .ok (calls.map (lateReply s.2.owner)) ∧ s' = s := by
  induction calls with
  | nil => exact after_pure ⟨rfl, rfl⟩
  | cons call calls ih =>
    refine play_cons_of_attempt (attempt_late call h) (ih.mono ?_)
    intro _ _ hpost
    obtain ⟨rfl, rfl⟩ := hpost
    exact ⟨rfl, rfl⟩

/-- The first release, at which the steps `ps` are registered. -/
theorem attempt_release (hsealed : ∀ a, Keeps Sealed (run a)) (hrun : ∀ a, Excepts (run a))
    (w : World σ τ) (owner : String) (ps : List (String × α)) :
    ∃ xs w', xs.map (·.step) = ps.reverse ∧
      StepTrail run (w, ⟨owner, [], true, []⟩) xs (w', ⟨owner, [], true, []⟩) ∧
      attempt (perform run .release) (w, ⟨owner, ps, false, []⟩) =
        .ok (.ok (some (failed xs))) (w', ⟨owner, [], true, failed xs⟩) := by
  have h := after_release hsealed (w := w) (c := ⟨owner, ps, false, []⟩) rfl
  cases hr : release run (w, ⟨owner, ps, false, []⟩) with
  | ok failures s' =>
    obtain ⟨xs, ht, hend, hc⟩ := h.ok hr
    cases hend.eq_ok hrun ht
    refine ⟨xs, s'.1, hend.1, ht, ?_⟩
    have hs' : s' = (s'.1, ⟨owner, [], true, failed xs⟩) := Prod.ext rfl hc
    rw [← hs']
    simp only [attempt, perform, bind, EStateM.bind, hr]
    rfl
  | error e s' =>
    obtain ⟨xs, ht, hend, _⟩ := h.error hr
    cases hend.eq_ok hrun ht

/-- What a sequence of calls leaves behind, begun with the steps `ps` registered. -/
theorem play_pending (hsealed : ∀ a, Keeps Sealed (run a)) (hrun : ∀ a, Excepts (run a))
    (calls : List (Call α)) (w : World σ τ) (owner : String) (ps : List (String × α)) :
    After (play run calls) (w, ⟨owner, ps, false, []⟩) fun r s' =>
      (hasRelease calls = false → r = .ok (calls.map fun _ => .ok none) ∧
        s' = (w, ⟨owner, ps ++ pushed calls, false, []⟩)) ∧
      (hasRelease calls = true → ∃ xs, xs.map (·.step) = (ps ++ pushed calls).reverse ∧
        StepTrail run (w, ⟨owner, [], true, []⟩) xs (s'.1, ⟨owner, [], true, []⟩) ∧
        r = .ok ((pushed calls).map (fun _ => .ok none) ++
          .ok (some (failed xs)) :: (later calls).map (lateReply owner)) ∧
        s'.2 = ⟨owner, [], true, failed xs⟩) := by
  induction calls generalizing ps with
  | nil => exact after_pure (by simp [hasRelease, pushed])
  | cons call calls ih =>
    cases call with
    | push description action =>
      refine play_cons_of_attempt (attempt_push rfl) ((ih (ps ++ [(description, action)])).mono ?_)
      intro r s' hpost
      obtain ⟨hwait, hdone⟩ := hpost
      refine ⟨fun h => ?_, fun h => ?_⟩
      · obtain ⟨rfl, rfl⟩ := hwait h
        exact ⟨rfl, by simp [pushed]⟩
      · obtain ⟨xs, hsteps, ht, rfl, hc⟩ := hdone h
        exact ⟨xs, by simpa [pushed] using hsteps, ht, rfl, hc⟩
    | release =>
      obtain ⟨xs, w', hsteps, ht, hrelease⟩ := attempt_release hsealed hrun w owner ps
      refine play_cons_of_attempt hrelease ((play_late calls rfl).mono ?_)
      intro _ _ hpost
      obtain ⟨rfl, rfl⟩ := hpost
      refine ⟨fun h => (by cases h), fun _ => ?_⟩
      exact ⟨xs, by simpa [pushed] using hsteps, ht, rfl, rfl⟩

/-- **Calls of a coordinator.** In any sequence of calls, the steps that are registered before the first
release wait for it; that release runs each of them once, the latest first, and answers and records those
that failed, in the order in which they ran. Before it no step runs. After it a release answers nothing, a
registration is refused, and neither the world nor the coordinator changes. A step may itself make calls of
the coordinator, which then is released (`hsealed`). -/
theorem play_calls (hsealed : ∀ a, Keeps Sealed (run a)) (hrun : ∀ a, Excepts (run a))
    (calls : List (Call α)) (w : World σ τ) (owner : String) :
    ∃ replies w' c, play run calls (w, start owner) = .ok replies (w', c) ∧
      (hasRelease calls = false →
        replies = calls.map (fun _ => .ok none) ∧ w' = w ∧ c = ⟨owner, pushed calls, false, []⟩) ∧
      (hasRelease calls = true → ∃ xs, xs.map (·.step) = (pushed calls).reverse ∧
        StepTrail run (w, ⟨owner, [], true, []⟩) xs (w', ⟨owner, [], true, []⟩) ∧
        replies = (pushed calls).map (fun _ => .ok none) ++
          .ok (some (failed xs)) :: (later calls).map (lateReply owner) ∧
        c = ⟨owner, [], true, failed xs⟩) := by
  have h := play_pending hsealed hrun calls w owner []
  cases hplay : play run calls (w, start owner) with
  | ok replies s' =>
    obtain ⟨hwait, hdone⟩ := h.ok hplay
    refine ⟨replies, s'.1, s'.2, rfl, fun hc => ?_, fun hc => ?_⟩
    · obtain ⟨hr, rfl⟩ := hwait hc
      cases hr
      exact ⟨rfl, rfl, rfl⟩
    · obtain ⟨xs, hsteps, ht, hr, hs'⟩ := hdone hc
      cases hr
      exact ⟨xs, hsteps, ht, rfl, hs'⟩
  | error e s' =>
    obtain ⟨hwait, hdone⟩ := h.error hplay
    cases hc : hasRelease calls with
    | false => cases (hwait hc).1
    | true =>
      obtain ⟨_, _, _, hr, _⟩ := hdone hc
      cases hr

end

/-- Two kinds of steps: one leaves a mark, and one tries to register another step, which is refused. -/
def markOrPush : Bool → On Unit Rat (Coordinator Bool Rat) Unit
  | true => world (mark "released" .null)
  | false => push "late" true

theorem sealed_markOrPush (a : Bool) : Keeps Sealed (markOrPush a) := by
  cases a with
  | true => exact fun _ _ => rfl
  | false => exact keeps_push "late" true

theorem excepts_markOrPush (a : Bool) : Excepts (markOrPush a) := by
  rintro ⟨w, c⟩ e s' hrun
  cases a with
  | true => cases hrun
  | false =>
    cases hc : c.released with
    | true =>
      rw [markOrPush, push_released hc] at hrun
      cases hrun
      rfl
    | false =>
      simp [markOrPush, push, On.object, On.change, bind, EStateM.bind, hc] at hrun

/-- The calls of a test: two steps, a release, and two calls that come too late. -/
def lateCalls : List (Call Bool) :=
  [.push "first" false, .push "second" true, .release, .push "third" true, .release]

theorem play_lateCalls :
    (∀ a, Keeps Sealed (markOrPush a)) ∧ (∀ a, Excepts (markOrPush a)) ∧
      ∃ replies w' c xs, play markOrPush lateCalls (⟨(), ⟨[], []⟩, []⟩, start "owner") =
          .ok replies (w', c) ∧
        xs.map (·.step) = [("second", true), ("first", false)] ∧
        StepTrail markOrPush (⟨(), ⟨[], []⟩, []⟩, ⟨"owner", [], true, []⟩) xs
          (w', ⟨"owner", [], true, []⟩) ∧
        c = ⟨"owner", [], true, failed xs⟩ := by
  refine ⟨sealed_markOrPush, excepts_markOrPush, ?_⟩
  obtain ⟨replies, w', c, hplay, _, hdone⟩ :=
    play_calls sealed_markOrPush excepts_markOrPush lateCalls ⟨(), ⟨[], []⟩, []⟩ "owner"
  obtain ⟨xs, hsteps, ht, _, hc⟩ := hdone rfl
  exact ⟨replies, w', c, xs, hplay, hsteps, ht, hc⟩

end ProxyTestbed.Coordinator
