import ProxyTestbed.Proofs.Environment.Acquired
import ProxyTestbed.Proofs.File.Denied
import ProxyTestbed.Proofs.World.Tells

/-!
# What releases ask for

A release step asks to stop and remove containers, to take them off a network and to remove it, and to delete a
directory. None of its answers tells something about a container, and where all errors are those of the daemon
and of the system, no step is broken off, so that a release comes to its end.

* `CleanupStep.keeps_run`, `CleanupStep.excepts_run`: what a step asks for and ends in.
* `Cleanup.after_release_quiet`: what a release comes to.
-/

namespace ProxyTestbed

variable {σ τ : Type}

theorem Trail.keeps {β S : Type} {run : β → EStateM (Fault τ) S Unit} {gap R : S → S → Prop} [IsPreorder S R]
    {s s' : S} {xs : List (StepRun β τ)} (ht : Trail run gap s xs s') (hgap : ∀ s s', gap s s' → R s s')
    (hrun : ∀ b, Keeps R (run b)) : R s s' := by
  induction ht with
  | nil h => exact hgap _ _ h
  | cons h hx _ ih =>
    have hstep := (hrun _).attempt.of_ok hx
    exact trans_of R (hgap _ _ h) (trans_of R hstep ih)

theorem Fault.IsOrdinary.isException {e : Fault τ} (h : e.IsOrdinary) : e.isException = true := by
  obtain ⟨f, rfl, hf⟩ := Fault.exists_foreign h
  have hkind : f.kind ≠ .interrupt := by
    intro hkind
    simp [Foreign.isDocker, Foreign.isSystem, hkind] at hf
  exact bne_iff_ne.mpr hkind

theorem Request.mute_of_isRelease {r : Request τ} (h : r.isRelease = true) (a : Except (Fault τ) r.Answer) :
    r.Mute a := by
  unfold isRelease at h
  split at h
  · rfl
  · rfl
  · rfl
  · rfl
  · rfl
  · rfl
  · cases h

namespace CleanupStep

/-! ## Requests -/

section

variable {P : (r : Request τ) → Except (Fault τ) r.Answer → Prop}

theorem keeps_unlessMissing {act : Act σ τ Unit} (h : Keeps (Asks P) act) :
    Keeps (Asks P) (unlessMissing act) := by
  refine h.attempt.bind fun r => ?_
  cases r with
  | ok _ => exact .pure ()
  | error e => exact .ite (.pure ()) (.throw e)

variable [Host σ τ] (hP : ∀ r : Request τ, r.isRelease = true → ∀ a, P r a)

include hP

theorem keeps_disconnectAll (owner : String) (n : Network) (cs : List Container) :
    Keeps (Asks P) (disconnectAll owner n cs : Act σ τ Unit) := by
  induction cs with
  | nil => exact .pure ()
  | cons c rest ih => exact (keeps_record _ _ _).bind fun _ => (keeps_docker (hP _ rfl)).bind fun _ => ih

/-- A step asks only for what release steps ask for. -/
theorem keeps_run [Seconds τ] (owner : String) (step : CleanupStep) :
    Keeps (Asks P) (step.run owner : Act σ τ Unit) := by
  cases step with
  | container c timeout =>
    have hremove : Keeps (Asks P) (removeContainer c : Act σ τ Unit) :=
      keeps_unlessMissing (keeps_docker (hP _ rfl))
    refine Keeps.bind (keeps_docker (hP _ rfl)).attempt fun r => ?_
    cases r with
    | ok _ => exact hremove
    | error e => exact .ite (.pure ()) (.ite ((keeps_record _ _ _).bind fun _ => hremove) (.throw e))
  | network n =>
    refine keeps_unlessMissing ((keeps_docker (hP _ rfl)).bind fun attached => ?_)
    exact (keeps_disconnectAll hP owner n attached).bind fun _ => keeps_docker (hP _ rfl)
  | directory path =>
    refine (Files.keeps_isThere path).bind fun _ => .ite ?_ (.pure ())
    exact (keeps_ask (hP _ rfl)).bind fun _ => keeps_change_files _ _

end

/-! ## Faults -/

theorem raises_unlessMissing {F : Fault τ → Prop} {act : Act σ τ Unit} (h : Raises F act) :
    Raises F (unlessMissing act) :=
  h.attempt_bind (fun _ => raises_pure ()) fun _ he => .ite (raises_pure ()) (raises_throw he)

theorem isException_toForeign (p : FileProblem) (shown : String) :
    (.foreign (p.toForeign shown) : Fault τ).isException = true := by
  cases p <;> rfl

variable [Host σ τ] (hordinary : Host.Ordinary σ)

include hordinary

theorem raises_disconnectAll (owner : String) (n : Network) (cs : List Container) :
    Raises Fault.IsOrdinary (disconnectAll owner n cs : Act σ τ Unit) := by
  induction cs with
  | nil => exact raises_pure ()
  | cons c rest ih => exact (raises_record _ _ _).bind fun _ => (hordinary.raises_ask _).bind fun _ => ih

theorem raises_releaseContainer [Seconds τ] (owner : String) (c : Container) (timeout : Int) :
    Raises Fault.IsOrdinary (releaseContainer owner c timeout : Act σ τ Unit) := by
  have hremove : Raises Fault.IsOrdinary (removeContainer c : Act σ τ Unit) :=
    raises_unlessMissing (hordinary.raises_ask _)
  refine (hordinary.raises_ask _).attempt_bind (fun _ => hremove) fun e he => .ite (raises_pure ()) (.ite ?_ ?_)
  · exact (raises_record _ _ _).bind fun _ => hremove
  · exact raises_throw he

theorem raises_releaseNetwork (owner : String) (n : Network) :
    Raises Fault.IsOrdinary (releaseNetwork owner n : Act σ τ Unit) :=
  raises_unlessMissing ((hordinary.raises_ask _).bind fun attached =>
    (raises_disconnectAll hordinary owner n attached).bind fun _ => hordinary.raises_ask _)

theorem raises_releaseDirectory (path : Path) :
    Raises (fun e => e.isException = true) (releaseDirectory path : Act σ τ Unit) := by
  have hlook (shown : String) (f : FileTree → Except FileProblem Bool) :
      Raises (fun e => e.isException = true) (Files.look shown f : Act σ τ Bool) := by
    refine fun w => (after_look_files shown f w).mono ?_
    rintro r w' ⟨_, ⟨a, _, rfl⟩ | ⟨problem, _, rfl⟩⟩
    · simp
    · simpa using isException_toForeign problem shown
  have hchange (shown : String) (f : FileTree → Except FileProblem FileTree) :
      Raises (fun e => e.isException = true) (Files.change shown f : Act σ τ Unit) := by
    refine fun w => (after_change_files shown f w).mono ?_
    rintro r w' (⟨_, _, rfl, _⟩ | ⟨problem, _, rfl, _⟩)
    · simp
    · simpa using isException_toForeign problem shown
  refine (hlook _ _).bind fun _ => .ite ?_ (raises_pure ())
  exact ((hordinary.raises_ask _).mono fun _ => Fault.IsOrdinary.isException).bind fun _ => hchange _ _

theorem excepts_run [Seconds τ] (owner : String) (step : CleanupStep) :
    Excepts (step.run owner : Act σ τ Unit) := by
  refine Raises.excepts ?_
  cases step with
  | container c timeout =>
    exact (raises_releaseContainer hordinary owner c timeout).mono fun _ => Fault.IsOrdinary.isException
  | network n => exact (raises_releaseNetwork hordinary owner n).mono fun _ => Fault.IsOrdinary.isException
  | directory path => exact raises_releaseDirectory hordinary path

end CleanupStep

/-- Where all errors are those of the daemon and the system, a release comes to its end, and nothing about a
container is told on the way. -/
theorem Cleanup.after_release_quiet [Seconds τ] [Host σ τ] (hordinary : Host.Ordinary σ) (w : World σ τ)
    (owner : String) (steps : List CleanupStep) :
    After release (w, holding owner steps) fun r s' =>
      (∃ failures, r = .ok failures) ∧ Asks Request.Mute w s'.1 := by
  refine (after_release_holding w owner steps).mono ?_
  rintro r s' ⟨runs, hrel, hok, _⟩
  refine ⟨hok fun x hx e he => ?_, ?_⟩
  · exact hrel.trail.isException (CleanupStep.excepts_run hordinary owner) hx he
  · exact hrel.trail.keeps (fun _ _ => Logs.asks)
      (CleanupStep.keeps_run (fun r hr => Request.mute_of_isRelease hr) owner)

end ProxyTestbed
