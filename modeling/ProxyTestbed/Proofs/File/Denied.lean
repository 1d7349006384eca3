import ProxyTestbed.Proofs.Act.Outcome
import ProxyTestbed.Proofs.Act.Raises
import ProxyTestbed.Proofs.Wait.Seen

/-!
# What keeps files from being made

The system may deny an operation on a file, or find that it cannot be done, and both are errors of the system.
Only a path with the character zero is no path to it: the operation is granted, and then fails otherwise.

* `makes_makeDirectories`, `makes_write`: an operation that fails was refused by the system.
* `Refused.denied`: what is refused is an error of the system, or a path holds that character.
-/

namespace ProxyTestbed

variable {σ τ α β : Type}

/-! ## Errors of the daemon and the system -/

/-- An error of the daemon or of the system. -/
def Fault.IsOrdinary (e : Fault τ) : Prop :=
  e.comesFrom (fun f => f.isDocker || f.isSystem) = true

/-- Every request that is not granted is answered with an error of the daemon or of the system. -/
def Host.Ordinary (σ : Type) [Host σ τ] : Prop :=
  ∀ (r : Request τ) (h : σ) (e : Fault τ), (answer r h).1 = .error e → e.IsOrdinary

theorem Host.Ordinary.raises_ask [Host σ τ] (hordinary : Host.Ordinary σ) (r : Request τ) :
    Raises Fault.IsOrdinary (ask r : Act σ τ r.Answer) :=
  fun w => (after_ask r w).mono fun _ _ hpost e he => hordinary r w.host e (hpost.1.symm.trans he)

/-- What a path with the character zero fails with. -/
def Fault.zeroByte : Fault τ :=
  .foreign (FileProblem.zero.toForeign "")

theorem FileProblem.toForeign_zero (shown : String) :
    (.foreign (FileProblem.zero.toForeign shown) : Fault τ) = .zeroByte := by
  simp only [Fault.zeroByte, toForeign]

theorem FileProblem.toForeign_cases (p : FileProblem) (shown : String) :
    (p = .zero ∧ (.foreign (p.toForeign shown) : Fault τ) = .zeroByte) ∨
      (.foreign (p.toForeign shown) : Fault τ).IsOrdinary := by
  cases p with
  | zero => exact .inl ⟨rfl, toForeign_zero shown⟩
  | _ => exact .inr rfl

/-! ## Paths with the character zero -/

namespace Path

theorem hasZero_child {p : Path} {text : String} (h : (p.child text).hasZero = true) :
    p.hasZero = true ∨ (ofString text).hasZero = true := by
  unfold child join at h
  split at h
  · exact .inr h
  · unfold hasZero at h ⊢
    rwa [List.any_append, Bool.or_eq_true] at h

end Path

namespace FileTree

variable {t : FileTree} {p : Path}

theorem follow_ne_zero {names : List String} {here : Location} : t.follow here names ≠ .error .zero := by
  induction names generalizing here with
  | nil =>
    intro h
    cases h
  | cons name names ih =>
    intro h
    rcases bind_eq_error_iff.mp h with hstep | ⟨next, _, hrest⟩
    · unfold step at hstep
      split at hstep
      · cases hstep
      · cases hstep
      · split at hstep
        · cases hstep
        · split at hstep <;> cases hstep
    · exact ih hrest

theorem hasZero_of_place (h : t.place p = .error .zero) : p.hasZero = true := by
  unfold place at h
  split at h
  · assumption
  · exact absurd h follow_ne_zero

theorem hasZero_of_makeDirectory (h : t.makeDirectory p = .error .zero) : p.hasZero = true := by
  rcases bind_eq_error_iff.mp h with hplace | ⟨l, _, hrest⟩
  · exact hasZero_of_place hplace
  · split at hrest <;> cases hrest

theorem hasZero_of_write {content : Bytes} (h : t.write p content = .error .zero) : p.hasZero = true := by
  rcases bind_eq_error_iff.mp h with hplace | ⟨l, _, hrest⟩
  · exact hasZero_of_place hplace
  · split at hrest <;> cases hrest

end FileTree

/-! ## Operations that make files -/

/-- An operation on a path was granted. -/
def Grants (path : Path) (e : Event τ) : Prop :=
  ∃ operation, e = .asked (.file operation path) (.ok ())

/-- Between `w` and `w'` an operation failed with `e`: with an error of the daemon or the system, or because
the character zero is in a path of an operation that was granted. -/
def Denied (w : World σ τ) (e : Fault τ) (w' : World σ τ) : Prop :=
  e.IsOrdinary ∨ e = .zeroByte ∧ ∃ path, path.hasZero = true ∧ Seen (Grants path) w w'

/-- Between two worlds there are only requests to make directories and to write. -/
abbrev Makes : World σ τ → World σ τ → Prop :=
  Asks fun r _ => r.isMaking = true

section

variable [Host σ τ] {w w₁ w₂ : World σ τ} {e : Fault τ}

/-- Between `w` and `w'` the system refused an operation on a file with the fault: the outside world answered it,
or the operation was granted, and then it could not be done. -/
inductive Refused (w : World σ τ) (fault : Fault τ) (w' : World σ τ) : Prop
  | answered {operation : FileOperation} {path : Path} {host : σ}
      (hanswer : (Host.answer (.file operation path) host).1 = .error fault)
      (hseen : Seen (fun e => e = .asked (.file operation path) (.error fault)) w w')
  | failed {operation : FileOperation} {path : Path} {problem : FileProblem} {shown : String}
      (hfault : fault = .foreign (problem.toForeign shown)) (hzero : problem = .zero → path.hasZero = true)
      (hseen : Seen (fun e => e = .asked (.file operation path) (.ok ())) w w')

theorem Refused.after (h : Refused w₁ e w₂) (hmakes : Makes w w₁) : Refused w e w₂ := by
  cases h with
  | answered hanswer hseen => exact .answered hanswer (hmakes.seen hseen)
  | failed hfault hzero hseen => exact .failed hfault hzero (hmakes.seen hseen)

theorem Refused.denied (hordinary : Host.Ordinary σ) (h : Refused w e w₁) : Denied w e w₁ := by
  cases h with
  | answered hanswer hseen => exact .inl (hordinary _ _ _ hanswer)
  | @failed operation path problem shown hfault hzero hseen =>
    rcases problem.toForeign_cases shown with ⟨hproblem, he⟩ | he
    · obtain ⟨late, _, early, hpast, rfl⟩ := hseen
      exact .inr ⟨hfault.trans he, path, hzero hproblem, late, _, early, hpast, operation, rfl⟩
    · rw [← hfault] at he
      exact .inl he

/-- An act makes files, and fails with what it is refused, or with another fault of the family. -/
def MakesFiles (F : Fault τ → Prop) (act : Act σ τ α) : Prop :=
  ∀ w, After act w fun r w' => Makes w w' ∧ ∀ e, r = .error e → Refused w e w' ∨ F e

end

namespace MakesFiles

variable [Host σ τ] {F : Fault τ → Prop}

theorem bind {act : Act σ τ α} {f : α → Act σ τ β} (h : MakesFiles F act) (hf : ∀ a, MakesFiles F (f a)) :
    MakesFiles F (act >>= f) := by
  intro w
  refine after_bind (h w) (fun a w₁ h₁ => (hf a w₁).mono fun r w₂ h₂ => ?_) fun e w₁ h₁ => ⟨h₁.1, ?_⟩
  · exact ⟨trans_of Makes h₁.1 h₂.1, fun e he => (h₂.2 e he).imp_left fun hrefused => hrefused.after h₁.1⟩
  · rintro _ ⟨⟩
    exact h₁.2 e rfl

/-- An act that asks for nothing else and raises faults of the family. -/
theorem of_raises {act : Act σ τ α} (hkeeps : Keeps Makes act) (hraises : Raises F act) : MakesFiles F act :=
  fun w => ((hkeeps w).and (hraises w)).mono fun _ _ h => ⟨h.1, fun e he => .inr (h.2 e he)⟩

theorem pure (a : α) : MakesFiles F (Pure.pure a : Act σ τ α) :=
  .of_raises (.pure a) (raises_pure a)

end MakesFiles

namespace Files

variable [Host σ τ] {F : Fault τ → Prop}

/-- A path that holds the character zero cannot be resolved. -/
theorem makes_resolve {path : Path} (hzero : path.hasZero = true → F .zeroByte) :
    MakesFiles F (resolve path : Act σ τ Path) := by
  refine .of_raises (keeps_resolve path) fun w => .of_run (by simp) fun e w' hrun => ?_
  unfold resolve look at hrun
  by_cases hpath : path.hasZero = true
  · simp only [hpath, if_true] at hrun
    cases hrun
    rintro _ ⟨⟩
    rw [FileProblem.toForeign_zero]
    exact hzero hpath
  · simp only [hpath, Bool.false_eq_true, if_false] at hrun
    cases hrun

/-- An operation is asked for, and then it is done, if the system can do it. -/
theorem makes_ask_change {operation : FileOperation} {path : Path}
    (hmaking : (Request.file operation path : Request τ).isMaking = true) (shown : String)
    {f : FileTree → Except FileProblem FileTree} (hzero : ∀ t, f t = .error .zero → path.hasZero = true) :
    MakesFiles F (do ask (.file operation path); change shown f : Act σ τ Unit) := by
  intro w
  refine after_bind (after_ask _ w) ?_ ?_
  · rintro _ w₁ ⟨_, _, _, hpast⟩
    have hmakes : Makes w w₁ := (refl_of Makes w).ask hpast hmaking
    refine (after_change_files shown f w₁).mono ?_
    rintro r w₂ (⟨_, _, rfl, rfl⟩ | ⟨p, hf, rfl, rfl⟩)
    · exact ⟨hmakes, by simp⟩
    · refine ⟨hmakes, ?_⟩
      rintro _ ⟨⟩
      refine .inl (.failed rfl (fun hp => ?_) (.of_last (refl_of Makes w) hpast rfl))
      rw [hp] at hf
      exact hzero _ hf
  · rintro e w₁ ⟨hanswer, _, _, hpast⟩
    refine ⟨(refl_of Makes w).ask hpast hmaking, ?_⟩
    rintro _ ⟨⟩
    exact .inl (.answered hanswer.symm (.of_last (refl_of Makes w) hpast rfl))

theorem makes_makeDirectoryCalled (text : String) (path : Path) :
    MakesFiles F (makeDirectoryCalled text path : Act σ τ Unit) :=
  makes_ask_change rfl _ fun _ => FileTree.hasZero_of_makeDirectory

theorem makes_write (path : Path) (content : Bytes) : MakesFiles F (write path content : Act σ τ Unit) :=
  makes_ask_change rfl _ fun _ => FileTree.hasZero_of_write

theorem makes_makeDirectoryOr (existing : Bool) (path : Path) :
    MakesFiles F (makeDirectoryOr existing path : Act σ τ Unit) := by
  have hmake : MakesFiles F (makeDirectory path : Act σ τ Unit) := makes_makeDirectoryCalled _ path
  refine fun w => after_attempt_bind (hmake w) ?_
  rintro (e | _) w₁ ⟨hmakes, hfails⟩
  · have hlook : After (isDirectory path) w₁ fun r w₂ => (∃ there, r = .ok there) ∧ w₂ = w₁ :=
      ⟨⟨_, rfl⟩, rfl⟩
    refine after_bind hlook ?_ ?_
    · rintro there _ ⟨_, rfl⟩
      refine after_ite (fun _ => after_pure ⟨hmakes, by simp⟩) fun _ => after_throw ⟨hmakes, ?_⟩
      rintro _ ⟨⟩
      exact hfails e rfl
    · rintro _ _ ⟨⟨_, h⟩, _⟩
      cases h
  · exact after_pure ⟨hmakes, by simp⟩

theorem makes_makeDirectoriesFrom (depth : Nat) (existing : Bool) (path : Path) :
    MakesFiles F (makeDirectoriesFrom depth existing path : Act σ τ Unit) := by
  induction depth generalizing existing path with
  | zero => exact makes_makeDirectoryOr existing path
  | succ depth ih =>
    have hmake : MakesFiles F (makeDirectoryOr existing path : Act σ τ Unit) :=
      makes_makeDirectoryOr existing path
    refine fun w => after_attempt_bind (hmake w) ?_
    rintro (e | _) w₁ ⟨hmakes, hfails⟩
    · refine after_ite (fun _ => ?_) fun _ => after_throw ⟨hmakes, ?_⟩
      · -- the directory above is made first, and then this one again
        have hagain := (ih true path.parent).bind fun _ => hmake
        refine (hagain w₁).mono fun r w₂ hpost => ⟨trans_of Makes hmakes hpost.1, fun e he => ?_⟩
        exact (hpost.2 e he).imp_left fun hrefused => hrefused.after hmakes
      · rintro _ ⟨⟩
        exact hfails e rfl
    · exact after_pure ⟨hmakes, by simp⟩

theorem makes_makeDirectories (existing : Bool) (path : Path) :
    MakesFiles F (makeDirectories existing path : Act σ τ Unit) :=
  makes_makeDirectoriesFrom _ existing path

end Files

end ProxyTestbed
