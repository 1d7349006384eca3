import ProxyTestbed.Proofs.World.Requests

/-!
# Faults that leave an act

`Raises F act` says that only faults of the family `F` leave `act`, wherever it begins. An act raises what its
parts raise, and a handler raises what it makes of the faults that it is given.

* `Raises.bind`, `Raises.attempt_bind`, `Raises.always`, ...: the rules for acts that are made of others.
-/

namespace ProxyTestbed

variable {σ τ ω α β S : Type} {F G : Fault τ → Prop}

/-- Only faults of the family leave `act`. -/
def Raises (F : Fault τ → Prop) (act : EStateM (Fault τ) S α) : Prop :=
  ∀ s, After act s fun r _ => ∀ e, r = .error e → F e

theorem raises_pure (a : α) : Raises F (pure a : EStateM (Fault τ) S α) := by
  intro s e h
  cases h

theorem raises_throw {e : Fault τ} (h : F e) : Raises F (throw e : EStateM (Fault τ) S α) := by
  rintro s _ ⟨⟩
  exact h

/-- What comes after a fault does not happen. -/
theorem raises_throw_bind {e : Fault τ} (h : F e) (f : α → EStateM (Fault τ) S β) :
    Raises F (throw e >>= f) := by
  rintro s _ ⟨⟩
  exact h

theorem raises_record (level : Log.Level) (source : Log.Source) (message : String) :
    Raises F (record level source message : Act σ τ Unit) := by
  intro w e h
  cases h

theorem raises_sleep [Host σ τ] (hforeign : ∀ f, F (.foreign f)) (seconds : τ) :
    Raises F (sleep seconds : Act σ τ Unit) := by
  refine fun w => (after_sleep seconds w).mono fun r w' hpost e he => ?_
  obtain ⟨-, rfl, -⟩ | ⟨f, -, rfl, -⟩ := hpost
  · cases he
  · cases he
    exact hforeign f

namespace Raises

variable {act : EStateM (Fault τ) S α}

theorem excepts (h : Raises (fun e => e.isException = true) act) : Excepts act :=
  fun s e _ hrun => (h s).error hrun e rfl

theorem mono (h : Raises F act) (hFG : ∀ e, F e → G e) : Raises G act :=
  fun s => (h s).mono fun _ _ hr e he => hFG e (hr e he)

theorem bind {f : α → EStateM (Fault τ) S β} (h : Raises F act) (hf : ∀ a, Raises F (f a)) :
    Raises F (act >>= f) :=
  fun s => after_bind (h s) (fun a s' _ => hf a s') fun _ _ he _ h' => he _ (congrArg _ (Except.error.inj h'))

theorem ite {c : Prop} [Decidable c] {act' : EStateM (Fault τ) S α} (h : Raises F act)
    (h' : Raises F act') : Raises F (if c then act else act') := by
  split
  · exact h
  · exact h'

/-- What follows an attempt is given a fault of the attempt. -/
theorem attempt_bind {f : Except (Fault τ) α → EStateM (Fault τ) S β} (h : Raises F act)
    (hok : ∀ a, Raises G (f (.ok a))) (herror : ∀ e, F e → Raises G (f (.error e))) :
    Raises G (attempt act >>= f) := by
  refine fun s => after_attempt_bind (h s) fun r s' hr => ?_
  cases r with
  | ok a => exact hok a s'
  | error e => exact herror e (hr e rfl) s'

theorem always {last : EStateM (Fault τ) S Unit} (h : Raises F act) (hlast : Raises F last) :
    Raises F (always act last) :=
  h.attempt_bind (fun a => hlast.bind fun _ => raises_pure a)
    fun _ he => hlast.bind fun _ => raises_throw he

/-- A report takes the place of the errors of the outside world that it is for. -/
theorem reporting {report : Foreign → Option (Fault τ)} (h : Raises F act)
    (hforeign : ∀ e, F (.foreign e) → G ((report e).getD (.foreign e))) (hother : ∀ e, F e → G e) :
    Raises G (reporting report act) := by
  refine fun s => after_reporting (h s) (by simp) ?_ ?_
  · rintro e s' he _ ⟨⟩
    exact hforeign e (he _ rfl)
  · rintro e s' he _ _ ⟨⟩
    exact hother e (he _ rfl)

theorem world {act : Act σ τ α} (h : Raises F act) : Raises F (world act : On σ τ ω α) :=
  fun s => after_world (h s.1)

end Raises

end ProxyTestbed
