import Mathlib.Order.Defs.Unbundled
import ProxyTestbed.Outside.World

/-!
# What comes after an act

An act ends in a result or in a fault, and leaves a state behind in both cases. `After act s P` speaks
about both at once, so that what an act did before a fault is not lost. `Keeps R act` is the frame of an
act: however it ends, the state before and the one after it are related by `R`.

* `after_bind`: the rule for one act after another; the second one may assume what the first one promised.
* `Keeps.bind`, `Keeps.attempt`, `Keeps.always`, ...: a preorder that all parts of an act keep is kept by
  the act.
-/

namespace ProxyTestbed

variable {σ τ ω π S α β : Type}

/-- The end of `act`, begun at `s`, and the state that it leaves satisfy `P`. -/
def After (act : EStateM (Fault τ) S α) (s : S) (P : Except (Fault τ) α → S → Prop) : Prop :=
  match act s with
  | .ok a s' => P (.ok a) s'
  | .error e s' => P (.error e) s'

instance (act : EStateM (Fault τ) S α) (s : S) (P : Except (Fault τ) α → S → Prop)
    [∀ r s', Decidable (P r s')] : Decidable (After act s P) :=
  match h : act s with
  | .ok a s' => decidable_of_iff (P (.ok a) s') (by simp only [After, h])
  | .error e s' => decidable_of_iff (P (.error e) s') (by simp only [After, h])

section

variable {act : EStateM (Fault τ) S α} {s : S} {P Q : Except (Fault τ) α → S → Prop}

theorem After.mono (h : After act s P) (hPQ : ∀ r s', P r s' → Q r s') : After act s Q := by
  unfold After at h ⊢
  split at h
  · exact hPQ _ _ h
  · exact hPQ _ _ h

theorem After.and (h₁ : After act s P) (h₂ : After act s Q) :
    After act s fun r s' => P r s' ∧ Q r s' := by
  unfold After at h₁ h₂ ⊢
  split at h₁ <;> simp_all

theorem After.congr {act' : EStateM (Fault τ) S α} (h : act s = act' s) (hafter : After act' s P) :
    After act s P := by
  unfold After at hafter ⊢
  rwa [h]

theorem After.ok {a : α} {s' : S} (h : After act s P) (hrun : act s = .ok a s') : P (.ok a) s' := by
  simpa only [After, hrun] using h

theorem After.error {e : Fault τ} {s' : S} (h : After act s P) (hrun : act s = .error e s') :
    P (.error e) s' := by
  simpa only [After, hrun] using h

theorem After.of_run (hok : ∀ a s', act s = .ok a s' → P (.ok a) s')
    (herror : ∀ e s', act s = .error e s' → P (.error e) s') : After act s P := by
  unfold After
  cases h : act s with
  | ok a s' => exact hok a s' h
  | error e s' => exact herror e s' h

theorem After.attempted {r : Except (Fault τ) α} {s' : S} (h : After act s P)
    (hrun : attempt act s = .ok r s') : P r s' := by
  unfold After at h
  unfold attempt at hrun
  split at h
  · rename_i heq
    rw [heq] at hrun
    cases hrun
    exact h
  · rename_i heq
    rw [heq] at hrun
    cases hrun
    exact h

theorem After.exists_attempt (h : After act s P) : ∃ r s', attempt act s = .ok r s' ∧ P r s' := by
  unfold After at h
  unfold attempt
  cases hrun : act s with
  | ok a s' =>
    rw [hrun] at h
    exact ⟨.ok a, s', rfl, h⟩
  | error e s' =>
    rw [hrun] at h
    exact ⟨.error e, s', rfl, h⟩

/-- The state that `act` leaves, whether it ends in a result or in a fault. -/
def stateAfter (act : EStateM (Fault τ) S α) (s : S) : S :=
  match act s with
  | .ok _ s' | .error _ s' => s'

theorem After.stateAfter {R : S → Prop} (h : After act s fun _ s' => R s') : R (stateAfter act s) := by
  unfold After at h
  unfold ProxyTestbed.stateAfter
  cases hrun : act s with
  | ok a s' => simpa only [hrun] using h
  | error e s' => simpa only [hrun] using h

theorem stateAfter_of_attempt {r : Except (Fault τ) α} {s' : S} (h : attempt act s = .ok r s') :
    stateAfter act s = s' := by
  unfold attempt at h
  unfold stateAfter
  cases hrun : act s with
  | ok a s₁ =>
    rw [hrun] at h
    cases h
    rfl
  | error e s₁ =>
    rw [hrun] at h
    cases h
    rfl

theorem after_trivial : After act s fun _ _ => True :=
  .of_run (fun _ _ _ => trivial) fun _ _ _ => trivial

theorem after_run (act : EStateM (Fault τ) S α) (s : S) :
    After act s fun r s' => attempt act s = .ok r s' :=
  .of_run (fun a s' h => by simp only [attempt, h]) fun e s' h => by simp only [attempt, h]

theorem of_attempt_ok {act : EStateM (Fault τ) S α} {a : α} {s s' : S}
    (h : attempt act s = .ok (.ok a) s') : act s = .ok a s' := by
  unfold attempt at h
  split at h
  · rename_i hrun
    cases h
    exact hrun
  · cases h

theorem of_attempt_error {act : EStateM (Fault τ) S α} {e : Fault τ} {s s' : S}
    (h : attempt act s = .ok (.error e) s') : act s = .error e s' := by
  unfold attempt at h
  split at h
  · cases h
  · rename_i hrun
    cases h
    exact hrun

theorem attempt_conclude (r : Except (Fault τ) α) (s : S) : attempt (conclude r) s = .ok r s := by
  cases r <;> rfl

theorem Fault.exists_foreign {family : Foreign → Bool} {e : Fault τ} (h : e.comesFrom family = true) :
    ∃ f, e = .foreign f ∧ family f = true := by
  cases e with
  | foreign f => exact ⟨f, rfl, h⟩
  | _ => cases h

/-- Only exceptions leave `act`: faults that can be dealt with, not an interruption. -/
def Excepts (act : EStateM (Fault τ) S α) : Prop :=
  ∀ s e s', act s = .error e s' → e.isException = true

theorem after_pure {a : α} (h : P (.ok a) s) : After (pure a) s P := h

theorem after_throw {e : Fault τ} (h : P (.error e) s) : After (throw e) s P := h

theorem after_ite {c : Prop} [Decidable c] {act' : EStateM (Fault τ) S α} (h : c → After act s P)
    (h' : ¬ c → After act' s P) : After (if c then act else act') s P := by
  split
  · exact h ‹_›
  · exact h' ‹_›

theorem after_bind {f : α → EStateM (Fault τ) S β} {R : Except (Fault τ) β → S → Prop}
    (h : After act s P) (hok : ∀ a s', P (.ok a) s' → After (f a) s' R)
    (herror : ∀ e s', P (.error e) s' → R (.error e) s') : After (act >>= f) s R := by
  unfold After at h ⊢
  simp only [bind, EStateM.bind]
  cases hrun : act s with
  | ok a s' => rw [hrun] at h; exact hok a s' h
  | error e s' => rw [hrun] at h; exact herror e s' h

theorem after_attempt {P : Except (Fault τ) (Except (Fault τ) α) → S → Prop}
    (h : After act s fun r => P (.ok r)) : After (attempt act) s P := by
  unfold After attempt at *
  cases hrun : act s with
  | ok a s' => rw [hrun] at h; exact h
  | error e s' => rw [hrun] at h; exact h

theorem after_conclude {r : Except (Fault τ) α} (h : P r s) : After (conclude r) s P := by
  cases r with
  | ok a => exact h
  | error e => exact h

theorem after_conclude_bind {r : Except (Fault τ) α} {f : α → EStateM (Fault τ) S β}
    {R : Except (Fault τ) β → S → Prop} (hok : ∀ a, r = .ok a → After (f a) s R)
    (herror : ∀ e, r = .error e → R (.error e) s) : After (conclude r >>= f) s R := by
  cases r with
  | ok a => exact hok a rfl
  | error e => exact herror e rfl

/-- What an act ends in is answered, so what follows decides about a fault as well as about a result. -/
theorem after_attempt_bind {f : Except (Fault τ) α → EStateM (Fault τ) S β}
    {R : Except (Fault τ) β → S → Prop} (h : After act s P)
    (hf : ∀ r s', P r s' → After (f r) s' R) : After (attempt act >>= f) s R := by
  have hattempt : After (attempt act) s fun r s' => ∃ r', r = .ok r' ∧ P r' s' :=
    after_attempt (h.mono fun r _ hr => ⟨r, rfl, hr⟩)
  refine after_bind hattempt ?_ ?_
  · intro r s' hpost
    obtain ⟨_, ⟨⟩, hr⟩ := hpost
    exact hf r s' hr
  · intro e s' hpost
    obtain ⟨_, h', _⟩ := hpost
    cases h'

/-- The rule for an attempt that keeps the very run of the act. -/
theorem after_attempt_run {f : Except (Fault τ) α → EStateM (Fault τ) S β}
    {R : Except (Fault τ) β → S → Prop}
    (hf : ∀ r s', attempt act s = .ok r s' → After (f r) s' R) : After (attempt act >>= f) s R :=
  after_attempt_bind (after_run act s) hf

theorem after_always {last : EStateM (Fault τ) S Unit} (h : After act s P)
    (hlast : ∀ r s', P r s' → After last s' fun r' s'' =>
      match r' with
      | .ok () => Q r s''
      | .error e => Q (.error e) s'') :
    After (always act last) s Q :=
  after_attempt_bind h fun r s' hr =>
    after_bind (hlast r s' hr) (fun _ _ h' => after_conclude h') fun _ _ h' => h'

theorem after_reporting {report : Foreign → Option (Fault τ)} (h : After act s P)
    (hok : ∀ a s', P (.ok a) s' → Q (.ok a) s')
    (hforeign : ∀ e s', P (.error (.foreign e)) s' → Q (.error ((report e).getD (.foreign e))) s')
    (herror : ∀ e s', P (.error e) s' → (∀ f, e ≠ .foreign f) → Q (.error e) s') :
    After (reporting report act) s Q := by
  refine after_attempt_bind h fun r s' hr => ?_
  cases r with
  | ok a => exact hok a s' hr
  | error e =>
    cases e with
    | foreign f => exact hforeign f s' hr
    | _ => exact herror _ s' hr (by simp)

end

/-! ## Acts on a world and an object -/

section

variable {P : Except (Fault τ) α → World σ τ × ω → Prop}

theorem after_world {act : Act σ τ α} {s : World σ τ × ω}
    (h : After act s.1 fun r w => P r (w, s.2)) : After (world act) s P := by
  unfold After world at *
  cases hrun : act s.1 with
  | ok a w => rw [hrun] at h; exact h
  | error e w => rw [hrun] at h; exact h

/-- An act on the world alone leaves the object beside it as it is. -/
theorem After.world {act : Act σ τ α} {s : World σ τ × ω}
    {P : Except (Fault τ) α → World σ τ → Prop} (h : After act s.1 P) :
    After (world act) s fun r s' => P r s'.1 ∧ s'.2 = s.2 :=
  after_world (h.mono fun _ _ hw => ⟨hw, rfl⟩)

theorem of_world_ok {act : Act σ τ α} {a : α} {s s' : World σ τ × ω} (h : world act s = .ok a s') :
    act s.1 = .ok a s'.1 ∧ s'.2 = s.2 := by
  obtain ⟨hrun, hsame⟩ := (after_run act s.1).world.ok h
  exact ⟨of_attempt_ok hrun, hsame⟩

theorem of_world_error {act : Act σ τ α} {e : Fault τ} {s s' : World σ τ × ω} (h : world act s = .error e s') :
    act s.1 = .error e s'.1 ∧ s'.2 = s.2 := by
  obtain ⟨hrun, hsame⟩ := (after_run act s.1).world.error h
  exact ⟨of_attempt_error hrun, hsame⟩

theorem after_part {get : ω → π} {put : π → ω → ω} {act : On σ τ π α} {s : World σ τ × ω}
    (h : After act (s.1, get s.2) fun r s' => P r (s'.1, put s'.2 s.2)) :
    After (On.part get put act) s P := by
  unfold After On.part at *
  cases hrun : act (s.1, get s.2) with
  | ok a s' => rw [hrun] at h; exact h
  | error e s' => rw [hrun] at h; exact h

theorem after_start {act : On σ τ ω α} {o : ω} {w : World σ τ}
    {Q : Except (Fault τ) (Except (Fault τ) α × ω) → World σ τ → Prop}
    (h : After act (w, o) fun r s => Q (.ok (r, s.2)) s.1) : After (On.start o act) w Q := by
  unfold After On.start at *
  cases hrun : act (w, o) with
  | ok a s' => rw [hrun] at h; exact h
  | error e s' => rw [hrun] at h; exact h

/-- The rule for an act on an object of its own that ends what comes after it if it fails. -/
theorem after_start_conclude {act : On σ τ ω α} {f : α → ω → Act σ τ β} {o : ω} {w : World σ τ}
    {Q : Except (Fault τ) β → World σ τ → Prop} (h : After act (w, o) P)
    (hok : ∀ a s, P (.ok a) s → After (f a s.2) s.1 Q)
    (herror : ∀ e s, P (.error e) s → Q (.error e) s.1) :
    After (On.start o act >>= fun x => conclude x.1 >>= fun a => f a x.2) w Q := by
  refine after_bind (P := fun x w' => ∃ r o', x = .ok (r, o') ∧ P r (w', o')) (after_start (h.mono ?_)) ?_ ?_
  · exact fun r s hr => ⟨r, s.2, rfl, hr⟩
  · intro _ w₁ hpost
    obtain ⟨r, o', ⟨⟩, hr⟩ := hpost
    cases r with
    | ok a => exact hok a (w₁, o') hr
    | error e => exact herror e (w₁, o') hr
  · intro e w₁ hpost
    obtain ⟨_, _, h, _⟩ := hpost
    cases h

/-- The rule for an act on an object of its own, of which only the end matters. -/
theorem after_start_end {act : On σ τ ω α} {o : ω} {w : World σ τ}
    {P : Except (Fault τ) α → World σ τ → Prop} (h : After act (w, o) fun r s => P r s.1) :
    After (On.start o act >>= fun x => conclude x.1) w P := by
  refine after_bind (P := fun x w' => ∃ r o', x = .ok (r, o') ∧ P r w') (after_start (h.mono ?_)) ?_ ?_
  · exact fun r s hr => ⟨r, s.2, rfl, hr⟩
  · intro _ w₁ hpost
    obtain ⟨r, o', ⟨⟩, hr⟩ := hpost
    exact after_conclude hr
  · intro e w₁ hpost
    obtain ⟨_, _, h, _⟩ := hpost
    cases h

end

theorem after_object_bind {f : ω → On σ τ ω α} {s : World σ τ × ω}
    {P : Except (Fault τ) α → World σ τ × ω → Prop} (h : After (f s.2) s P) :
    After (On.object >>= f) s P := h

theorem after_change {g : ω → ω} {s : World σ τ × ω} {P : Except (Fault τ) Unit → World σ τ × ω → Prop}
    (h : P (.ok ()) (s.1, g s.2)) : After (On.change g) s P := h

theorem after_change_bind {g : ω → ω} {f : Unit → On σ τ ω α} {s : World σ τ × ω}
    {P : Except (Fault τ) α → World σ τ × ω → Prop} (h : After (f ()) (s.1, g s.2) P) :
    After (On.change g >>= f) s P := h

/-! ## Frames -/

/-- Wherever `act` begins and however it ends, `R` relates the state before it to the one after it. -/
def Keeps (R : S → S → Prop) (act : EStateM (Fault τ) S α) : Prop :=
  ∀ s, After act s fun _ s' => R s s'

namespace Keeps

variable {R : S → S → Prop} {act : EStateM (Fault τ) S α}

theorem of_ok {a : α} {s s' : S} (h : Keeps R act) (hrun : act s = .ok a s') : R s s' :=
  (h s).ok hrun

theorem mono {R' : S → S → Prop} (h : Keeps R act) (hR : ∀ s s', R s s' → R' s s') : Keeps R' act :=
  fun s => (h s).mono fun _ s' => hR s s'

theorem attempt (h : Keeps R act) : Keeps R (attempt act) := fun s => after_attempt (h s)

theorem reporting {report : Foreign → Option (Fault τ)} (h : Keeps R act) :
    Keeps R (reporting report act) := fun s =>
  after_reporting (h s) (fun _ _ h => h) (fun _ _ h => h) fun _ _ h _ => h

theorem ite {c : Prop} [Decidable c] {act' : EStateM (Fault τ) S α} (h : Keeps R act)
    (h' : Keeps R act') : Keeps R (if c then act else act') := by
  split
  · exact h
  · exact h'

variable [IsPreorder S R]

theorem pure (a : α) : Keeps R (Pure.pure a : EStateM (Fault τ) S α) :=
  fun s => refl_of R s

theorem throw (e : Fault τ) : Keeps R (MonadExcept.throw e : EStateM (Fault τ) S α) :=
  fun s => refl_of R s

/-- What comes after a fault does not happen. -/
theorem throw_bind (e : Fault τ) (f : α → EStateM (Fault τ) S β) :
    Keeps R (MonadExcept.throw e >>= f) :=
  fun s => refl_of R s

theorem conclude (r : Except (Fault τ) α) : Keeps R (conclude r) :=
  fun s => after_conclude (refl_of R s)

theorem bind {f : α → EStateM (Fault τ) S β} (h : Keeps R act) (hf : ∀ a, Keeps R (f a)) :
    Keeps R (act >>= f) := fun s =>
  after_bind (h s) (fun a s' hs => (hf a s').mono fun _ _ hs' => trans_of R hs hs')
    fun _ _ hs => hs

theorem always {last : EStateM (Fault τ) S Unit} (h : Keeps R act) (hlast : Keeps R last) :
    Keeps R (always act last) :=
  (attempt h).bind fun r => hlast.bind fun _ => conclude r

end Keeps

end ProxyTestbed
