import ProxyTestbed.Proofs.Backend.Requests

/-!
# Containers that are held

A container is held from the answer that it was made until its removal is asked for. `Holds w cs w'` says
which containers were made between `w` and `w'` and are held at `w'`; no other request changes that.

How an act ends depends on what it was answered. `Judged P N w r w'` says that `r` is tidy, a result or a
report of the testbed's own, if and only if all answers between `w` and `w'` satisfy `P`.

* `Holds.spares`, `Holds.create`, `Holds.remove`: what requests do to the containers that are held.
* `Judged.trans`: the judgement of one act after another.
-/

namespace ProxyTestbed

variable {σ τ α β : Type}

/-! ## Held containers -/

/-- The containers that are held after an event. -/
def Event.hold (cs : List Container) : Event τ → List Container
  | .asked (.docker (.create _)) (.ok c) => c :: cs
  | .asked (.docker (.remove c)) _ => cs.filter (· ≠ c)
  | _ => cs

/-- The containers that are held after what happened, the latest first. -/
def held (past : List (Event τ)) : List Container :=
  past.foldr (fun e cs => e.hold cs) []

/-- The containers that were made between `w` and `w'` and are held at `w'`. -/
def Holds (w : World σ τ) (cs : List Container) (w' : World σ τ) : Prop :=
  ∃ es, w'.past = es ++ w.past ∧ held es = cs

/-- A request that makes no container, with its answer, and removes none. -/
def Request.Spares : (r : Request τ) → Except (Fault τ) r.Answer → Prop
  | .docker (.create _), .ok _ => False
  | .docker (.remove _), _ => False
  | _, _ => True

theorem Event.hold_asked {r : Request τ} {a : Except (Fault τ) r.Answer} (h : r.Spares a)
    (cs : List Container) : (Event.asked r a).hold cs = cs := by
  unfold hold
  split
  · rename_i heq
    cases heq
    exact absurd h id
  · rename_i heq
    cases heq
    exact absurd h id
  · rfl

theorem held_append {es : List (Event τ)} (h : ∀ r a, Event.asked r a ∈ es → Request.Spares r a)
    (past : List (Event τ)) : held (es ++ past) = held past := by
  induction es with
  | nil => rfl
  | cons e es ih =>
    have hrest : held (es ++ past) = held past :=
      ih fun r a hm => h r a (List.mem_cons_of_mem _ hm)
    calc held (e :: es ++ past)
        = e.hold (held (es ++ past)) := rfl
      _ = e.hold (held past) := by rw [hrest]
      _ = held past := by
        cases e with
        | asked r a => exact Event.hold_asked (h r a List.mem_cons_self) _
        | record level source message => rfl
        | mark label detail => rfl
        | slept seconds => rfl

namespace Holds

variable {w w₁ w₂ : World σ τ} {cs : List Container} {c : Container}

theorem refl (w : World σ τ) : Holds w [] w := ⟨[], rfl, rfl⟩

theorem spares (h : Holds w cs w₁) (hspares : Asks Request.Spares w₁ w₂) : Holds w cs w₂ := by
  obtain ⟨es, hpast, hheld⟩ := h
  obtain ⟨es', hpast', hspares⟩ := hspares
  refine ⟨es' ++ es, by rw [hpast', hpast, List.append_assoc], ?_⟩
  rw [held_append hspares, hheld]

theorem asked {r : Request τ} {a : Except (Fault τ) r.Answer} (h : Holds w cs w₁)
    (hpast : w₂.past = .asked r a :: w₁.past) : Holds w ((Event.asked r a).hold cs) w₂ := by
  obtain ⟨es, hes, rfl⟩ := h
  exact ⟨.asked r a :: es, by rw [hpast, hes]; rfl, rfl⟩

theorem create {plan : ContainerPlan} (h : Holds w cs w₁)
    (hpast : w₂.past = .asked (.docker (.create plan)) (.ok c) :: w₁.past) : Holds w (c :: cs) w₂ :=
  h.asked hpast

theorem remove {a : Except (Fault τ) Unit} (h : Holds w [c] w₁)
    (hpast : w₂.past = .asked (.docker (.remove c)) a :: w₁.past) : Holds w [] w₂ := by
  have hfilter : [c].filter (· ≠ c) = [] := by simp
  rw [← hfilter]
  exact h.asked hpast

end Holds

/-! ## Judgements -/

/-- The testbed reports the fault as a problem of setting up or of starting. -/
def Fault.IsReport : Fault τ → Prop
  | .start _ | .provisioning _ => True
  | _ => False

/-- A result, a report, or a wait that goes on for too long. -/
def Tidy (r : Except (Fault τ) α) : Prop :=
  ∀ e, r = .error e → e.IsReport ∨ e = .stalled

theorem tidy_ok (a : α) : Tidy (.ok a : Except (Fault τ) α) := by
  simp [Tidy]

theorem tidy_error {e : Fault τ} : Tidy (.error e : Except (Fault τ) α) ↔ e.IsReport ∨ e = .stalled := by
  simp [Tidy]

/-- Between `w` and `w'` an act came to the end `r`, which is tidy if and only if all answers satisfied `P`;
`N` holds if it was a wait that went on for too long. -/
structure Judged (P : (r : Request τ) → Except (Fault τ) r.Answer → Prop) (N : Prop) (w : World σ τ)
    (r : Except (Fault τ) α) (w' : World σ τ) : Prop where
  past : w.past <:+ w'.past
  tidy : Tidy r ↔ Asks P w w'
  stalled : r = .error .stalled → N

namespace Judged

variable {P : (r : Request τ) → Except (Fault τ) r.Answer → Prop} {N : Prop} {w w₁ w₂ : World σ τ}
  {r : Except (Fault τ) α} {a : β}

theorem of_asks (h : Asks P w w₁) (hr : Tidy r) (hstalled : r = .error .stalled → N) :
    Judged P N w r w₁ := by
  obtain ⟨es, hes, hP⟩ := h
  exact ⟨⟨es, hes.symm⟩, iff_of_true hr ⟨es, hes, hP⟩, hstalled⟩

theorem ok {a : α} (h : Asks P w w₁) : Judged P N w (.ok a) w₁ :=
  of_asks h (tidy_ok a) (by simp)

theorem report {e : Fault τ} (h : Asks P w w₁) (he : e.IsReport) :
    Judged P N w (.error e : Except (Fault τ) α) w₁ := by
  refine of_asks h (tidy_error.mpr (.inl he)) fun hstalled => ?_
  cases hstalled
  exact absurd he id

/-- An answer that does not satisfy `P` ends the act. -/
theorem bad {request : Request τ} {answer : Except (Fault τ) request.Answer} {e : Fault τ}
    (hpast : w₁.past = .asked request answer :: w.past) (hanswer : ¬ P request answer)
    (he : ¬ e.IsReport) (hstalled : e ≠ .stalled) :
    Judged P N w (.error e : Except (Fault τ) α) w₁ := by
  refine ⟨⟨[.asked request answer], hpast.symm⟩, iff_of_false ?_ ?_,
    fun hr => absurd (Except.error.inj hr) hstalled⟩
  · rw [tidy_error]
    exact not_or.mpr ⟨he, hstalled⟩
  · rintro ⟨es, hes, hP⟩
    have heq : es = [.asked request answer] :=
      List.append_cancel_right (hes.symm.trans hpast)
    exact hanswer (hP request answer (by rw [heq]; exact List.mem_singleton_self _))

theorem asks (h : Judged P N w (.ok a : Except (Fault τ) β) w₁) : Asks P w w₁ :=
  h.tidy.mp (tidy_ok a)

theorem trans (h : Judged P N w (.ok a : Except (Fault τ) β) w₁) (h' : Judged P N w₁ r w₂) :
    Judged P N w r w₂ where
  past := h.past.trans h'.past
  tidy := by
    rw [Asks.split h.past h'.past, h'.tidy]
    exact ⟨fun hP => ⟨h.asks, hP⟩, And.right⟩
  stalled := h'.stalled

/-- A fault is judged the same, whatever would have been answered. -/
theorem fault {e : Fault τ} (h : Judged P N w (.error e : Except (Fault τ) β) w₁) :
    Judged P N w (.error e : Except (Fault τ) α) w₁ :=
  ⟨h.past, by rw [tidy_error, ← h.tidy, tidy_error], fun hr => h.stalled (by cases hr; rfl)⟩

/-- What comes after a fault, and is answered as it should be, does not change how it is judged. -/
theorem followed (h : Judged P N w r w₁) (hasks : Asks P w₁ w₂) : Judged P N w r w₂ where
  past := by
    obtain ⟨es, hes, _⟩ := hasks
    exact h.past.trans ⟨es, hes.symm⟩
  tidy := by
    obtain ⟨es, hes, hP⟩ := hasks
    rw [Asks.split h.past ⟨es, hes.symm⟩, h.tidy]
    exact ⟨fun h => ⟨h, es, hes, hP⟩, And.left⟩
  stalled := h.stalled

/-- An end that is not tidy stays so, whatever came before it. -/
theorem untidy {N' : Prop} (hpast : w.past <:+ w₁.past) (h : Judged P N' w₁ r w₂) (hr : ¬ Tidy r) :
    Judged P N w r w₂ where
  past := hpast.trans h.past
  tidy := by
    refine iff_of_false hr fun hasks => hr (h.tidy.mpr ?_)
    exact ((Asks.split hpast h.past).mp hasks).2
  stalled := by
    rintro rfl
    exact absurd (tidy_error.mpr (.inr rfl)) hr

theorem mono {N' : Prop} (h : Judged P N w r w₁) (hN : N → N') : Judged P N' w r w₁ :=
  ⟨h.past, h.tidy, fun hr => hN (h.stalled hr)⟩

end Judged

end ProxyTestbed
