import ProxyTestbed.Proofs.World.Requests

/-!
# What the outside world tells

Of all that happened, only some answers of the daemon tell something about a container: that it was made or
started, what is in its log, and what its attributes are. Besides, a sleep may be refused. `Tells w ts w'` lists
these between two worlds, the latest first.

* `Tells.trans`, `tells_asked`, `tells_of_mute`: how the list grows.
* `after_sleep_told`: a sleep tells something only if it is refused.
-/

namespace ProxyTestbed

variable {σ τ : Type}

/-- What an answer of the daemon tells about a container; and the refusal of a sleep. -/
inductive Telling
  | created (plan : ContainerPlan) (container : Container)
  | started (container : Container)
  | logged (container : Container) (content : Bytes)
  | inspected (container : Container) (report : ContainerReport)
  | sleepless (cause : Foreign)

def Event.telling? : Event τ → Option Telling
  | .asked (.docker (.create plan)) (.ok c) => some (.created plan c)
  | .asked (.docker (.start c)) (.ok _) => some (.started c)
  | .asked (.docker (.logs c _)) (.ok content) => some (.logged c content)
  | .asked (.docker (.inspect c)) (.ok report) => some (.inspected c report)
  | .asked (.sleep _) (.error (.foreign cause)) => some (.sleepless cause)
  | _ => none

/-- What was told between `w` and `w'`, the latest first. -/
def Tells (w : World σ τ) (ts : List Telling) (w' : World σ τ) : Prop :=
  ∃ es, w'.past = es ++ w.past ∧ es.filterMap Event.telling? = ts

/-- A request whose answer tells nothing. -/
def Request.Mute (r : Request τ) (a : Except (Fault τ) r.Answer) : Prop :=
  (Event.asked r a).telling? = none

theorem Request.mute_docker_error (call : DockerCall) (e : Fault τ) :
    (Request.docker call : Request τ).Mute (.error e) := by
  cases call <;> rfl

theorem Request.mute_of_isMaking {r : Request τ} (h : r.isMaking = true) (a : Except (Fault τ) r.Answer) :
    r.Mute a := by
  unfold isMaking at h
  split at h
  · rfl
  · rfl
  · cases h

theorem Request.mute_of_isSocket {r : Request τ} (h : r.isSocket = true) (a : Except (Fault τ) r.Answer) :
    r.Mute a := by
  unfold isSocket at h
  split at h
  · rfl
  · rfl
  · rfl
  · rfl
  · cases h

section

variable {w w₁ w₂ : World σ τ} {ts ts' : List Telling}

theorem tells_of_mute (h : Asks Request.Mute w w₁) : Tells w [] w₁ := by
  refine finds_of_asks (fun e he => ?_) h
  cases e with
  | asked r a => exact absurd rfl (he r a)
  | _ => rfl

namespace Tells

theorem trans (h : Tells w ts w₁) (h' : Tells w₁ ts' w₂) : Tells w (ts' ++ ts) w₂ :=
  Finds.trans h h'

theorem mute (h : Tells w ts w₁) (h' : Asks Request.Mute w₁ w₂) : Tells w ts w₂ :=
  h.trans (tells_of_mute h')

theorem after_mute (h : Tells w₁ ts w₂) (h' : Asks Request.Mute w w₁) : Tells w ts w₂ := by
  simpa only [List.append_nil] using (tells_of_mute h').trans h

end Tells

/-- A call that the daemon does not grant tells nothing. -/
theorem mute_of_refusal {call : DockerCall} {e : Fault τ}
    (hpast : w₁.past = .asked (.docker call) (.error e) :: w.past) : Asks Request.Mute w w₁ :=
  (refl_of (Asks _) w).ask hpast (Request.mute_docker_error call e)

/-- One answer. -/
theorem tells_asked {r : Request τ} {a : Except (Fault τ) r.Answer} (hpast : w₁.past = .asked r a :: w.past) :
    Tells w (Event.asked r a).telling?.toList w₁ :=
  finds_asked hpast

theorem after_sleep_told [Host σ τ] (seconds : τ) (w : World σ τ) :
    After (sleep seconds) w fun r w' =>
      (r = .ok () → Tells w [] w') ∧ ∀ e, r = .error e → ∃ f, e = .foreign f ∧ Tells w [.sleepless f] w' := by
  refine .of_run (fun _ w' hrun => ⟨fun _ => tells_of_mute (asks_slept hrun), by simp⟩) fun e w' hrun => ?_
  obtain ⟨f, -, rfl, hpast⟩ := of_sleep_error hrun
  refine ⟨by simp, ?_⟩
  rintro _ ⟨⟩
  exact ⟨f, rfl, tells_asked hpast⟩

end

end ProxyTestbed
