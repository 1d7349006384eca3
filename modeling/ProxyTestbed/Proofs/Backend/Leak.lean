import ProxyTestbed.Environment.Use
import ProxyTestbed.Proofs.Backend.Launched
import ProxyTestbed.Proofs.Wait.Steady

/-!
# When a launch leaks a container

A launch that fails is to remove the container that it made. It does so if it reports a problem of its own,
but an error of the daemon while the container is looked at or removed is let through, and so is the error of a
sleep that is refused; both leave the container held.

* `launch_noLeak_iff`: a launch leaks no container if and only if all its answers are fine.
-/

namespace ProxyTestbed.Backend

variable {σ τ : Type} [Seconds τ]

/-! ## Waits on a clock that ticks -/

section

variable [Host σ Rat]

theorem after_waitUsual_ticking (htypical : Host.Typical σ) (hticking : Host.Ticking σ)
    {s : World σ Rat × Backend Rat} (hsleeps : s.2.policy.Sleeps) :
    After waitUsual s (Waited False s) := by
  refine after_waitUsual_of htypical (after_pollFor_ticking hticking hsleeps
    (I := Looked False (s.1, { s.2 with state := .starting }) (.ok () : Except (Fault Rat) Unit))
    (fun _ _ s₁ h₁ => ?_) (fun seconds s₁ h₁ => ?_) ?_)
  · have honward := keeps_checkListening (fun _ _ => hticking.keeps_ask _) (fun _ _ => Logs.onward) s₁
    refine ((after_lookAgain htypical h₁).and honward).mono ?_
    intro r s₂ hpost
    obtain ⟨⟨hlooked, hagain⟩, honward⟩ := hpost
    exact ⟨hlooked, fun seen hr => ⟨hagain seen hr, honward⟩⟩
  · refine (after_sleepAgain seconds h₁).mono fun r s₂ hpost => ⟨hpost.1, fun e he => ⟨hpost.2 e he, by simp⟩⟩
  · exact Looked.refl _ ()

omit [Host σ Rat] in
/-- An order with a time to wait, in an environment with an interval, has a policy that sleeps. -/
theorem Order.exists_takes {order : Order Rat} {settings : Settings Rat}
    (hnumbers : order.policy = none →
      0 ≤ order.timeout.getD settings.backendTimeout ∧ 0 < settings.pollInterval)
    (hsleeps : ∀ given, order.policy = some given → given.Sleeps) :
    ∃ policy, order.Takes settings policy ∧ policy.Sleeps := by
  cases hgiven : order.policy with
  | some given => exact ⟨given, by simp only [Order.Takes, hgiven], hsleeps given hgiven⟩
  | none =>
    obtain ⟨htimeout, hinterval⟩ := hnumbers hgiven
    obtain ⟨policy, hpolicy, hsleeps⟩ := RetryPolicy.exists_fixed htimeout hinterval
    exact ⟨policy, by simpa only [Order.Takes, hgiven] using hpolicy, hsleeps⟩

end

/-! ## Leaks -/

/-- A launch hands over a backend that listens, with the one container that it holds, or reports a problem
and holds none. -/
def NoLeak (w : World σ τ) (r : Except (Fault τ) (Backend τ)) (w' : World σ τ) : Prop :=
  match r with
  | .ok b => b.state = .listening ∧ Holds w [b.container] w'
  | .error e => e.IsReport ∧ Holds w [] w'

theorem Launched.noLeak_iff {N : Prop} {P : (r : Request τ) → Except (Fault τ) r.Answer → Prop}
    {w w' : World σ τ} {r : Except (Fault τ) (Backend τ)} (h : Launched P N w r w')
    (hended : r ≠ .error .stalled) : NoLeak w r w' ↔ Asks P w w' := by
  rw [← h.judged.tidy]
  cases r with
  | ok b => exact iff_of_true (h.ok b rfl) (tidy_ok b)
  | error e =>
    rw [tidy_error]
    constructor
    · rintro ⟨hreport, _⟩
      exact .inl hreport
    · rintro (hreport | rfl)
      · exact ⟨hreport, h.report e rfl hreport⟩
      · exact absurd rfl hended

/-- An environment gets no backend from a launch that fails. -/
theorem after_startBackend_error [Host σ τ] (order : Environment.BackendOrder τ)
    (s : World σ τ × Environment τ) :
    After (Environment.startBackend order) s fun r s' =>
      ∀ e, r = .error e → s'.2.backends = s.2.backends := by
  refine after_bind (P := fun _ s₁ => s₁.2.backends = s.2.backends) ?_ (fun _ s₁ h₁ => ?_)
    fun _ s₁ h₁ _ _ => h₁
  · refine after_object_bind ?_
    split
    · exact after_change rfl
    · exact after_pure rfl
    · exact after_throw rfl
  · refine after_object_bind (after_bind (after_run _ s₁.1).world ?_ ?_)
    · intro backend s₂ _
      exact after_change_bind (after_pure (by simp))
    · rintro e s₂ ⟨_, hsame⟩ _ _
      rw [hsame, h₁]

/-- On a clock that ticks, and with a policy that sleeps, a launch comes to an end. -/
theorem launch_ends [Host σ Rat] (htypical : Host.Typical σ) (hticking : Host.Ticking σ) (site : Site Rat)
    (order : Order Rat) (hnumbers : order.policy = none →
      0 ≤ order.timeout.getD site.settings.backendTimeout ∧ 0 < site.settings.pollInterval)
    (hsleeps : ∀ given, order.policy = some given → given.Sleeps) (w : World σ Rat) :
    After (launch site order) w fun r _ => r ≠ .error .stalled := by
  obtain ⟨policy, hpolicy, hsleeps⟩ := Order.exists_takes hnumbers hsleeps
  have hwait (s : World σ Rat × Backend Rat) (h : order.Takes site.settings s.2.policy) :
      After waitUsual s (Waited False s) := by
    rw [← hpolicy.unique h] at hsleeps
    exact after_waitUsual_ticking htypical hticking hsleeps
  refine (after_launch htypical ⟨policy, hpolicy⟩ hwait w).mono ?_
  exact fun r w' h hstalled => h.judged.stalled hstalled

/-- **When a launch leaks no container.** A launch that comes to an end hands over a backend that listens, or
reports a problem and has asked for the removal of what it made, if and only if its answers are fine and no sleep is
refused. An environment gets no backend from a launch that fails. On exact seconds, on a clock that ticks and with a
policy that sleeps, every launch comes to an end. -/
theorem launch_noLeak_iff [Host σ τ] (htypical : Host.Typical σ) (site : Site τ) (order : Order τ)
    (hvalid : ∃ policy, order.Takes site.settings policy) (w : World σ τ) :
    (After (launch site order) w fun r w' => r ≠ .error .stalled →
      (NoLeak w r w' ↔ Asks (Request.Fine site.network (withProtocol order.port)) w w')) ∧
    (∀ (wanted : Environment.BackendOrder τ) (e : Environment τ),
      After (Environment.startBackend wanted) (w, e) fun r s =>
        ∀ fault, r = .error fault → s.2.backends = e.backends) ∧
    ∀ {κ : Type} [Host κ Rat] (site : Site Rat) (order : Order Rat) (w : World κ Rat),
      Host.Typical κ → Host.Ticking κ →
      (order.policy = none →
        0 ≤ order.timeout.getD site.settings.backendTimeout ∧ 0 < site.settings.pollInterval) →
      (∀ given, order.policy = some given → given.Sleeps) →
      After (launch site order) w fun r _ => r ≠ .error .stalled := by
  refine ⟨?_, fun wanted e => after_startBackend_error wanted (w, e), ?_⟩
  · refine (after_launch htypical hvalid (fun s _ => after_waitUsual htypical s) w).mono ?_
    exact fun r w' h hended => h.noLeak_iff hended
  · intro κ _ site order w htypical hticking hnumbers hsleeps
    exact launch_ends htypical hticking site order hnumbers hsleeps w

/-- A daemon that makes and starts containers and fails at everything else, and a clock that only sleeps
move on. -/
structure BrokenDaemon where
  clock : Rat

/-- What the daemon fails with. -/
def BrokenDaemon.failure : Foreign :=
  .plain (.docker .api) "server error"

instance : Host BrokenDaemon Rat where
  answer r h := match r with
    | .docker (.create plan) => (.ok ⟨0, plan.name⟩, h)
    | .docker (.start _) => (.ok (), h)
    | .docker _ => (.error (.foreign BrokenDaemon.failure), h)
    | _ => (.error (.foreign (.plain (.system .refused) "Connection refused")), h)
  now h := h.clock
  sleep seconds h := ⟨h.clock + seconds⟩
  wallClock _ := ⟨⟨2024, 2, 28⟩, 12, 0, 0, 0, some 0⟩
  freshId h := ("00000001", h)
  env _ := []
  temporaryDirectory _ := ⟨.here, []⟩
  freshEnding h := ("0001", h)

theorem BrokenDaemon.typical : Host.Typical BrokenDaemon where
  docker call h e he := by
    cases call <;> cases he <;> rfl
  socket r h e hr he := by
    cases r <;> cases hr <;> cases he <;> rfl

theorem BrokenDaemon.answer_snd (r : Request Rat) (h : BrokenDaemon) : (Host.answer r h).2 = h := by
  cases r with
  | docker call => cases call <;> rfl
  | _ => rfl

theorem BrokenDaemon.ticking : Host.Ticking BrokenDaemon where
  sleep seconds h _ := le_refl (h.clock + seconds)
  answer r h := by rw [answer_snd]

/-- An order for a backend, in an environment with the standard settings. -/
def plainOrder : Order Rat where
  image := "nginx:alpine"
  env := []
  port := "80/tcp"
  command := .null
  timeout := none
  policy := none

/-- The last thing that happened is a look that the daemon failed at. -/
def endsInFailedLook : List (Event τ) → Bool
  | .asked (.docker (.inspect _)) (.error e) :: _ => !e.comesFrom Foreign.isNotFound
  | _ => false

omit [Seconds τ] in
theorem not_asks_of_endsInFailedLook {w : World σ τ} (network port : String)
    (hpast : w.past = []) {w' : World σ τ} (h : endsInFailedLook w'.past = true) :
    ¬ Asks (Request.Fine network port) w w' := by
  rintro ⟨es, hes, hfine⟩
  rw [hes, hpast, List.append_nil] at h
  unfold endsInFailedLook at h
  split at h
  · rename_i c e rest
    have hfound : e.comesFrom Foreign.isNotFound = true :=
      hfine (.docker (.inspect c)) (.error e) List.mem_cons_self
    rw [hfound] at h
    cases h
  · cases h

/-- The daemon fails at the first look, and the container is left behind. -/
theorem launch_brokenDaemon :
    After (launch ⟨"e1", "e1-net", .standard⟩ plainOrder) (⟨⟨0⟩, ⟨[], []⟩, []⟩ : World BrokenDaemon Rat)
      fun r w' => r ≠ .error .stalled ∧ ¬ NoLeak ⟨⟨0⟩, ⟨[], []⟩, []⟩ r w' ∧
        held w'.past = [⟨0, "e1-backend-00000001"⟩] := by
  let site : Site Rat := ⟨"e1", "e1-net", .standard⟩
  let w : World BrokenDaemon Rat := ⟨⟨0⟩, ⟨[], []⟩, []⟩
  have hnumbers (_ : plainOrder.policy = none) :
      0 ≤ plainOrder.timeout.getD site.settings.backendTimeout ∧ 0 < site.settings.pollInterval := by
    decide +kernel
  have hsleeps (given : RetryPolicy Rat) (h : plainOrder.policy = some given) : given.Sleeps := by
    cases h
  obtain ⟨policy, hpolicy, _⟩ := Order.exists_takes hnumbers hsleeps
  obtain ⟨hleak, _, hends⟩ :=
    launch_noLeak_iff BrokenDaemon.typical site plainOrder ⟨policy, hpolicy⟩ w
  have hended : After (launch site plainOrder) w fun r _ => r ≠ .error .stalled :=
    hends site plainOrder w BrokenDaemon.typical BrokenDaemon.ticking hnumbers hsleeps
  have hlook : After (launch site plainOrder) w fun _ w' => endsInFailedLook w'.past = true ∧
      held w'.past = [⟨0, "e1-backend-00000001"⟩] := by
    decide +kernel
  refine ((hended.and hleak).and hlook).mono ?_
  intro r w' hpost
  obtain ⟨⟨hstalled, hiff⟩, hfailed, hheld⟩ := hpost
  refine ⟨hstalled, fun hno => ?_, hheld⟩
  exact not_asks_of_endsInFailedLook _ _ rfl hfailed ((hiff hstalled).mp hno)

end ProxyTestbed.Backend
