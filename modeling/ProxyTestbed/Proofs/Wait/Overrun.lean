import ProxyTestbed.Proofs.Wait.Decisive
import ProxyTestbed.Proofs.Wait.Loops

/-!
# How far a wait for a port overruns

No attempt to connect begins after the deadline, and each is given the time that is left, but not less than one
hundredth of a second. So if no attempt takes longer than it is given, a wait overruns its deadline by one hundredth
at most.

* `untilReachable_overruns_le`: the bound, for waits that end well and for waits that are given up.
-/

namespace ProxyTestbed.Wait

variable {σ : Type} [Host σ Rat]

theorem leastConnectTime_rat : (leastConnectTime : Rat) = 1 / 100 := by
  decide +kernel

/-- An attempt to connect: its number, when it began, the time that it was given, and whether it was successful. -/
structure Dial where
  number : Nat
  begun : Rat
  given : Rat
  up : Bool

namespace Dial

/-- What a wait concludes from an attempt. -/
def outcome (dial : Dial) : Except (Fault Rat) (Except Nat Nat) :=
  .ok (if dial.up then .ok dial.number else .error dial.number)

/-- One attempt to connect leads from `s` to `s'`, in a wait that ends at the time `expires`. -/
structure Happens (host : String) (port : Int) (connectTimeout expires : Rat) (s : World σ Rat × Unit) (dial : Dial)
    (s' : World σ Rat × Unit) : Prop where
  begun : dial.begun = s.1.time
  call : Socket.accepts host port dial.given s.1 = .ok dial.up s'.1
  given_le_usual : dial.given ≤ connectTimeout
  given_le_left : dial.given ≤ max (expires - dial.begun) (1 / 100)
  ended : s'.1.time ≤ dial.begun + dial.given

end Dial

/-- The checks of a port answer, and none takes longer than it is given. -/
def Punctual (σ : Type) [Host σ Rat] (host : String) (port : Int) : Prop :=
  ∀ (given : Rat) (w : World σ Rat), 0 ≤ given →
    After (Socket.accepts host port given) w fun r w' => (∃ up, r = .ok up) ∧ w'.time ≤ w.time + given

variable {host : String} {port : Int} {connectTimeout : Rat}

theorem connectTime_le_usual (usual left : Rat) : connectTime usual left ≤ usual := by
  rw [connectTime, Seconds.least_rat]
  exact min_le_left _ _

theorem connectTime_le_left (usual : Rat) (deadline : Deadline Rat) (time : Rat) :
    connectTime usual (deadline.remaining time) ≤ max (deadline.expires - time) (1 / 100) := by
  rw [connectTime, Seconds.least_rat, Seconds.greatest_rat, leastConnectTime_rat, Deadline.remaining,
    Seconds.greatest_rat, Seconds.zero_rat]
  have hleast : (0 : Rat) ≤ 1 / 100 := by norm_num
  refine (min_le_right _ _).trans (max_le (max_le ?_ (le_max_left _ _)) (le_max_right _ _))
  exact hleast.trans (le_max_right _ _)

theorem zero_le_connectTime {usual : Rat} (husual : 0 ≤ usual) (left : Rat) : 0 ≤ connectTime usual left := by
  rw [connectTime, Seconds.least_rat, Seconds.greatest_rat, leastConnectTime_rat]
  have hleast : (0 : Rat) ≤ 1 / 100 := by norm_num
  exact le_min husual (hleast.trans (le_max_right _ _))

/-- One attempt of a wait for a port takes no longer than it is given. -/
theorem after_connectOnce_dial (hpunctual : Punctual σ host port) (hconnect : 0 ≤ connectTimeout)
    (deadline : Deadline Rat) (number : Nat) (s : World σ Rat × Unit) :
    After (connectOnce host port connectTimeout deadline number) s fun r s' =>
      ∃ dial, Dial.Happens host port connectTimeout deadline.expires s dial s' ∧ dial.outcome = r := by
  refine after_bind (P := fun r s₁ => r = .ok s.1.time ∧ s₁ = s) ⟨rfl, rfl⟩ ?_ (by simp)
  intro time s₁ hnow
  obtain ⟨htime, rfl⟩ := hnow
  cases htime
  let given := connectTime connectTimeout (deadline.remaining s₁.1.time)
  have hcheck := (after_run (Socket.accepts host port given) s₁.1).and
    (hpunctual given s₁.1 (zero_le_connectTime hconnect _))
  refine after_bind hcheck.world (fun up s' hpost => after_pure ?_) fun e s' hpost => ?_
  · obtain ⟨⟨hrun, -, hended⟩, -⟩ := hpost
    exact ⟨⟨number + 1, s₁.1.time, given, up⟩, ⟨rfl, of_attempt_ok hrun, connectTime_le_usual _ _,
      connectTime_le_left _ _ _, hended⟩, rfl⟩
  · obtain ⟨⟨-, ⟨up, hup⟩, -⟩, -⟩ := hpost
    cases hup

theorem Dial.Happens.onward (hsteady : Host.Steady σ) {expires : Rat} {s s' : World σ Rat × Unit} {dial : Dial}
    (h : Dial.Happens host port connectTimeout expires s dial s') : Onward s.1 s'.1 :=
  (Socket.keeps_accepts (fun r _ => hsteady.keeps_ask r) host port dial.given).of_ok h.call

/-- The last attempt begins at the deadline at the latest, so it ends one hundredth later at the latest. -/
theorem time_le_of_stops (hexact : Host.Exact σ) {policy : RetryPolicy Rat} (hsleeps : policy.Sleeps)
    {deadline : Deadline Rat} {number : Nat} {s s' : World σ Rat × Unit} {earlier : List Dial} {last : Dial}
    (h : Stops policy deadline (Dial.Happens host port connectTimeout deadline.expires) Dial.outcome number s earlier
      last s') (hs : s.1.time ≤ deadline.expires) : s'.1.time ≤ deadline.expires + 1 / 100 := by
  obtain ⟨s₁, hgoes, hlast⟩ := h.attempts
  have hbegun : last.begun ≤ deadline.expires := by
    rw [hlast.begun]
    exact hgoes.time_le hexact hsleeps hs
  have hended := hlast.ended
  cases le_max_iff.mp hlast.given_le_left with
  | inl hleft => linarith
  | inr hleast => linarith

/-- What a wait for a port did that began at `w`: it made attempts, and ended in time. -/
structure DialedTo (host : String) (port : Int) (timeout settle connectTimeout : Rat) (policy : RetryPolicy Rat)
    (w : World σ Rat) (earlier : List Dial) (last : Dial) (r : Except (Fault Rat) Unit) (w' : World σ Rat) : Prop where
  attempts : ∃ w₁ w₂, Logs w w₁ ∧
    StopsFor policy timeout (Dial.Happens host port connectTimeout (w.time + timeout)) Dial.outcome (w₁, ()) earlier last
      (w₂, ())
  ends : r = .ok () ∨
    r = .error (.notReady s!"{host}:{port}" timeout s!"{last.number} connection attempt(s) refused")
  returned : r = .ok () → w'.time ≤ w.time + timeout + 1 / 100 + max settle 0
  raised : ∀ e, r = .error e → w'.time ≤ w.time + timeout + 1 / 100

/-- **A wait for a port overruns its deadline by one hundredth at most.** It is given up by then, or it returns by then
and the time that is given to what is behind the port. No attempt is given more than the usual time, or more than
what is left, but for one hundredth. -/
theorem untilReachable_overruns_le (hexact : Host.Exact σ) (hpunctual : Punctual σ host port) {timeout : Rat}
    (htimeout : 0 ≤ timeout) (hconnect : 0 ≤ connectTimeout) {given : Option (RetryPolicy Rat)}
    (hsleeps : ∀ policy, given = some policy → policy.Sleeps) (settle : Rat) (w : World σ Rat) :
    After (untilReachable host port timeout given settle connectTimeout) w fun r w' =>
      ∃ policy earlier last, Takes given timeout policy ∧
        DialedTo host port timeout settle connectTimeout policy w earlier last r w' := by
  obtain ⟨policy, htakes, hsleeps⟩ := exists_takes htimeout hsleeps
  have hloop (w₁ : World σ Rat) (hlogs : Logs w w₁) :
      After (pollFor policy timeout (connectOnce host port connectTimeout)) (w₁, ()) fun outcome s =>
        ∃ w₁ earlier last, Logs w w₁ ∧ StopsFor policy timeout
          (Dial.Happens host port connectTimeout (w₁.time + timeout)) Dial.outcome (w₁, ()) earlier last s ∧
          outcome = last.outcome := by
    refine (after_pollFor_stops_steady hsleeps (fun s dial s' hdial => hdial.onward hexact.steady) hexact.steady
      (after_connectOnce_dial hpunctual hconnect _)).mono fun outcome s hstops => ?_
    obtain ⟨earlier, last, hstops, hr⟩ := hstops
    exact ⟨w₁, earlier, last, hlogs, hstops, hr⟩
  rw [untilReachable_eq htakes]
  refine (after_untilReachable_of hloop).mono fun r w' hends => ?_
  obtain ⟨outcome, w₂, ⟨w₁, earlier, last, hlogs, hstops, rfl⟩, hends⟩ := hends
  obtain ⟨hr, htime, hfailed⟩ := verdict_of_exact hexact hends
  have hended : w₂.time ≤ w.time + timeout + 1 / 100 := by
    rw [← hlogs.time]
    exact time_le_of_stops hexact hsleeps hstops (le_add_of_nonneg_right htimeout)
  rw [hlogs.time] at hstops
  refine ⟨policy, earlier, last, htakes, ⟨w₁, w₂, hlogs, hstops⟩, ?_, fun hok => ?_, fun e he => ?_⟩
  · rw [Dial.outcome] at hr
    cases hup : last.up with
    | true => exact .inl (by rw [hr, hup]; rfl)
    | false => exact .inr (by rw [hr, hup]; rfl)
  · have := htime hok
    linarith
  · rw [hfailed e he]
    exact hended

/-- An outside world in which every attempt to connect takes all the time that it is given, and fails. -/
structure Sluggish where
  clock : Rat

def Sluggish.refusal : Fault Rat :=
  .foreign (.plain (.system .refused) "Connection refused")

instance : Host Sluggish Rat where
  answer r h := match r with
    | .connect _ _ given => (.error Sluggish.refusal, ⟨h.clock + max given 0⟩)
    | _ => (.error Sluggish.refusal, h)
  now h := h.clock
  sleep seconds h := ⟨h.clock + seconds⟩
  wallClock _ := ⟨⟨2024, 2, 28⟩, 12, 0, 0, 0, some 0⟩
  freshId h := ("00000001", h)
  env _ := []
  temporaryDirectory _ := ⟨.here, []⟩
  freshEnding h := ("0001", h)

theorem Sluggish.exact : Host.Exact Sluggish where
  sleep _ _ _ := rfl
  answer r h := by
    cases r with
    | connect _ _ given => exact le_add_of_nonneg_right (le_max_right given 0)
    | _ => exact le_refl h.clock
  rests _ _ _ := rfl

theorem Sluggish.punctual (host : String) (port : Int) : Punctual Sluggish host port := by
  intro given w hgiven
  show (∃ up, Except.ok false = Except.ok up) ∧ w.host.clock + max given 0 ≤ w.host.clock + given
  rw [max_eq_left hgiven]
  exact ⟨⟨false, rfl⟩, le_refl _⟩

/-- With three tenths for each attempt, the last one begins at the deadline, and overruns it by one hundredth. -/
theorem untilReachable_overruns_le_sluggish :
    After (untilReachable "localhost" 80 2 none 2 (3 / 10)) (⟨⟨0⟩, ⟨[], []⟩, []⟩ : World Sluggish Rat) fun r w' =>
      w'.time = 2 + 1 / 100 ∧ ∃ policy earlier last, Takes none 2 policy ∧
        DialedTo "localhost" 80 2 2 (3 / 10) policy ⟨⟨0⟩, ⟨[], []⟩, []⟩ earlier last r w' := by
  let w : World Sluggish Rat := ⟨⟨0⟩, ⟨[], []⟩, []⟩
  have htime : After (untilReachable "localhost" 80 2 none 2 (3 / 10)) w fun _ w' => w'.host.clock = 2 + 1 / 100 := by
    decide +kernel
  have hnone (policy : RetryPolicy Rat) (h : none = some policy) : policy.Sleeps := by
    cases h
  have hbound := untilReachable_overruns_le Sluggish.exact (Sluggish.punctual "localhost" 80)
    (show (0 : Rat) ≤ 2 by norm_num) (show (0 : Rat) ≤ 3 / 10 by norm_num) hnone 2 w
  exact htime.and hbound

end ProxyTestbed.Wait
