import ProxyTestbed.Proofs.Text.Lines
import ProxyTestbed.Proofs.Wait.Constant
import ProxyTestbed.Proofs.Wait.Decisive
import ProxyTestbed.Proofs.Wait.Faults

/-!
# The decisive reading of a log

A wait for a line reads the log of a container, and if the line is not there, the attributes as well. It ends by
the first reading that decides something: the line is there, whatever has become of the container and the
deadline; or the container has exited, and the wait reports the log that it has just read; or the daemon fails.
Only then does the deadline count.

* `untilLogged_firstDecisive`: a wait for a line ends by its first decisive reading.
-/

namespace ProxyTestbed.Wait

variable {σ τ : Type}

/-- What the reading of a log came to: the log could not be read, or held the line; or it did not, and then the
attributes could not be read, or told that the container has exited, or that it goes on. Of the log of a container
that has exited, some is shown. -/
inductive Reading (τ : Type)
  | unread (fault : Fault τ)
  | found (content : Bytes)
  | unreported (content : Bytes) (fault : Fault τ)
  | exited (content : Bytes) (report : ContainerReport) (shown : String)
  | running (content : Bytes) (report : ContainerReport)

namespace Reading

/-- What a wait concludes from a reading. -/
def outcome (name needle : String) : Reading τ → Except (Fault τ) (Except Unit Unit)
  | unread fault | unreported _ fault => .error fault
  | found _ => .ok (.ok ())
  | exited _ _ shown => .error (.provisioning (.exited name needle shown))
  | running _ _ => .ok (.error ())

/-- What a reading asks for, the latest first. -/
def asks (container : Container) : Reading τ → List (Request τ)
  | unread _ | found _ => [.docker (.logs container .all)]
  | unreported _ _ | exited _ _ _ | running _ _ => [.docker (.inspect container), .docker (.logs container .all)]

/-- One reading leads from `s` to `s'`. Of the log of a container that has exited, the last 40 lines are shown. -/
inductive Happens [Host σ τ] (container : Container) (needle : String) :
    World σ τ × Unit → Reading τ → World σ τ × Unit → Prop
  | unread {s s' : World σ τ × Unit} {fault : Fault τ} (hlogs : docker (.logs container .all) s.1 = .error fault s'.1) :
      Happens container needle s (.unread fault) s'
  | found {s s₁ s' : World σ τ × Unit} {content : Bytes} (hlogs : docker (.logs container .all) s.1 = .ok content s₁.1)
      (hline : needle.toList <:+: (Text.ofBytes content).toList) (hrecord : Logs s₁.1 s'.1) :
      Happens container needle s (.found content) s'
  | unreported {s s₁ s' : World σ τ × Unit} {content : Bytes} {fault : Fault τ}
      (hlogs : docker (.logs container .all) s.1 = .ok content s₁.1)
      (hline : ¬ needle.toList <:+: (Text.ofBytes content).toList)
      (hreload : docker (.inspect container) s₁.1 = .error fault s'.1) :
      Happens container needle s (.unreported content fault) s'
  | exited {s s₁ s' : World σ τ × Unit} {content : Bytes} {report : ContainerReport} {shown : String}
      (hlogs : docker (.logs container .all) s.1 = .ok content s₁.1)
      (hline : ¬ needle.toList <:+: (Text.ofBytes content).toList)
      (hreload : docker (.inspect container) s₁.1 = .ok report s'.1)
      (hstatus : report.status = "exited" ∨ report.status = "dead")
      (hshown : Text.IsTail 40 (Text.ofBytes content) shown) : Happens container needle s (.exited content report shown) s'
  | running {s s₁ s' : World σ τ × Unit} {content : Bytes} {report : ContainerReport}
      (hlogs : docker (.logs container .all) s.1 = .ok content s₁.1)
      (hline : ¬ needle.toList <:+: (Text.ofBytes content).toList)
      (hreload : docker (.inspect container) s₁.1 = .ok report s'.1)
      (hstatus : ¬ (report.status = "exited" ∨ report.status = "dead")) :
      Happens container needle s (.running content report) s'

variable [Host σ τ] {container : Container} {name needle : String} {s s' : World σ τ × Unit} {reading : Reading τ}

theorem Happens.requests (h : Happens container needle s reading s') : Requests s.1 (reading.asks container) s'.1 := by
  have hasked {call : DockerCall} {w : World σ τ} :
      After (docker call) w fun _ w' => Requests w [.docker call] w' :=
    (after_docker call w).mono fun _ _ hpost => requests_asked hpost.2.2.2
  cases h with
  | unread hlogs => exact hasked.error hlogs
  | found hlogs _ hrecord => exact (hasked.ok hlogs).trans hrecord.requests
  | unreported hlogs _ hreload => exact (hasked.ok hlogs).trans (hasked.error hreload)
  | exited hlogs _ hreload | running hlogs _ hreload => exact (hasked.ok hlogs).trans (hasked.ok hreload)

/-- A reading that decides nothing has read a log without the line, and that the container goes on. -/
theorem Happens.undecided (h : Happens container needle s reading s') (hgaveUp : GaveUp (reading.outcome name needle)) :
    ∃ content report, reading = .running content report ∧ ¬ needle.toList <:+: (Text.ofBytes content).toList ∧
      report.status ≠ "exited" ∧ report.status ≠ "dead" := by
  obtain ⟨seen, hseen⟩ := hgaveUp
  cases h with
  | unread | unreported | exited => cases hseen
  | found => cases hseen
  | @running _ _ content report _ hline _ hstatus =>
    exact ⟨content, report, rfl, hline, not_or.mp hstatus⟩

theorem Happens.onward {σ : Type} [Host σ Rat] (hsteady : Host.Steady σ) {s s' : World σ Rat × Unit}
    {reading : Reading Rat} (h : Happens container needle s reading s') : Onward s.1 s'.1 := by
  have hasked (call : DockerCall) : Keeps Onward (docker call : Act σ Rat call.Answer) := hsteady.keeps_ask _
  cases h with
  | unread hlogs => exact (hasked _ _).error hlogs
  | found hlogs _ hrecord => exact trans_of Onward ((hasked _).of_ok hlogs) hrecord.onward
  | unreported hlogs _ hreload => exact trans_of Onward ((hasked _).of_ok hlogs) ((hasked _ _).error hreload)
  | exited hlogs _ hreload | running hlogs _ hreload =>
    exact trans_of Onward ((hasked _).of_ok hlogs) ((hasked _).of_ok hreload)

end Reading

theorem holdsLine_iff {line : String} {content : Bytes} :
    HoldsLine line content ↔ line.toList <:+: (Text.ofBytes content).toList := by
  by_cases hline : line.toList = []
  · rw [HoldsLine, hline, Text.occursIn]
    cases (Text.ofBytes content).toList <;> simp [Text.cutAtText?]
  · exact Text.occursIn_iff hline

section

variable [Host σ τ]

/-- One attempt of a wait for a line is one reading. -/
theorem after_lookOnce_reading (container : Container) (name needle : String) (deadline : Deadline τ) (number : Nat)
    (s : World σ τ × Unit) :
    After (lookOnce container name needle deadline number) s fun r s' =>
      ∃ reading, Reading.Happens container needle s reading s' ∧ reading.outcome name needle = r := by
  refine after_bind (after_run (docker (.logs container .all)) s.1).world ?_ ?_
  · intro content s₁ hpost
    have hlogs := of_attempt_ok hpost.1
    refine after_ite (fun hline => ?_) fun hline => ?_
    · refine after_record_bind fun s' hrecord => after_pure ?_
      exact ⟨_, .found hlogs (holdsLine_iff.mp hline) hrecord.1, rfl⟩
    · have hline' : ¬ needle.toList <:+: (Text.ofBytes content).toList := fun h => hline (holdsLine_iff.mpr h)
      refine after_bind (after_run (docker (.inspect container)) s₁.1).world ?_ ?_
      · intro report s' hpost'
        have hreload := of_attempt_ok hpost'.1
        refine after_ite (fun hexited => after_throw ?_) fun hruns => after_pure ?_
        · have htail := (Text.isTail_iff (by decide)).mpr (rfl : Text.tail (Text.ofBytes content) (40 : Nat) = _)
          exact ⟨_, .exited hlogs hline' hreload (hasExited_iff.mp hexited) htail, rfl⟩
        · exact ⟨_, .running hlogs hline' hreload (fun h => hruns (hasExited_iff.mpr h)), rfl⟩
      · intro fault s' hpost'
        exact ⟨_, .unreported hlogs hline' (of_attempt_error hpost'.1), rfl⟩
  · intro fault s' hpost
    exact ⟨_, .unread (of_attempt_error hpost.1), rfl⟩

/-- What a wait for a line did that began at `w`: it made readings, of which the last decides how it ends. -/
structure ReadTo [Seconds τ] (container : Container) (name needle : String) (policy : RetryPolicy τ) (w : World σ τ)
    (earlier : List (Reading τ)) (last : Reading τ) (r : Except (Fault τ) Unit) (w' : World σ τ) : Prop where
  attempts : StopsFor policy policy.timeout (Reading.Happens container needle) (Reading.outcome name needle) (w, ())
    earlier last (w', ())
  others : ∀ x ∈ earlier, ∃ content report, x = .running content report ∧
    ¬ needle.toList <:+: (Text.ofBytes content).toList ∧ report.status ≠ "exited" ∧ report.status ≠ "dead"
  /-- Nothing else is asked for. -/
  requests : Requests w ((earlier ++ [last]).reverse.flatMap (Reading.asks container)) w'
  verdict : r = verdict id
    (fun _ => .notReady name policy.timeout s!"log line {Text.quoted needle} never appeared")
    (last.outcome name needle)

end

/-- **A wait for a line ends by its first decisive reading.** Every earlier one reads a log without the line and the
attributes of a container that goes on, and is followed by a sleep. Only the refusal of a sleep ends a wait before
that, with its own error. On a steady clock no sleep is refused; without one, a wait may also go on for more readings
than are followed. -/
theorem untilLogged_firstDecisive :
    (∀ {σ τ : Type} [Seconds τ] [Host σ τ] (container : Container) (name needle : String) (policy : RetryPolicy τ)
      (w : World σ τ),
      After (untilLogged container name needle policy) w fun r w' =>
        (∃ earlier last, ReadTo container name needle policy w earlier last r w') ∨
        (∃ earlier last cause, DisturbedFor policy policy.timeout (Reading.Happens container needle)
          (Reading.outcome name needle) (w, ()) earlier last cause (w', ()) ∧ r = .error (.foreign cause)) ∨
        r = .error .stalled ∧ ∃ earlier, RunsOut policy policy.timeout (Reading.Happens container needle)
          (Reading.outcome name needle) (w, ()) earlier (w', ())) ∧
    ∀ {σ : Type} [Host σ Rat] (container : Container) (name needle : String) (policy : RetryPolicy Rat),
      Host.Steady σ → policy.Sleeps → ∀ (s : World σ Rat × Unit) (earlier : List (Reading Rat)) s',
        ¬ RunsOut policy policy.timeout (Reading.Happens container needle) (Reading.outcome name needle) s earlier s' ∧
        ∀ last cause, ¬ DisturbedFor policy policy.timeout (Reading.Happens container needle)
          (Reading.outcome name needle) s earlier last cause s' := by
  constructor
  · intro σ τ _ _ container name needle policy w
    have hloop : After (pollFor policy policy.timeout (lookOnce container name needle)) (w, ()) _ :=
      after_pollFor_stops (after_lookOnce_reading container name needle _)
    refine (after_untilLogged_of hloop).mono fun r w' hends => ?_
    obtain ⟨outcome, hloop, hr⟩ := hends
    obtain ⟨earlier, last, hstops, rfl⟩ | ⟨earlier, last, cause, hdisturbed, rfl⟩ | ⟨rfl, hrunsOut⟩ := hloop
    · obtain ⟨s₁, hgoes, -⟩ := hstops.attempts
      have hothers := hgoes.forall_mem fun s x s' hx hgaveUp => hx.undecided hgaveUp
      have hrequests := hstops.finds Event.request?_of_not_asked fun s x s' hx => hx.requests
      exact .inl ⟨earlier, last, hstops, hothers, hrequests, hr⟩
    · exact .inr (.inl ⟨earlier, last, cause, hdisturbed, hr⟩)
    · exact .inr (.inr ⟨hr, hrunsOut⟩)
  · intro σ _ container name needle policy hsteady hsleeps s earlier s'
    refine ⟨?_, fun last cause => not_disturbed_steady hsteady hsleeps⟩
    exact not_runsOut hsteady.toTicking hsleeps (fun s₁ reading s₂ hreading => hreading.onward hsteady) s earlier s'

/-- A daemon whose containers run and log nothing. -/
def silent : (r : Request Rat) → Except (Fault Rat) r.Answer
  | .docker (.logs _ _) => .ok []
  | .docker (.inspect _) => .ok ⟨"running", .null⟩
  | _ => .error (.foreign (.plain (.docker .notFound) "No such container"))

/-- A wait for a line that never comes makes four readings, the last of them at the deadline. -/
theorem untilLogged_firstDecisive_silent :
    After (untilLogged ⟨0, "e1-proxy"⟩ "e1-proxy" "ready" .brief) (Constant.begin : World (Constant silent) Rat)
      fun r w' => (w'.time = 2 ∧ (w'.past.filterMap Event.request?).length = 8) ∧
        ∃ earlier last, ReadTo ⟨0, "e1-proxy"⟩ "e1-proxy" "ready" .brief Constant.begin earlier last r w' := by
  let w : World (Constant silent) Rat := Constant.begin
  have hrun : After (untilLogged ⟨0, "e1-proxy"⟩ "e1-proxy" "ready" .brief) w fun _ w' =>
      w'.host.clock = 2 ∧ (w'.past.filterMap Event.request?).length = 8 := by
    decide +kernel
  have hdecides := untilLogged_firstDecisive.1 ⟨0, "e1-proxy"⟩ "e1-proxy" "ready" .brief w
  refine (hrun.and hdecides).mono fun r w' hpost => ⟨hpost.1, ?_⟩
  have hsteady (earlier : List (Reading Rat)) := untilLogged_firstDecisive.2 ⟨0, "e1-proxy"⟩ "e1-proxy" "ready" .brief
    Constant.exact.steady RetryPolicy.brief_sleeps (w, ()) earlier (w', ())
  obtain hread | ⟨earlier, last, cause, hdisturbed, -⟩ | ⟨-, earlier, hrunsOut⟩ := hpost.2
  · exact hread
  · exact absurd hdisturbed ((hsteady earlier).2 last cause)
  · exact absurd hrunsOut (hsteady earlier).1

end ProxyTestbed.Wait
