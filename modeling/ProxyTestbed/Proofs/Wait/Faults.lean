import ProxyTestbed.Proofs.File.Denied
import ProxyTestbed.Proofs.Wait.Loops
import ProxyTestbed.Proofs.World.Tells

/-!
# What waits for a container end in

In an outside world with errors of the daemon and of the system alone, a wait for a line in a log or for a port
passes them on, or reports what it waited for in vain; or a sleep of the wait is refused, which is passed on as
well. Only a clock that stands still keeps it going on. A wait for a line is told the log over and over, until the
line is there.

* `after_untilLogged_told`, `after_untilReachable_told`: what the waits are told, and what they end in.
* `untilLogged_ends`, `untilReachable_ends`: on a clock that ticks, they come to an end.
-/

namespace ProxyTestbed

variable {σ τ ω α β : Type}

/-- The testbed reports the fault as a problem of provisioning, or as a wait that it gave up. -/
def Fault.IsPromised : Fault τ → Prop
  | .provisioning _ | .notReady _ _ _ => True
  | _ => False

/-- An error of the daemon or the system, or a report of the testbed; and, if `N` holds, a wait that goes on
for too long. -/
def Fault.IsPlain (N : Prop) (e : Fault τ) : Prop :=
  e.IsOrdinary ∨ e.IsPromised ∨ e = .stalled ∧ N

theorem Fault.IsOrdinary.plain {N : Prop} {e : Fault τ} (h : e.IsOrdinary) : e.IsPlain N :=
  .inl h

theorem Fault.IsPromised.plain {N : Prop} {e : Fault τ} (h : e.IsPromised) : e.IsPlain N :=
  .inr (.inl h)

theorem Fault.IsPlain.of_stalls {N : Prop} {e : Fault τ} (h : e.IsPlain True) (hN : e = .stalled → N) :
    e.IsPlain N :=
  h.imp_right (Or.imp_right fun hstalled => ⟨hstalled.1, hN hstalled.1⟩)

theorem Fault.IsPlain.ne_stalled {e : Fault τ} (h : e.IsPlain False) : e ≠ .stalled := by
  rintro rfl
  rcases h with h | h | ⟨_, hno⟩
  · cases h
  · exact h
  · exact hno

/-! ## Attempts -/

namespace Wait

section

variable [Host σ τ] (hordinary : Host.Ordinary σ) (N : Prop)

include hordinary

theorem raises_lookOnce (container : Container) (name needle : String) (deadline : Deadline τ) (number : Nat) :
    Raises (Fault.IsPlain N) (lookOnce container name needle deadline number : On σ τ Unit _) := by
  have hdocker (call : DockerCall) : Raises (Fault.IsPlain N) (docker call : Act σ τ call.Answer) :=
    (hordinary.raises_ask _).mono fun _ => Fault.IsOrdinary.plain
  refine (hdocker _).world.bind fun content => .ite ?_ ?_
  · exact (raises_record _ _ _).world.bind fun _ => raises_pure _
  · refine (hdocker _).world.bind fun report => .ite ?_ (raises_pure _)
    exact raises_throw (.inr (.inl trivial))

theorem raises_accepts (host : String) (port : Int) (timeout : τ) :
    Raises Fault.IsOrdinary (Socket.accepts host port timeout : Act σ τ Bool) := by
  have hwhole : Raises Fault.IsOrdinary (do
      let socket ← ask (.connect host port timeout)
      always (pure true) (ask (.closeSocket socket)) : Act σ τ Bool) :=
    (hordinary.raises_ask _).bind fun _ => (raises_pure true).always (hordinary.raises_ask _)
  exact hwhole.attempt_bind (fun _ => raises_pure _) fun _ he => .ite (raises_pure _) (raises_throw he)

theorem raises_connectOnce [Seconds τ] (host : String) (port : Int) (connectTimeout : τ) (deadline : Deadline τ)
    (number : Nat) :
    Raises (Fault.IsPlain N) (connectOnce host port connectTimeout deadline number : On σ τ Unit _) := by
  have hnow : Raises (Fault.IsPlain N) (now : Act σ τ τ) := by
    intro w e h
    cases h
  refine hnow.world.bind fun _ => Raises.bind ?_ fun _ => raises_pure _
  exact ((raises_accepts hordinary host port _).mono fun _ => Fault.IsOrdinary.plain).world

end

end Wait

/-! ## Where waits come to an end -/

section

variable [Host σ Rat] {policy : RetryPolicy Rat} {F : Fault Rat → Prop}

/-- On a clock that ticks, a wait raises what its attempts and sleeps raise. -/
theorem raises_pollFor_ticking (hticking : Host.Ticking σ) (hsleeps : policy.Sleeps) (timeout : Rat)
    (hsleep : ∀ seconds : Rat, Raises F (sleep seconds : Act σ Rat Unit))
    {try_ : Deadline Rat → Nat → On σ Rat ω (Except β α)} (htry : ∀ deadline number, Raises F (try_ deadline number))
    (honward : ∀ deadline number, Keeps (Beside Onward) (try_ deadline number)) :
    Raises F (pollFor policy timeout try_) := by
  intro s
  refine after_pollFor_ticking hticking hsleeps (I := fun _ => True) (fun deadline number s₁ _ => ?_)
    (fun seconds s₁ _ => ?_) trivial
  · refine ((htry deadline number s₁).and (honward deadline number s₁)).mono ?_
    exact fun r s₂ hpost => ⟨hpost.1, fun _ _ => ⟨trivial, hpost.2⟩⟩
  · refine ((hsleep seconds).world s₁).mono fun r s₂ hfault => ⟨fun _ => trivial, ?_⟩
    rintro e he _ ⟨⟩
    exact hfault e he

namespace Wait

variable (hordinary : Host.Ordinary σ) (hticking : Host.Ticking σ) (hsleeps : policy.Sleeps)

include hordinary hticking hsleeps

theorem untilLogged_ends (container : Container) (name needle : String) :
    Raises (· ≠ .stalled) (untilLogged container name needle policy : Act σ Rat Unit) := by
  have hloop : Raises (· ≠ .stalled) (pollFor policy policy.timeout (lookOnce container name needle) : On σ Rat Unit _) :=
    raises_pollFor_ticking hticking hsleeps _ (raises_sleep (by simp))
      (fun deadline number => (raises_lookOnce hordinary False container name needle deadline number).mono
        fun _ => Fault.IsPlain.ne_stalled)
      (keeps_lookOnce hticking.keeps_ask (fun _ _ => Logs.onward) container name needle)
  refine fun w => (after_untilLogged_of (hloop (w, ()))).mono fun r w' hends e he => ?_
  obtain ⟨outcome, hfault, hr⟩ := hends
  exact of_verdict_eq_error (by simp) hfault (hr.symm.trans he)

theorem untilReachable_ends (host : String) (port : Int) (timeout settle connectTimeout : Rat) :
    Raises (· ≠ .stalled)
      (untilReachable host port timeout (some policy) settle connectTimeout : Act σ Rat Unit) := by
  have hsleep (seconds : Rat) : Raises (· ≠ .stalled) (sleep seconds : Act σ Rat Unit) := raises_sleep (by simp) seconds
  have hloop : Raises (· ≠ .stalled) (pollFor policy timeout (connectOnce host port connectTimeout) : On σ Rat Unit _) :=
    raises_pollFor_ticking hticking hsleeps _ hsleep
      (fun deadline number => (raises_connectOnce hordinary False host port connectTimeout deadline number).mono
        fun _ => Fault.IsPlain.ne_stalled)
      (keeps_connectOnce hticking.keeps_ask host port connectTimeout)
  refine fun w => (after_untilReachable_of fun w₁ _ => hloop (w₁, ())).mono fun r w' hends e he => ?_
  obtain ⟨outcome, w₂, hfault, ⟨attempts, _, w₃, _, hsettle⟩ | ⟨_, _, hr⟩⟩ := hends
  · exact (((hsleep settle).ite (raises_pure ())) w₃).attempted hsettle e he
  · exact of_verdict_eq_error (by simp) hfault (hr.symm.trans he)

end Wait

end

/-! ## What a wait is told -/

/-- The text occurs in the log. -/
def HoldsLine (line : String) (content : Bytes) : Prop :=
  Text.occursIn line.toList (Text.ofBytes content).toList = true

/-- What is told while the line is not there: a log without it, or the attributes of the container. -/
def Telling.IsLook (line : String) : Telling → Prop
  | .logged _ content => ¬ HoldsLine line content
  | .inspected _ _ => True
  | _ => False

/-- With which faults a wait may be broken off, and what is told of that. -/
inductive BreaksOff (N : Prop) : List Telling → Fault τ → Prop
  | plain {e : Fault τ} (h : e.IsPlain N) : BreaksOff N [] e
  | sleepless (f : Foreign) : BreaksOff N [.sleepless f] (.foreign f)

theorem BreaksOff.of_stalls {N : Prop} {late : List Telling} {e : Fault τ} (h : BreaksOff True late e)
    (hN : e = .stalled → N) : BreaksOff N late e := by
  cases h with
  | plain h => exact .plain (h.of_stalls hN)
  | sleepless f => exact .sleepless f

/-- Between `w` and `w'` nothing but looks of this kind was told. -/
def Looks (kind : Telling → Prop) (w w' : World σ τ) : Prop :=
  ∃ looks, (∀ t ∈ looks, kind t) ∧ Tells w looks w'

/-- After such looks, a wait was broken off with the fault. -/
def BrokenOff (kind : Telling → Prop) (w : World σ τ) (e : Fault τ) (w' : World σ τ) : Prop :=
  ∃ late looks, BreaksOff True late e ∧ (∀ t ∈ looks, kind t) ∧ Tells w (late ++ looks) w'

/-- After looks without the line, the log of the container held the line. -/
def Shows (container : Container) (line : String) (w w' : World σ τ) : Prop :=
  ∃ content looks, HoldsLine line content ∧ (∀ t ∈ looks, t.IsLook line) ∧
    Tells w (.logged container content :: looks) w'

section

variable {kind : Telling → Prop} {w w₁ w₂ : World σ τ}

instance : IsPreorder (World σ τ) (Looks kind) where
  refl w := ⟨[], by simp, tells_of_mute (refl_of (Asks Request.Mute) w)⟩
  trans := by
    rintro w₁ w₂ w₃ ⟨looks, hlooks, htells⟩ ⟨looks', hlooks', htells'⟩
    exact ⟨looks' ++ looks, List.forall_mem_append.mpr ⟨hlooks', hlooks⟩, htells.trans htells'⟩

theorem looks_of_mute (h : Asks Request.Mute w w₁) : Looks kind w w₁ :=
  ⟨[], by simp, tells_of_mute h⟩

theorem Looks.shows {container : Container} {line : String} (h : Looks (Telling.IsLook line) w w₁)
    (h' : Shows container line w₁ w₂) : Shows container line w w₂ := by
  obtain ⟨looks, hlooks, htells⟩ := h
  obtain ⟨content, looks', hline, hlooks', htells'⟩ := h'
  exact ⟨content, looks' ++ looks, hline, List.forall_mem_append.mpr ⟨hlooks', hlooks⟩, htells.trans htells'⟩

theorem Looks.brokenOff {e : Fault τ} (h : Looks kind w w₁) (he : e.IsPlain True) : BrokenOff kind w e w₁ := by
  obtain ⟨looks, hlooks, htells⟩ := h
  exact ⟨[], looks, .plain he, hlooks, htells⟩

theorem Looks.trans_brokenOff {e : Fault τ} (h : Looks kind w w₁) (h' : BrokenOff kind w₁ e w₂) :
    BrokenOff kind w e w₂ := by
  obtain ⟨looks, hlooks, htells⟩ := h
  obtain ⟨late, looks', hlate, hlooks', htells'⟩ := h'
  refine ⟨late, looks' ++ looks, hlate, List.forall_mem_append.mpr ⟨hlooks', hlooks⟩, ?_⟩
  rw [← List.append_assoc]
  exact htells.trans htells'

theorem Looks.after_sleep [Host σ τ] (h : Looks kind w w₁) (seconds : τ) :
    After (sleep seconds) w₁ fun r w₂ =>
      (r = .ok () → Looks kind w w₂) ∧ ∀ e, r = .error e → BrokenOff kind w e w₂ := by
  obtain ⟨looks, hlooks, htells⟩ := h
  refine (after_sleep_told seconds w₁).mono fun r w₂ hpost => ⟨fun hr => ?_, fun e he => ?_⟩
  · exact ⟨looks, hlooks, htells.trans (hpost.1 hr)⟩
  · obtain ⟨f, rfl, hsleepless⟩ := hpost.2 e he
    exact ⟨[.sleepless f], looks, .sleepless f, hlooks, htells.trans hsleepless⟩

end

variable [Host σ τ]

/-- A wait is told what its attempts are told, and in the end that a sleep is refused, if one is. -/
theorem after_pollFor_told [Seconds τ] {kind : Telling → Prop} (P : World σ τ → World σ τ → Prop)
    (hP : ∀ w w₁ w₂, Looks kind w w₁ → P w₁ w₂ → P w w₂) {policy : RetryPolicy τ} {timeout : τ}
    {try_ : Deadline τ → Nat → On σ τ ω (Except β α)}
    (htry : ∀ deadline number s, After (try_ deadline number) s fun r s' =>
      (∀ a, r = .ok (.ok a) → P s.1 s'.1) ∧ ((∀ a, r ≠ .ok (.ok a)) → Looks kind s.1 s'.1))
    (hfaults : ∀ deadline number, Raises (Fault.IsPlain True) (try_ deadline number)) (s : World σ τ × ω) :
    After (pollFor policy timeout try_) s fun r s' =>
      (∀ a, r = .ok (.ok a) → P s.1 s'.1) ∧ (∀ seen, r = .ok (.error seen) → Looks kind s.1 s'.1) ∧
        ∀ e, r = .error e → BrokenOff kind s.1 e s'.1 := by
  refine after_pollFor (I := fun s₁ => Looks kind s.1 s₁.1) (fun deadline number s₁ hs₁ => ?_)
    (fun seconds s₁ hs₁ => ?_) (fun s₁ hs₁ => ⟨by simp, by simp, fun e he => ?_⟩) (refl_of (Looks kind) s.1)
  · refine ((htry deadline number s₁).and (hfaults deadline number s₁)).mono fun r s₂ hpost => ?_
    obtain ⟨⟨hdone, hagain⟩, hfault⟩ := hpost
    have hlooks (h : ∀ a, r ≠ .ok (.ok a)) : Looks kind s.1 s₂.1 := trans_of (Looks kind) hs₁ (hagain h)
    refine ⟨⟨fun a hr => hP _ _ _ hs₁ (hdone a hr), fun seen hr => hlooks (by simp [hr]), fun e he => ?_⟩,
      fun seen hr => hlooks (by simp [hr])⟩
    exact (hlooks (by simp [he])).brokenOff (hfault e he)
  · refine (hs₁.after_sleep seconds).world.mono fun r s₂ hpost => ⟨hpost.1.1, ?_⟩
    rintro e rfl
    exact ⟨by simp, by simp, fun _ he => hpost.1.2 _ (congrArg _ (Except.error.inj he))⟩
  · cases he
    exact hs₁.brokenOff (.inr (.inr ⟨rfl, trivial⟩))

namespace Wait

theorem after_lookOnce_told (container : Container) (name needle : String) (deadline : Deadline τ) (number : Nat)
    (s : World σ τ × Unit) :
    After (lookOnce container name needle deadline number) s fun r s' =>
      (∀ u, r = .ok (.ok u) → Shows container needle s.1 s'.1) ∧
        ((∀ u, r ≠ .ok (.ok u)) → Looks (Telling.IsLook needle) s.1 s'.1) := by
  refine after_bind (after_docker (.logs container .all) s.1).world ?_ ?_
  · rintro content s₁ ⟨⟨_, _, _, hpast⟩, _⟩
    have htells : Tells s.1 [.logged container content] s₁.1 := tells_asked hpast
    refine after_ite (fun hline => after_record_bind fun s₂ hlogs => after_pure ?_) fun hline => ?_
    · have hshows : Shows container needle s.1 s₂.1 := ⟨content, [], hline, by simp, htells.mute hlogs.1.asks⟩
      exact ⟨fun _ _ => hshows, fun h => absurd rfl (h ())⟩
    · have hlooks : Looks (Telling.IsLook needle) s.1 s₁.1 :=
        ⟨_, by simpa [Telling.IsLook, HoldsLine] using hline, htells⟩
      refine after_bind (after_docker (.inspect container) s₁.1).world ?_ ?_
      · rintro report s₂ ⟨⟨_, _, _, hpast₂⟩, _⟩
        have hlooks₂ : Looks (Telling.IsLook needle) s.1 s₂.1 :=
          trans_of (Looks _) hlooks ⟨[.inspected container report], by simp [Telling.IsLook], tells_asked hpast₂⟩
        exact after_ite (fun _ => after_throw ⟨by simp, fun _ => hlooks₂⟩)
          fun _ => after_pure ⟨by simp, fun _ => hlooks₂⟩
      · rintro e s₂ ⟨⟨_, _, _, hpast₂⟩, _⟩
        exact ⟨by simp, fun _ => trans_of (Looks _) hlooks (looks_of_mute (mute_of_refusal hpast₂))⟩
  · rintro e s₁ ⟨⟨_, _, _, hpast⟩, _⟩
    exact ⟨by simp, fun _ => looks_of_mute (mute_of_refusal hpast)⟩

variable [Seconds τ] (hordinary : Host.Ordinary σ)

include hordinary

theorem after_untilLogged_told (container : Container) (name needle : String) (policy : RetryPolicy τ)
    (w : World σ τ) :
    After (untilLogged container name needle policy) w fun r w' =>
      (r = .ok () → Shows container needle w w') ∧
        ∀ e, r = .error e → BrokenOff (Telling.IsLook needle) w e w' := by
  refine (after_untilLogged_of (after_pollFor_told (Shows container needle) (fun _ _ _ => Looks.shows)
    (after_lookOnce_told container name needle) (raises_lookOnce hordinary True container name needle)
    (w, ()))).mono fun r w' hends => ?_
  obtain ⟨outcome, ⟨hshows, hlooks, hbroken⟩, rfl⟩ := hends
  refine ⟨fun hok => ?_, fun e he => ?_⟩
  · obtain ⟨u, houtcome, _⟩ := verdict_eq_ok_iff.mp hok
    exact hshows u houtcome
  · rcases outcome with fault | seen | u
    · cases he
      exact hbroken _ rfl
    · cases he
      exact (hlooks seen rfl).brokenOff (.inr (.inl trivial))
    · cases he

/-- A wait for a port is told nothing, but that a sleep is refused. -/
theorem after_untilReachable_told (host : String) (port : Int) (timeout settle connectTimeout : τ)
    (policy : RetryPolicy τ) (w : World σ τ) :
    After (untilReachable host port timeout (some policy) settle connectTimeout) w fun r w' =>
      (r = .ok () → Looks (fun _ => False) w w') ∧ ∀ e, r = .error e → BrokenOff (fun _ => False) w e w' := by
  have htry (deadline : Deadline τ) (number : Nat) (s : World σ τ × Unit) :
      After (connectOnce host port connectTimeout deadline number) s fun _ s' => Looks (fun _ => False) s.1 s'.1 :=
    (after_connectOnce_seen (fun _ hr => Request.mute_of_isSocket hr) host port connectTimeout deadline number s).mono
      fun _ _ hpost => looks_of_mute hpost.1
  have hloop (w₁ : World σ τ) (hlogs : Logs w w₁) :
      After (pollFor policy timeout (connectOnce host port connectTimeout)) (w₁, ()) fun outcome s =>
        (∀ a, outcome = .ok a → Looks (fun _ => False) w s.1) ∧
          ∀ e, outcome = .error e → BrokenOff (fun _ => False) w e s.1 := by
    have hrecord : Looks (fun _ => False) w w₁ := looks_of_mute hlogs.asks
    refine (after_pollFor_told (Looks fun _ => False) (fun _ _ _ => trans_of _) (fun deadline number s => ?_)
      (raises_connectOnce hordinary True host port connectTimeout) (w₁, ())).mono fun outcome s hpost => ?_
    · exact (htry deadline number s).mono fun r s' hlooks => ⟨fun _ _ => hlooks, fun _ => hlooks⟩
    · obtain ⟨hreached, hunreached, hbroken⟩ := hpost
      refine ⟨fun a ha => ?_, fun e he => hrecord.trans_brokenOff (hbroken e he)⟩
      cases a with
      | ok attempts => exact trans_of (Looks _) hrecord (hreached attempts ha)
      | error attempts => exact trans_of (Looks _) hrecord (hunreached attempts ha)
  refine (after_untilReachable_of hloop).mono fun r w' hends => ?_
  obtain ⟨outcome, w₂, ⟨hlooks, hbroken⟩,
    ⟨attempts, houtcome, w₃, hlogs, hsettle⟩ | ⟨hunreached, rfl, rfl⟩⟩ := hends
  · have hlooks₃ : Looks (fun _ => False) w w₃ := trans_of (Looks _) (hlooks _ houtcome) (looks_of_mute hlogs.asks)
    have hafter : After (if 0.0 < settle then sleep settle else pure () : Act σ τ Unit) w₃ fun r w' =>
        (r = .ok () → Looks (fun _ => False) w w') ∧ ∀ e, r = .error e → BrokenOff (fun _ => False) w e w' :=
      after_ite (fun _ => hlooks₃.after_sleep settle) fun _ => after_pure ⟨fun _ => hlooks₃, by simp⟩
    exact hafter.attempted hsettle
  · rcases outcome with fault | attempts | attempts
    · exact ⟨by simp [verdict], fun e he => hbroken e (congrArg _ (Except.error.inj he))⟩
    · refine ⟨by simp [verdict], ?_⟩
      rintro _ ⟨⟩
      exact (hlooks _ rfl).brokenOff (.inr (.inl trivial))
    · exact absurd rfl (hunreached attempts)

end Wait

end ProxyTestbed
