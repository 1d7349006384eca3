import ProxyTestbed.Proofs.Wait.Loops

/-!
# What a wait has seen

A wait that ends without a fault has seen what it waited for: a log that holds the line, or a port that
accepts a connection. Both stand in the past of the world.

* `after_untilLogged`, `after_untilReachable`: what a wait asks for, and what it has seen at its end.
-/

namespace ProxyTestbed

variable {σ τ : Type}

/-- Between `w` and `w'` something with the property `p` happened. -/
def Seen (p : Event τ → Prop) (w w' : World σ τ) : Prop :=
  ∃ late e early, w'.past = late ++ e :: (early ++ w.past) ∧ p e

section

variable {P : (r : Request τ) → Except (Fault τ) r.Answer → Prop} {p : Event τ → Prop}
  {w w₁ w₂ : World σ τ}

theorem Seen.of_last {e : Event τ} (h : Asks P w w₁) (hpast : w₂.past = e :: w₁.past) (he : p e) :
    Seen p w w₂ := by
  obtain ⟨es, hes, _⟩ := h
  exact ⟨[], e, es, by rw [hpast, hes]; rfl, he⟩

theorem Seen.asks (h : Seen p w w₁) (hasks : Asks P w₁ w₂) : Seen p w w₂ := by
  obtain ⟨late, e, early, hpast, he⟩ := h
  obtain ⟨es, hes, _⟩ := hasks
  exact ⟨es ++ late, e, early, by rw [hes, hpast, List.append_assoc], he⟩

theorem Asks.seen (hasks : Asks P w w₁) (h : Seen p w₁ w₂) : Seen p w w₂ := by
  obtain ⟨late, e, early, hpast, he⟩ := h
  obtain ⟨es, hes, _⟩ := hasks
  exact ⟨late, e, early ++ es, by rw [hpast, hes]; simp, he⟩

end

/-- The log of the container, as it was answered, holds the line. -/
def ShowsLine (container : Container) (line : String) (e : Event τ) : Prop :=
  ∃ content, e = .asked (.docker (.logs container .all)) (.ok content) ∧
    Text.occursIn line.toList (Text.ofBytes content).toList = true

/-- The port accepted a connection. -/
def Connects (host : String) (port : Int) (e : Event τ) : Prop :=
  ∃ timeout socket, e = .asked (.connect host port timeout) (.ok socket)

section

variable [Seconds τ] [Host σ τ] {P : (r : Request τ) → Except (Fault τ) r.Answer → Prop}

omit [Seconds τ] in
/-- A check of a port that answers yes has connected. -/
theorem after_accepts (hP : ∀ r : Request τ, r.isSocket = true → ∀ a, P r a) (host : String)
    (port : Int) (timeout : τ) (w : World σ τ) :
    After (Socket.accepts host port timeout) w fun r w' =>
      Asks P w w' ∧ (r = .ok true → Seen (Connects host port) w w') := by
  have hkeeps : After (Socket.accepts host port timeout) w fun _ w' => Asks P w w' :=
    Socket.keeps_accepts (fun r h => keeps_ask (hP r h)) host port timeout w
  refine hkeeps.and ?_
  unfold Socket.accepts Socket.checkWith
  refine after_attempt_bind (P := fun r w' => r = .ok true → Seen (Connects host port) w w') ?_ ?_
  · refine after_bind (after_ask _ w) ?_ (by simp)
    intro socket w₁ hpost
    obtain ⟨_, _, _, hpast⟩ := hpost
    have hseen : Seen (Connects host port) w w₁ :=
      .of_last (refl_of (Asks P) w) hpast ⟨timeout, socket, rfl⟩
    have hrest : Keeps (Asks P) (always (pure true) (ask (.closeSocket socket)) : Act σ τ Bool) :=
      (Keeps.pure true).always (keeps_ask (hP _ rfl))
    exact (hrest w₁).mono fun _ _ h _ => hseen.asks h
  · intro r w' hr
    cases r with
    | ok answer => exact after_pure hr
    | error e =>
      dsimp only
      split
      · exact after_pure (by simp)
      · exact after_throw (by simp)

omit [Seconds τ] in
/-- A look that is successful has seen the line. -/
theorem after_lookOnce_seen {container : Container} (hlogs : ∀ a, P (.docker (.logs container .all)) a)
    (hinspect : ∀ a, P (.docker (.inspect container)) a) (name line : String) (deadline : Deadline τ) (number : Nat)
    (s : World σ τ × Unit) :
    After (Wait.lookOnce container name line deadline number) s fun r s' =>
      Asks P s.1 s'.1 ∧ ∀ u, r = .ok (.ok u) → Seen (ShowsLine container line) s.1 s'.1 := by
  refine after_bind (after_docker (.logs container .all) s.1).world (fun content s₁ hpost => ?_) fun e s₁ hpost => ?_
  · obtain ⟨⟨_, _, _, hpast⟩, _⟩ := hpost
    have hread : Asks P s.1 s₁.1 := (refl_of (Asks P) s.1).ask hpast (hlogs _)
    refine after_ite (fun hline => ?_) fun _ => ?_
    · have hseen : Seen (ShowsLine container line) s.1 s₁.1 :=
        .of_last (refl_of (Asks P) s.1) hpast ⟨content, rfl, hline⟩
      refine after_record_bind fun s₂ hrecord => after_pure ?_
      have hrecorded : Asks P s₁.1 s₂.1 := hrecord.1.asks
      exact ⟨trans_of (Asks P) hread hrecorded, fun _ _ => hseen.asks hrecorded⟩
    · refine after_bind (keeps_docker hinspect s₁.1).world (fun report s₂ hpost => ?_) fun e s₂ hpost => ?_
      · have hboth : Asks P s.1 s₂.1 := trans_of (Asks P) hread hpost.1
        exact after_ite (fun _ => after_throw ⟨hboth, by simp⟩) fun _ => after_pure ⟨hboth, by simp⟩
      · exact ⟨trans_of (Asks P) hread hpost.1, by simp⟩
  · obtain ⟨⟨_, _, _, hpast⟩, _⟩ := hpost
    exact ⟨(refl_of (Asks P) s.1).ask hpast (hlogs _), by simp⟩

/-- An attempt to connect that is successful has connected. -/
theorem after_connectOnce_seen (hP : ∀ r : Request τ, r.isSocket = true → ∀ a, P r a) (host : String) (port : Int)
    (connectTimeout : τ) (deadline : Deadline τ) (number : Nat) (s : World σ τ × Unit) :
    After (Wait.connectOnce host port connectTimeout deadline number) s fun r s' =>
      Asks P s.1 s'.1 ∧ ∀ attempts, r = .ok (.ok attempts) → Seen (Connects host port) s.1 s'.1 := by
  refine after_bind (keeps_now (P := P) s.1).world (fun time s₁ hpost => ?_) fun e s₁ hpost => ⟨hpost.1, by simp⟩
  have hs₁ : Asks P s.1 s₁.1 := hpost.1
  refine after_bind (after_accepts hP host port _ s₁.1).world (fun up s₂ hpost => after_pure ?_) fun e s₂ hpost => ?_
  · obtain ⟨⟨hs₂, hup⟩, _⟩ := hpost
    refine ⟨trans_of (Asks P) hs₁ hs₂, fun attempts hr => hs₁.seen (hup ?_)⟩
    cases up with
    | true => rfl
    | false => cases hr
  · exact ⟨trans_of (Asks P) hs₁ hpost.1.1, by simp⟩

/-- A wait whose attempts have seen something if they are successful has seen it if it is successful. -/
theorem after_pollFor_seen {ω α β : Type} (hsleep : ∀ seconds e, P (.sleep seconds) (.error (.foreign e)))
    (policy : RetryPolicy τ) (timeout : τ) {try_ : Deadline τ → Nat → On σ τ ω (Except β α)} {p : Event τ → Prop}
    (htry : ∀ deadline number s, After (try_ deadline number) s fun r s' =>
      Asks P s.1 s'.1 ∧ ∀ a, r = .ok (.ok a) → Seen p s.1 s'.1) (s : World σ τ × ω) :
    After (pollFor policy timeout try_) s fun r s' =>
      Asks P s.1 s'.1 ∧ ∀ a, r = .ok (.ok a) → Seen p s.1 s'.1 := by
  refine after_pollFor (I := fun s₁ => Asks P s.1 s₁.1) (fun deadline number s₁ hs₁ => ?_) (fun seconds s₁ hs₁ => ?_)
    (fun s₁ hs₁ => ⟨hs₁, by simp⟩) (refl_of (Asks P) s.1)
  · refine (htry deadline number s₁).mono fun r s₂ hpost => ?_
    have hs₂ : Asks P s.1 s₂.1 := trans_of (Asks P) hs₁ hpost.1
    exact ⟨⟨hs₂, fun a hr => hs₁.seen (hpost.2 a hr)⟩, fun _ _ => hs₂⟩
  · refine (keeps_sleep (hsleep seconds) s₁.1).world.mono fun r s₂ hpost => ?_
    have hs₂ : Asks P s.1 s₂.1 := trans_of (Asks P) hs₁ hpost.1
    exact ⟨fun _ => hs₂, fun e _ => ⟨hs₂, by simp⟩⟩

theorem after_untilLogged {container : Container}
    (hlogs : ∀ a, P (.docker (.logs container .all)) a)
    (hinspect : ∀ a, P (.docker (.inspect container)) a)
    (hsleep : ∀ seconds e, P (.sleep seconds) (.error (.foreign e))) (name line : String)
    (policy : RetryPolicy τ) (w : World σ τ) :
    After (Wait.untilLogged container name line policy) w fun r w' =>
      Asks P w w' ∧ (r = .ok () → Seen (ShowsLine container line) w w') := by
  have hloop := after_pollFor_seen hsleep policy policy.timeout
    (after_lookOnce_seen hlogs hinspect name line) (w, ())
  refine (Wait.after_untilLogged_of hloop).mono fun r w' hends => ?_
  obtain ⟨outcome, ⟨hasks, hseen⟩, hr⟩ := hends
  refine ⟨hasks, fun hok => ?_⟩
  obtain ⟨u, houtcome, _⟩ := verdict_eq_ok_iff.mp (hr.symm.trans hok)
  exact hseen u houtcome

theorem after_untilReachable (hP : ∀ r : Request τ, r.isSocket = true → ∀ a, P r a)
    (hsleep : ∀ seconds e, P (.sleep seconds) (.error (.foreign e))) (host : String)
    (port : Int) (timeout : τ) (policy : RetryPolicy τ) (settle connectTimeout : τ) (w : World σ τ) :
    After (Wait.untilReachable host port timeout (some policy) settle connectTimeout) w fun r w' =>
      Asks P w w' ∧ (r = .ok () → Seen (Connects host port) w w') := by
  have hloop (w₁ : World σ τ) (hlogs : Logs w w₁) :
      After (pollFor policy timeout (Wait.connectOnce host port connectTimeout)) (w₁, ()) fun outcome s =>
        Asks P w s.1 ∧ ∀ attempts, outcome = .ok (.ok attempts) → Seen (Connects host port) w s.1 := by
    have hrecord : Asks P w w₁ := hlogs.asks
    refine (after_pollFor_seen hsleep policy timeout (after_connectOnce_seen hP host port connectTimeout)
      (w₁, ())).mono ?_
    exact fun outcome s hpost => ⟨trans_of (Asks P) hrecord hpost.1, fun a ha => hrecord.seen (hpost.2 a ha)⟩
  refine (Wait.after_untilReachable_of hloop).mono fun r w' hends => ?_
  obtain ⟨outcome, w₂, ⟨hasks, hseen⟩, ⟨attempts, houtcome, w₃, hlogs, hsettle⟩ | ⟨hunreached, rfl, rfl⟩⟩ := hends
  · have hrest : Asks P w₂ w' := by
      have hsleep : Keeps (Asks P) (if 0.0 < settle then sleep settle else pure () : Act σ τ Unit) :=
        .ite (keeps_sleep (hsleep settle)) (.pure ())
      exact trans_of (Asks P) hlogs.asks ((hsleep w₃).attempted hsettle)
    exact ⟨trans_of (Asks P) hasks hrest, fun _ => (hseen attempts houtcome).asks hrest⟩
  · refine ⟨hasks, fun hok => ?_⟩
    obtain ⟨attempts, houtcome, _⟩ := verdict_eq_ok_iff.mp hok
    exact absurd houtcome (hunreached attempts)

end

end ProxyTestbed
