import ProxyTestbed.Outside.Files
import ProxyTestbed.Outside.Socket
import ProxyTestbed.Proofs.Act.After
import ProxyTestbed.Wait.Waits

/-!
# What acts ask of the outside world

The past of a world only grows, and what an act adds to it tells what it asked for and how it was answered.
`Asks P w w'` says that every request between `w` and `w'` satisfies `P` with its answer; `Logs w w'` says
that nothing happened between them but log records; `Finds pick w found w'` and `Requests w rs w'` list what is
found, and what was asked for, between them.

* `keeps_ask`: an act asks only for what its parts ask for; the lemmas after it go through the operations on
  files and sockets and through the waits.
* `after_sleep`: a sleep that is refused is a request, and one that is not is none.
-/

namespace ProxyTestbed

variable {σ τ ω π α β : Type}

/-! ## What is added to the past -/

/-- Between `w` and `w'` all requests, with their answers, satisfy `P`. -/
def Asks (P : (r : Request τ) → Except (Fault τ) r.Answer → Prop) (w w' : World σ τ) : Prop :=
  ∃ es, w'.past = es ++ w.past ∧ ∀ r a, Event.asked r a ∈ es → P r a

/-- Between `w` and `w'` nothing happens but log records. -/
def Logs (w w' : World σ τ) : Prop :=
  ∃ es, w' = { w with past := es ++ w.past } ∧
    ∀ e ∈ es, ∃ level source message, e = Event.record level source message

section

variable {P Q : (r : Request τ) → Except (Fault τ) r.Answer → Prop}

instance : IsPreorder (World σ τ) (Asks P) where
  refl w := ⟨[], rfl, by simp⟩
  trans := by
    rintro w₁ w₂ w₃ ⟨es, h, hP⟩ ⟨es', h', hP'⟩
    refine ⟨es' ++ es, by rw [h', h, List.append_assoc], fun r a hm => ?_⟩
    rcases List.mem_append.mp hm with hm | hm
    · exact hP' r a hm
    · exact hP r a hm

instance : IsPreorder (World σ τ) Logs where
  refl w := ⟨[], rfl, by simp⟩
  trans := by
    rintro w₁ w₂ w₃ ⟨es, rfl, hes⟩ ⟨es', rfl, hes'⟩
    refine ⟨es' ++ es, by simp, fun e hm => ?_⟩
    rcases List.mem_append.mp hm with hm | hm
    · exact hes' e hm
    · exact hes e hm

theorem Asks.mono {w w' : World σ τ} (h : Asks P w w') (hPQ : ∀ r a, P r a → Q r a) : Asks Q w w' := by
  obtain ⟨es, hpast, hP⟩ := h
  exact ⟨es, hpast, fun r a hm => hPQ r a (hP r a hm)⟩

theorem Asks.and {w w' : World σ τ} (h : Asks P w w') (h' : Asks Q w w') : Asks (fun r a => P r a ∧ Q r a) w w' := by
  obtain ⟨es, hpast, hP⟩ := h
  obtain ⟨es', hpast', hQ⟩ := h'
  obtain rfl : es' = es := List.append_cancel_right (hpast'.symm.trans hpast)
  exact ⟨es', hpast, fun r a hm => ⟨hP r a hm, hQ r a hm⟩⟩

theorem Asks.ask {w w₁ w₂ : World σ τ} {r : Request τ} {a : Except (Fault τ) r.Answer}
    (h : Asks P w w₁) (hpast : w₂.past = .asked r a :: w₁.past) (ha : P r a) : Asks P w w₂ := by
  refine trans_of (Asks P) h ⟨[.asked r a], hpast, fun r' a' hm => ?_⟩
  cases List.mem_singleton.mp hm
  exact ha

/-- One request was asked. -/
theorem asks_asked_iff {w w₁ : World σ τ} {r : Request τ} {a : Except (Fault τ) r.Answer}
    (hpast : w₁.past = .asked r a :: w.past) : Asks P w w₁ ↔ P r a := by
  constructor
  · rintro ⟨es, hes, hP⟩
    have hone : es = [.asked r a] := List.append_cancel_right (hes.symm.trans hpast)
    exact hP r a (hone ▸ List.mem_singleton_self _)
  · exact (refl_of (Asks P) w).ask hpast

theorem Asks.split {w w₁ w₂ : World σ τ} (hpast : w.past <:+ w₁.past) (hpast' : w₁.past <:+ w₂.past) :
    Asks P w w₂ ↔ Asks P w w₁ ∧ Asks P w₁ w₂ := by
  obtain ⟨es, hes⟩ := hpast
  obtain ⟨es', hes'⟩ := hpast'
  constructor
  · rintro ⟨es'', hes'', hP⟩
    have hsplit : es'' = es' ++ es := by
      rw [← hes', ← hes, ← List.append_assoc] at hes''
      exact (List.append_cancel_right hes'').symm
    rw [hsplit] at hP
    exact ⟨⟨es, hes.symm, fun r a hm => hP r a (List.mem_append_right _ hm)⟩,
      es', hes'.symm, fun r a hm => hP r a (List.mem_append_left _ hm)⟩
  · rintro ⟨h, h'⟩
    exact trans_of (Asks P) h h'

theorem Logs.asks {w w' : World σ τ} (h : Logs w w') : Asks P w w' := by
  obtain ⟨es, rfl, hes⟩ := h
  refine ⟨es, rfl, fun r a hm => ?_⟩
  obtain ⟨_, _, _, he⟩ := hes _ hm
  cases he

theorem Logs.files {w w' : World σ τ} (h : Logs w w') : w'.files = w.files := by
  obtain ⟨es, rfl, -⟩ := h
  rfl

end

/-! ### Sleeps -/

section

variable [Host σ τ] {seconds : τ} {w w₁ : World σ τ}

theorem after_sleep (seconds : τ) (w : World σ τ) :
    After (sleep seconds) w fun r w' =>
      (Host.refusal seconds w.host = none ∧ r = .ok () ∧
        w' = { w with host := Host.sleep seconds w.host, past := .slept seconds :: w.past }) ∨
      ∃ e, Host.refusal seconds w.host = some e ∧ r = .error (.foreign e) ∧
        w' = { w with past := .asked (.sleep seconds) (.error (.foreign e)) :: w.past } := by
  unfold After sleep
  cases Host.refusal seconds w.host with
  | none => exact .inl ⟨rfl, rfl, rfl⟩
  | some e => exact .inr ⟨e, rfl, rfl, rfl⟩

theorem of_sleep_ok (h : sleep seconds w = .ok () w₁) : Host.refusal seconds w.host = none ∧
    w₁ = { w with host := Host.sleep seconds w.host, past := .slept seconds :: w.past } := by
  obtain ⟨hrefusal, -, hw⟩ | ⟨e, -, hr, -⟩ := (after_sleep seconds w).ok h
  · exact ⟨hrefusal, hw⟩
  · cases hr

theorem asks_slept {P : (r : Request τ) → Except (Fault τ) r.Answer → Prop} (h : sleep seconds w = .ok () w₁) :
    Asks P w w₁ := by
  obtain ⟨-, rfl⟩ := of_sleep_ok h
  exact ⟨[.slept seconds], rfl, by simp⟩

theorem of_sleep_error {e : Fault τ} (h : sleep seconds w = .error e w₁) :
    ∃ cause, Host.refusal seconds w.host = some cause ∧ e = .foreign cause ∧
      w₁.past = .asked (.sleep seconds) (.error e) :: w.past := by
  obtain ⟨-, hr, -⟩ | ⟨cause, hrefusal, hr, rfl⟩ := (after_sleep seconds w).error h
  · cases hr
  · cases hr
    exact ⟨cause, hrefusal, rfl, rfl⟩

end

/-! ### What is found in the past -/

/-- What `pick` finds among the events between `w` and `w'`, the latest first. -/
def Finds (pick : Event τ → Option α) (w : World σ τ) (found : List α) (w' : World σ τ) : Prop :=
  ∃ es, w'.past = es ++ w.past ∧ es.filterMap pick = found

section

variable {pick : Event τ → Option α} {w w₁ w₂ : World σ τ}

theorem finds_asked {r : Request τ} {a : Except (Fault τ) r.Answer} (h : w₁.past = .asked r a :: w.past) :
    Finds pick w (pick (.asked r a)).toList w₁ := by
  refine ⟨[.asked r a], h, ?_⟩
  cases hfound : pick (.asked r a) <;> simp [hfound]

theorem Finds.trans {found found' : List α} (h : Finds pick w found w₁) (h' : Finds pick w₁ found' w₂) :
    Finds pick w (found' ++ found) w₂ := by
  obtain ⟨es, hpast, rfl⟩ := h
  obtain ⟨es', hpast', rfl⟩ := h'
  exact ⟨es' ++ es, by rw [hpast', hpast, List.append_assoc], List.filterMap_append⟩

variable (hpick : ∀ e : Event τ, (∀ r a, e ≠ .asked r a) → pick e = none)

include hpick

/-- Nothing is found if nothing is found in the answers to requests. -/
theorem finds_of_asks (h : Asks (fun r a => pick (.asked r a) = none) w w₁) : Finds pick w [] w₁ := by
  obtain ⟨es, hpast, hes⟩ := h
  refine ⟨es, hpast, List.filterMap_eq_nil_iff.mpr fun e he => ?_⟩
  cases e with
  | asked r a => exact hes r a he
  | _ => exact hpick _ (by simp)

theorem finds_slept [Host σ τ] {seconds : τ} (h : sleep seconds w = .ok () w₁) : Finds pick w [] w₁ :=
  finds_of_asks hpick (asks_slept h)

theorem Logs.finds (h : Logs w w₁) : Finds pick w [] w₁ :=
  finds_of_asks hpick h.asks

end

/-- The request that was asked, if one was. -/
def Event.request? : Event τ → Option (Request τ)
  | .asked r _ => some r
  | _ => none

/-- Between `w` and `w'` these requests were asked, the latest first. -/
def Requests (w : World σ τ) (rs : List (Request τ)) (w' : World σ τ) : Prop :=
  ∃ es, w'.past = es ++ w.past ∧ es.filterMap Event.request? = rs

theorem Event.request?_of_not_asked (e : Event τ) (h : ∀ r a, e ≠ .asked r a) : e.request? = none := by
  cases e with
  | asked r a => exact absurd rfl (h r a)
  | _ => rfl

section

variable {w w₁ w₂ : World σ τ}

theorem requests_asked {r : Request τ} {a : Except (Fault τ) r.Answer} (h : w₁.past = .asked r a :: w.past) :
    Requests w [r] w₁ :=
  finds_asked h

theorem requests_slept [Host σ τ] {seconds : τ} (h : sleep seconds w = .ok () w₁) : Requests w [] w₁ :=
  finds_slept Event.request?_of_not_asked h

theorem Requests.trans {rs rs' : List (Request τ)} (h : Requests w rs w₁) (h' : Requests w₁ rs' w₂) :
    Requests w (rs' ++ rs) w₂ :=
  Finds.trans h h'

theorem Logs.requests (h : Logs w w₁) : Requests w [] w₁ :=
  h.finds Event.request?_of_not_asked

end

/-! ## Frames of a world beside an object -/

/-- The relation of worlds, whatever becomes of the object beside them. -/
def Beside (R : World σ τ → World σ τ → Prop) (s s' : World σ τ × ω) : Prop :=
  R s.1 s'.1

/-- The relation of worlds, with the same object beside them. -/
def Besides (R : World σ τ → World σ τ → Prop) (s s' : World σ τ × ω) : Prop :=
  R s.1 s'.1 ∧ s'.2 = s.2

/-- `get` finds the same in the object, whatever becomes of the world beside it. -/
def Same (get : ω → π) (s s' : World σ τ × ω) : Prop :=
  get s'.2 = get s.2

section

variable {get : ω → π}

instance : IsPreorder (World σ τ × ω) (Same get) where
  refl _ := rfl
  trans _ _ _ h h' := Eq.trans h' h

theorem keeps_same_world (act : Act σ τ α) : Keeps (Same get) (world act : On σ τ ω α) :=
  fun _ => after_world (after_trivial.mono fun _ _ _ => rfl)

theorem keeps_same_object : Keeps (Same get) (On.object : On σ τ ω ω) :=
  fun _ => rfl

end

section

variable {R : World σ τ → World σ τ → Prop}

instance [IsPreorder (World σ τ) R] : IsPreorder (World σ τ × ω) (Beside R) where
  refl s := refl_of R s.1
  trans s₁ s₂ s₃ h h' := trans_of R (a := s₁.1) (b := s₂.1) (c := s₃.1) h h'

instance [IsPreorder (World σ τ) R] : IsPreorder (World σ τ × ω) (Besides R) where
  refl s := ⟨refl_of R s.1, rfl⟩
  trans _ _ _ h h' := ⟨trans_of R h.1 h'.1, h'.2.trans h.2⟩

theorem Keeps.world {act : Act σ τ α} (h : Keeps R act) :
    Keeps (Besides R) (world act : On σ τ ω α) :=
  fun s => after_world ((h s.1).mono fun _ _ hw => ⟨hw, rfl⟩)

theorem Keeps.beside {act : On σ τ ω α} (h : Keeps (Besides R) act) : Keeps (Beside R) act :=
  h.mono fun _ _ hs => hs.1

theorem Keeps.start {act : On σ τ ω α} (o : ω) (h : Keeps (Beside R) act) : Keeps R (On.start o act) :=
  fun w => after_start (h (w, o))

theorem keeps_object [IsPreorder (World σ τ) R] : Keeps (Besides R) (On.object : On σ τ ω ω) :=
  fun s => refl_of (Besides R) s

theorem keeps_change [IsPreorder (World σ τ) R] (f : ω → ω) :
    Keeps (Beside R) (On.change f : On σ τ ω Unit) :=
  fun s => refl_of R s.1

end

/-! ## Single acts -/

section

variable {P : (r : Request τ) → Except (Fault τ) r.Answer → Prop}

theorem keeps_record_logs (level : Log.Level) (source : Log.Source) (message : String) :
    Keeps Logs (record level source message : Act σ τ Unit) :=
  fun _ => ⟨[.record level source message], rfl, by simp⟩

theorem keeps_record_of {R : World σ τ → World σ τ → Prop} (hlogs : ∀ w w', Logs w w' → R w w')
    (level : Log.Level) (source : Log.Source) (message : String) :
    Keeps R (record level source message : Act σ τ Unit) :=
  (keeps_record_logs level source message).mono hlogs

theorem keeps_record (level : Log.Level) (source : Log.Source) (message : String) :
    Keeps (Asks P) (record level source message : Act σ τ Unit) :=
  keeps_record_of (fun _ _ => Logs.asks) level source message

theorem after_record_act_bind {level : Log.Level} {source : Log.Source} {message : String}
    {f : Unit → Act σ τ α} {w : World σ τ} {Q : Except (Fault τ) α → World σ τ → Prop}
    (h : ∀ w', Logs w w' → After (f ()) w' Q) : After (record level source message >>= f) w Q :=
  h _ ⟨[.record level source message], rfl, by simp⟩

/-- A log record never fails. -/
theorem after_record_bind {level : Log.Level} {source : Log.Source} {message : String}
    {f : Unit → On σ τ ω α} {s : World σ τ × ω} {Q : Except (Fault τ) α → World σ τ × ω → Prop}
    (h : ∀ s', Besides Logs s s' → After (f ()) s' Q) :
    After (world (record level source message) >>= f) s Q :=
  h _ ⟨⟨[.record level source message], rfl, by simp⟩, rfl⟩

/-- The files are changed, or it is reported why they cannot be. -/
theorem after_change_files (shown : String) (f : FileTree → Except FileProblem FileTree) (w : World σ τ) :
    After (Files.change shown f) w fun r w' =>
      (∃ t, f w.files = .ok t ∧ r = .ok () ∧ w' = { w with files := t }) ∨
        ∃ problem, f w.files = .error problem ∧ r = .error (.foreign (problem.toForeign shown)) ∧ w' = w := by
  unfold After Files.change
  cases f w.files with
  | ok t => exact .inl ⟨t, rfl, rfl, rfl⟩
  | error problem => exact .inr ⟨problem, rfl, rfl, rfl⟩

/-- The files are looked at, or it is reported why they cannot be. -/
theorem after_look_files (shown : String) (f : FileTree → Except FileProblem α) (w : World σ τ) :
    After (Files.look shown f) w fun r w' => w' = w ∧ ((∃ a, f w.files = .ok a ∧ r = .ok a) ∨
      ∃ problem, f w.files = .error problem ∧ r = .error (.foreign (problem.toForeign shown))) := by
  unfold After Files.look
  cases f w.files with
  | ok a => exact ⟨rfl, .inl ⟨a, rfl, rfl⟩⟩
  | error problem => exact ⟨rfl, .inr ⟨problem, rfl, rfl⟩⟩

theorem keeps_change_files (shown : String) (f : FileTree → Except FileProblem FileTree) :
    Keeps (Asks P) (Files.change shown f : Act σ τ Unit) := by
  refine fun w => (after_change_files shown f w).mono ?_
  rintro r w' (⟨t, _, _, rfl⟩ | ⟨problem, _, _, rfl⟩)
  · exact ⟨[], rfl, by simp⟩
  · exact refl_of (Asks P) w'

theorem keeps_look_files (shown : String) (f : FileTree → Except FileProblem α) :
    Keeps (Asks P) (Files.look shown f : Act σ τ α) := by
  refine fun w => (after_look_files shown f w).mono ?_
  rintro r w' ⟨rfl, _⟩
  exact refl_of (Asks P) w'

variable [Host σ τ]

theorem after_ask (r : Request τ) (w : World σ τ) :
    After (ask r) w fun a w' => a = (Host.answer r w.host).1 ∧ w'.files = w.files ∧
      w'.host = (Host.answer r w.host).2 ∧ w'.past = .asked r a :: w.past := by
  unfold After ask
  cases h : (Host.answer r w.host).1 <;> simp [h]

theorem keeps_ask {r : Request τ} (h : ∀ a, P r a) : Keeps (Asks P) (ask r : Act σ τ r.Answer) := by
  refine fun w => (after_ask r w).mono fun a w' hw => ?_
  exact (refl_of (Asks P) w).ask hw.2.2.2 (h a)

/-- An operation on files that is done was granted before. -/
theorem after_ask_change (operation : FileOperation) (path : Path) (shown : String)
    (f : FileTree → Except FileProblem FileTree) (w : World σ τ) :
    After (do ask (.file operation path); Files.change shown f) w fun r w' => r = .ok () →
      f w.files = .ok w'.files ∧ w'.past = .asked (.file operation path) (.ok ()) :: w.past := by
  refine after_bind (after_ask _ w) ?_ (by simp)
  rintro _ w₁ ⟨_, hfiles, _, hpast⟩
  refine (after_change_files shown f w₁).mono ?_
  rintro r w₂ (⟨t, hf, _, rfl⟩ | ⟨_, _, rfl, _⟩) hr
  · rw [hfiles] at hf
    exact ⟨hf, hpast⟩
  · cases hr

/-- The files are looked at only if that was granted. -/
theorem after_ask_look (operation : FileOperation) (path : Path) (shown : String)
    (f : FileTree → Except FileProblem α) (w : World σ τ) :
    After (do ask (.file operation path); Files.look shown f) w fun r w' => w'.files = w.files ∧
      ∃ a, w'.past = .asked (.file operation path) a :: w.past ∧
        (∀ x, r = .ok x ↔ a = .ok () ∧ f w.files = .ok x) ∧ ∀ fault, a = .error fault → r = .error fault := by
  refine after_bind (after_ask _ w) ?_ ?_
  · rintro _ w₁ ⟨_, hfiles, _, hpast⟩
    refine (after_look_files shown f w₁).mono ?_
    rintro r _ ⟨rfl, hlook⟩
    rw [hfiles] at hlook
    refine ⟨hfiles, _, hpast, ?_, by simp⟩
    rcases hlook with ⟨x, hf, rfl⟩ | ⟨problem, hf, rfl⟩
    · simp [hf]
    · simp [hf]
  · rintro fault w₁ ⟨_, hfiles, _, hpast⟩
    exact ⟨hfiles, _, hpast, by simp, by simp⟩

theorem after_docker (call : DockerCall) (w : World σ τ) :
    After (docker call) w fun a w' => a = (Host.answer (.docker call) w.host).1 ∧ w'.files = w.files ∧
      w'.host = (Host.answer (.docker call) w.host).2 ∧
      w'.past = .asked (.docker call) a :: w.past :=
  after_ask _ w

theorem keeps_docker {call : DockerCall} (h : ∀ a, P (.docker call) a) :
    Keeps (Asks P) (docker call : Act σ τ call.Answer) :=
  keeps_ask h

theorem keeps_sleep {seconds : τ} (h : ∀ e, P (.sleep seconds) (.error (.foreign e))) :
    Keeps (Asks P) (sleep seconds : Act σ τ Unit) := by
  refine fun w => .of_run (fun _ w' hrun => asks_slept hrun) fun e w' hrun => ?_
  obtain ⟨cause, -, rfl, hpast⟩ := of_sleep_error hrun
  exact (refl_of (Asks P) w).ask hpast (h cause)

theorem keeps_now : Keeps (Asks P) (now : Act σ τ τ) := fun w => refl_of (Asks P) w

theorem keeps_freshId : Keeps (Asks P) (freshId : Act σ τ String) := fun _ => ⟨[], rfl, by simp⟩

theorem keeps_freshEnding : Keeps (Asks P) (freshEnding : Act σ τ String) := fun _ => ⟨[], rfl, by simp⟩

theorem keeps_temporaryDirectory : Keeps (Asks P) (temporaryDirectory : Act σ τ Path) :=
  fun w => refl_of (Asks P) w

end

end ProxyTestbed
