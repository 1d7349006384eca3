import ProxyTestbed.Proofs.Fleet.Course
import ProxyTestbed.Proofs.Wait.Loops

/-!
# The states of a provisioned environment

An environment is handed out ready. Issuing a certificate or starting a backend takes it into use, whatever
comes of that, and a release destroys it; nothing leads back. What is destroyed cannot be used, and releasing
it again does nothing.

A scenario hands callables to some operations, and they may call operations themselves. `Through n` describes
such callables: what they do with the environment, they do through its operations.

* `Through.moved`: the states only move forwards.
* `operations_obey`: every operation in every sequence of operations, from the moment when the environment is
  handed out.
-/

namespace ProxyTestbed

/-- What the state of an environment can have become: ready, in use, destroyed, in this order. -/
inductive EnvironmentState.Moves : EnvironmentState → EnvironmentState → Prop
  | stays (state : EnvironmentState) : Moves state state
  | begins : Moves .ready .inUse
  | ends {state : EnvironmentState} (h : state = .ready ∨ state = .inUse) : Moves state .destroyed

instance : IsPreorder EnvironmentState EnvironmentState.Moves where
  refl := .stays
  trans := by
    rintro a b c h h'
    cases h with
    | stays => exact h'
    | begins =>
      cases h' with
      | stays => exact .begins
      | ends => exact .ends (.inl rfl)
    | ends h =>
      cases h' with
      | stays => exact .ends h
      | ends => exact .ends h

variable {σ τ : Type} [Seconds τ]

/-! ## Taking an environment into use -/

namespace Environment

/-- These states are seen between the operations on an environment. -/
def IsSeen (e : Environment τ) : Prop :=
  e.state = .ready ∨ e.state = .inUse ∨ e.state = .destroyed

/-- The act begins with taking the environment into use, and leaves its state alone from there. -/
def Using {α : Type} (act : On σ τ (Environment τ) α) : Prop :=
  ∃ rest : Unit → On σ τ (Environment τ) α, act = (use >>= rest) ∧ ∀ u, Keeps (Same state) (rest u)

theorem using_issueCertificate [Host σ τ] (hostname : String) (options : Certificate.Options) :
    Using (issueCertificate hostname options : On σ τ (Environment τ) Certificate) := by
  refine ⟨_, rfl, fun _ => keeps_same_object.bind fun e => ?_⟩
  have hadd (certificate : Certificate) : Keeps (Same state) (On.change fun e =>
      { e with certificates := e.certificates.put hostname certificate } :
      On σ τ (Environment τ) Unit) := fun _ => rfl
  have hissue : Keeps (Same state) (world (Certificate.issue e.tlsDirectory hostname options) :
      On σ τ (Environment τ) Certificate) := keeps_same_world _
  cases e.certificates.get? hostname with
  | some known => exact .throw_bind _ _
  | none => exact hissue.bind fun certificate => (hadd certificate).bind fun _ => .pure _

theorem using_startBackend [Host σ τ] (order : BackendOrder τ) :
    Using (startBackend order : On σ τ (Environment τ) Nat) := by
  refine ⟨_, rfl, fun _ => keeps_same_object.bind fun e => (keeps_same_world _).bind fun backend => ?_⟩
  exact Keeps.bind (fun _ => rfl) fun _ => .pure _

variable {α : Type} {act : On σ τ (Environment τ) α} {w : World σ τ} {e : Environment τ}

/-- However the use of an environment ends, the environment is in use. -/
theorem Using.after (h : Using act) (hstate : e.state = .ready ∨ e.state = .inUse) :
    After act (w, e) fun _ s' => s'.2.state = .inUse := by
  obtain ⟨rest, rfl, hrest⟩ := h
  have huse : After use (w, e) fun r s' => r = .ok () ∧ s'.2.state = .inUse := by
    unfold use
    refine after_object_bind ?_
    rcases hstate with hstate | hstate
    · simp only [hstate]
      exact ⟨rfl, rfl⟩
    · simp only [hstate]
      exact ⟨rfl, hstate⟩
  refine after_bind huse ?_ ?_
  · rintro u s₁ ⟨-, hs₁⟩
    exact (hrest u s₁).mono fun _ _ hkept => Eq.trans hkept hs₁
  · rintro fault s₁ ⟨hr, -⟩
    cases hr

theorem Using.refused (h : Using act) (hstate : e.state = .destroyed) :
    act (w, e) = .error (.unusable e.id .destroyed) (w, e) := by
  obtain ⟨rest, rfl, -⟩ := h
  have huse : use (w, e) = .error (.unusable e.id .destroyed) (w, e) := by
    simp only [use, bind, EStateM.bind, On.object, hstate]
    rfl
  simp only [bind, EStateM.bind, huse]

end Environment

namespace Fleet

open Environment

variable {α β : Type} {n : Nat}

/-! ## Callables -/

/-- The environment with the number is the same as before. -/
abbrev SameAt (n : Nat) : World σ τ × Fleet τ → World σ τ × Fleet τ → Prop :=
  Same fun f => f.environments[n]?

/-- What the act does with the environment that has the number, it does through the operations on it; it may do
anything else. -/
inductive Through [Host σ τ] (n : Nat) : {α : Type} → On σ τ (Fleet τ) α → Prop
  | beside {α : Type} {act : On σ τ (Fleet τ) α} (h : Keeps (SameAt n) act) : Through n act
  | bind {α β : Type} {act : On σ τ (Fleet τ) α} {f : α → On σ τ (Fleet τ) β} (h : Through n act)
    (hf : ∀ a, Through n (f a)) : Through n (act >>= f)
  | attempt {α : Type} {act : On σ τ (Fleet τ) α} (h : Through n act) : Through n (attempt act)
  | issueCertificate (hostname : String) (options : Certificate.Options) :
    Through n (onEnvironment n (Environment.issueCertificate hostname options))
  | startBackend (order : BackendOrder τ) : Through n (onEnvironment n (Environment.startBackend order))
  | eventually {α : Type} (e : Environment τ) {action : On σ τ (Fleet τ) α}
    {accepts : α → On σ τ (Fleet τ) Bool} (haction : Through n action) (haccepts : ∀ a, Through n (accepts a))
    (observe : α → Observation) (condition : String) (timeout : Option τ) :
    Through n (e.eventually action accepts observe condition timeout)
  | release : Through n (release n)
  | closing {α : Type} {block : On σ τ (Fleet τ) α} (h : Through n block) : Through n (closing n block)

/-! ## Forwards only -/

/-- An environment that is seen between operations is still seen, its state moved at most forwards, and if it
was destroyed it is the same. -/
def Moved (n : Nat) (s s' : World σ τ × Fleet τ) : Prop :=
  ∀ e, s.2.environments[n]? = some e → e.IsSeen → ∃ e', s'.2.environments[n]? = some e' ∧ e'.IsSeen ∧
    e.state.Moves e'.state ∧ (e.state = .destroyed → e' = e)

instance : IsPreorder (World σ τ × Fleet τ) (Moved n) where
  refl s e he hseen := ⟨e, he, hseen, .stays _, fun _ => rfl⟩
  trans := by
    rintro s₁ s₂ s₃ h h' e he hseen
    obtain ⟨e₂, he₂, hseen₂, hmoves₂, hdestroyed₂⟩ := h e he hseen
    obtain ⟨e₃, he₃, hseen₃, hmoves₃, hdestroyed₃⟩ := h' e₂ he₂ hseen₂
    refine ⟨e₃, he₃, hseen₃, trans_of EnvironmentState.Moves hmoves₂ hmoves₃, fun hstate => ?_⟩
    obtain rfl := hdestroyed₂ hstate
    exact hdestroyed₃ hstate

theorem SameAt.moved {s s' : World σ τ × Fleet τ} (h : SameAt n s s') : Moved n s s' :=
  fun e he hseen => ⟨e, h.trans he, hseen, .stays _, fun _ => rfl⟩

theorem keeps_moved_world (act : Act σ τ α) : Keeps (Moved n) (world act : On σ τ (Fleet τ) α) := by
  have hsame : Keeps (SameAt n) (world act : On σ τ (Fleet τ) α) := keeps_same_world act
  exact hsame.mono fun _ _ h => SameAt.moved h

omit [Seconds τ] in
theorem getElem?_set_of_some {l : List α} {a b : α} (h : l[n]? = some a) : (l.set n b)[n]? = some b :=
  List.getElem?_set_self (List.getElem?_eq_some_iff.mp h).1

theorem after_using {act : On σ τ (Environment τ) α} (hact : Using act) {s : World σ τ × Fleet τ}
    {e : Environment τ} (he : s.2.environments[n]? = some e) (hstate : e.state = .ready ∨ e.state = .inUse) :
    After (onEnvironment n act) s fun _ s' => ∃ e', s'.2.environments[n]? = some e' ∧ e'.state = .inUse := by
  refine after_onEnvironment (by simp [he]) fun e₀ he₀ => ?_
  obtain rfl : e = e₀ := Option.some.inj (he.symm.trans he₀)
  refine (hact.after hstate).mono fun _ t ht => ?_
  exact ⟨t.2, getElem?_set_of_some he, ht⟩

theorem onEnvironment_refused {act : On σ τ (Environment τ) α} (hact : Using act) {s : World σ τ × Fleet τ}
    {e : Environment τ} (he : s.2.environments[n]? = some e) (hstate : e.state = .destroyed) :
    onEnvironment n act s = .error (.unusable e.id .destroyed) s := by
  have hset : s.2.environments.set n e = s.2.environments := by
    obtain ⟨hn, rfl⟩ := List.getElem?_eq_some_iff.mp he
    exact List.set_getElem_self hn
  simp only [onEnvironment, On.member, he, hact.refused hstate, hset]

theorem keeps_moved_using {act : On σ τ (Environment τ) α} (hact : Using act) :
    Keeps (Moved n) (onEnvironment n act) := by
  intro s
  cases he : s.2.environments[n]? with
  | none =>
    refine after_onEnvironment (fun _ => refl_of (Moved n) s) fun e he' => ?_
    cases he.symm.trans he'
  | some e =>
    by_cases hlive : e.state = .ready ∨ e.state = .inUse
    · refine (after_using hact he hlive).mono ?_
      rintro r s' ⟨e', he', hstate'⟩ e₀ he₀ -
      obtain rfl : e = e₀ := Option.some.inj (he.symm.trans he₀)
      refine ⟨e', he', .inr (.inl hstate'), ?_, fun hdestroyed => ?_⟩
      · rw [hstate']
        rcases hlive with h | h
        · rw [h]
          exact .begins
        · rw [h]
          exact .stays _
      · simp [hdestroyed] at hlive
    · by_cases hdestroyed : e.state = .destroyed
      · rw [After, onEnvironment_refused hact he hdestroyed]
        exact refl_of (Moved n) s
      · -- no other state is seen, so nothing is to be shown
        refine After.of_run (fun _ _ _ => ?_) fun _ _ _ => ?_
        all_goals
          intro e₀ he₀ hseen
          obtain rfl : e = e₀ := Option.some.inj (he.symm.trans he₀)
          exact absurd hseen (by simp_all [IsSeen])

variable [Host σ τ]

theorem keeps_moved_release : Keeps (Moved n) (release n : On σ τ (Fleet τ) Unit) := by
  intro s
  refine (after_release_number n s).mono ?_
  rintro r s' (⟨-, rfl, -⟩ | ⟨e, runs, e', he, hover, h⟩)
  · exact refl_of (Moved n) s'
  · intro e₀ he₀ hseen
    obtain rfl : e = e₀ := Option.some.inj (he.symm.trans he₀)
    have hlive : e.state = .ready ∨ e.state = .inUse := by
      rcases hseen with h | h | h
      · exact .inl h
      · exact .inr h
      · simp [isOver, h] at hover
    refine ⟨e', ?_, .inr (.inr h.state), h.state ▸ .ends hlive, fun hdestroyed => ?_⟩
    · rw [h.environments]
      exact getElem?_set_of_some he
    · simp [hdestroyed] at hlive

theorem keeps_moved_eventually (e : Environment τ) {action : On σ τ (Fleet τ) α}
    {accepts : α → On σ τ (Fleet τ) Bool} (haction : Keeps (Moved n) action)
    (haccepts : ∀ a, Keeps (Moved n) (accepts a)) (observe : α → Observation) (condition : String)
    (timeout : Option τ) : Keeps (Moved n) (e.eventually action accepts observe condition timeout) := by
  refine (keeps_moved_world _).bind fun policy => ?_
  refine (keeps_pollFor (fun seconds => keeps_moved_world _) policy _
    (Wait.keeps_actOnce haction haccepts observe)).bind fun r => ?_
  cases r with
  | ok result => exact .pure _
  | error last => exact .throw _

/-- By induction on how the act is put together: whatever comes of its parts, the environment moves only
forwards. -/
theorem Through.moved {act : On σ τ (Fleet τ) α} (h : Through n act) : Keeps (Moved n) act := by
  induction h with
  | beside h => exact h.mono fun _ _ h => h.moved
  | bind _ _ ih ihf => exact ih.bind ihf
  | attempt _ ih => exact ih.attempt
  | issueCertificate hostname options => exact keeps_moved_using (using_issueCertificate hostname options)
  | startBackend order => exact keeps_moved_using (using_startBackend order)
  | eventually e _ _ observe condition timeout ih ihf =>
    exact keeps_moved_eventually e ih ihf observe condition timeout
  | release => exact keeps_moved_release
  | closing _ ih => exact ih.always keeps_moved_release

/-! ## Operations -/

/-- Acts on the world with the environment that has a number, if there is one, and as it is now. -/
def withEnvironment (n : Nat) (act : Environment τ → On σ τ (Fleet τ) α) : On σ τ (Fleet τ) Unit := do
  match (← On.object).environments[n]? with
  | none => return ()
  | some e => let _ ← act e

/-- An operation on the environment with the number `n`. -/
inductive Operation (σ τ : Type) [Seconds τ] [Host σ τ] (n : Nat) : Type 1
  | issueCertificate (hostname : String) (options : Certificate.Options)
  | startBackend (order : BackendOrder τ)
  | probe (p : Probing τ)
  | dial (p : Probing τ)
  | awaitStatus (secure : Bool) (host path : String) (status : Int) (timeout : Option τ)
  | eventually {α : Type} (action : On σ τ (Fleet τ) α) (accepts : α → On σ τ (Fleet τ) Bool)
    (haction : Through n action) (haccepts : ∀ a, Through n (accepts a)) (observe : α → Observation)
    (condition : String) (timeout : Option τ)
  | release
  /-- The end of a block that uses the environment, normally or by a fault. -/
  | leave (ending : Except (Fault τ) Unit)

namespace Operation

def perform : Operation σ τ n → On σ τ (Fleet τ) Unit
  | issueCertificate hostname options => do
    let _ ← onEnvironment n (Environment.issueCertificate hostname options)
  | startBackend order => do let _ ← onEnvironment n (Environment.startBackend order)
  | probe p => withEnvironment n fun e => world (e.probe p)
  | dial p => withEnvironment n fun e => world (e.dial p)
  | awaitStatus secure host path status timeout =>
    withEnvironment n fun e => world (e.awaitStatus secure host path status timeout)
  | eventually action accepts _ _ observe condition timeout =>
    withEnvironment n fun e => e.eventually action accepts observe condition timeout
  | release => Fleet.release n
  | leave ending => closing n (conclude ending)

/-- The operation takes the environment into use. -/
def uses : Operation σ τ n → Bool
  | issueCertificate _ _ | startBackend _ => true
  | _ => false

/-- What comes of the operation if there is nothing to release any more, for those that release. -/
def idleEnding? : Operation σ τ n → Option (Except (Fault τ) Unit)
  | release => some (.ok ())
  | leave ending => some ending
  | _ => none

/-- The process after the operation, whether or not it ends in a fault. -/
def next (op : Operation σ τ n) (s : World σ τ × Fleet τ) : World σ τ × Fleet τ :=
  stateAfter op.perform s

/-- The process after operations, from first to last. -/
def after (ops : List (Operation σ τ n)) (s : World σ τ × Fleet τ) : World σ τ × Fleet τ :=
  ops.foldl (fun s op => op.next s) s

theorem through_withEnvironment {act : Environment τ → On σ τ (Fleet τ) α} (h : ∀ e, Through n (act e)) :
    Through n (withEnvironment n act) := by
  refine .bind (.beside fun s => rfl) fun f => ?_
  split
  · exact .beside fun s => rfl
  · exact .bind (h _) fun _ => .beside fun s => rfl

theorem through (op : Operation σ τ n) : Through n op.perform := by
  have hworld {α : Type} (act : Act σ τ α) : Through n (world act : On σ τ (Fleet τ) α) :=
    .beside (keeps_same_world act)
  cases op with
  | issueCertificate hostname options => exact .bind (.issueCertificate _ _) fun _ => .beside fun s => rfl
  | startBackend order => exact .bind (.startBackend _) fun _ => .beside fun s => rfl
  | probe p => exact through_withEnvironment fun e => hworld _
  | dial p => exact through_withEnvironment fun e => hworld _
  | awaitStatus secure host path status timeout => exact through_withEnvironment fun e => hworld _
  | eventually action accepts haction haccepts observe condition timeout =>
    exact through_withEnvironment fun e => .eventually e haction haccepts observe condition timeout
  | release => exact .release
  | leave ending => exact .closing (.beside fun s => after_conclude rfl)

theorem moved_next (op : Operation σ τ n) (s : World σ τ × Fleet τ) : Moved n s (op.next s) :=
  After.stateAfter (op.through.moved s)

/-- A whole sequence moves the environment only forwards, since each of its operations does. -/
theorem moved_after (ops : List (Operation σ τ n)) (s : World σ τ × Fleet τ) : Moved n s (after ops s) := by
  induction ops generalizing s with
  | nil => exact refl_of (Moved n) s
  | cons op ops ih => exact trans_of (Moved n) (moved_next op s) (ih (op.next s))

variable {op : Operation σ τ n} {s : World σ τ × Fleet τ} {e : Environment τ} (he : s.2.environments[n]? = some e)

include he

theorem state_of_uses (huses : op.uses = true) (hstate : e.state = .ready ∨ e.state = .inUse) :
    ∃ e', (op.next s).2.environments[n]? = some e' ∧ e'.state = .inUse := by
  have hafter {α : Type} {act : On σ τ (Environment τ) α} (hact : Using act) :
      After (do let _ ← onEnvironment n act) s fun _ s' =>
        ∃ e', s'.2.environments[n]? = some e' ∧ e'.state = .inUse :=
    after_bind (after_using hact he hstate) (fun _ _ h => after_pure h) fun _ _ h => h
  refine After.stateAfter (R := fun s' : World σ τ × Fleet τ =>
    ∃ e', s'.2.environments[n]? = some e' ∧ e'.state = .inUse) ?_
  cases op with
  | issueCertificate hostname options => exact hafter (using_issueCertificate hostname options)
  | startBackend order => exact hafter (using_startBackend order)
  | _ => cases huses

theorem perform_of_uses (huses : op.uses = true) (hstate : e.state = .destroyed) :
    op.perform s = .error (.unusable e.id .destroyed) s := by
  have hrefused {α : Type} {act : On σ τ (Environment τ) α} (hact : Using act) :
      (do let _ ← onEnvironment n act) s = .error (.unusable e.id .destroyed) s := by
    simp only [bind, EStateM.bind, onEnvironment_refused hact he hstate]
  cases op with
  | issueCertificate hostname options => exact hrefused (using_issueCertificate hostname options)
  | startBackend order => exact hrefused (using_startBackend order)
  | _ => cases huses

theorem release_idle (hstate : e.state = .destroyed) : Fleet.release n s = .ok () s := by
  have hover : e.isOver = true := by simp [isOver, hstate]
  simp only [Fleet.release, bind, EStateM.bind, On.object, he, hover, if_true]
  rfl

theorem attempt_of_idleEnding {ending : Except (Fault τ) Unit} (hending : op.idleEnding? = some ending)
    (hstate : e.state = .destroyed) : attempt op.perform s = .ok ending s := by
  have hrelease := release_idle he hstate
  cases op with
  | release =>
    cases hending
    simp only [perform, attempt, hrelease]
  | leave ending =>
    cases hending
    have hclosing : closing n (conclude ending) s = conclude ending s := by
      simp only [closing, always, bind, EStateM.bind, attempt_conclude, hrelease]
    calc attempt (closing n (conclude ending)) s = attempt (conclude ending) s := by simp only [attempt, hclosing]
      _ = .ok ending s := attempt_conclude ending s
  | _ => cases hending

end Operation

/-- What the operation does in a process in which the environment is `e`, and what it makes of it. -/
structure Obeys (op : Operation σ τ n) (s : World σ τ × Fleet τ) (e e' : Environment τ) : Prop where
  earlier : s.2.environments[n]? = some e
  later : (op.next s).2.environments[n]? = some e'
  seen : e.IsSeen
  moves : e.state.Moves e'.state
  settled : e.state = .destroyed → e' = e
  /-- Whether or not the use succeeds, the environment is in use. -/
  used : op.uses = true → e.state ≠ .destroyed → e'.state = .inUse
  /-- It is refused with a fault of the testbed, and nothing happens. -/
  refused : op.uses = true → e.state = .destroyed →
    ∃ fault, fault.isTestbed = true ∧ op.perform s = .error fault s
  /-- A release happens once. -/
  idle : ∀ ending, op.idleEnding? = some ending → e.state = .destroyed → attempt op.perform s = .ok ending s

theorem obeys_of_seen {s : World σ τ × Fleet τ} {e : Environment τ} (he : s.2.environments[n]? = some e)
    (hseen : e.IsSeen) (op : Operation σ τ n) : ∃ e', Obeys op s e e' := by
  obtain ⟨e', he', -, hmoves, hsettled⟩ := op.moved_next s e he hseen
  refine ⟨e', he, he', hseen, hmoves, hsettled, fun huses hstate => ?_, fun huses hstate => ?_, ?_⟩
  · have hlive : e.state = .ready ∨ e.state = .inUse := by
      rcases hseen with h | h | h
      · exact .inl h
      · exact .inr h
      · exact absurd h hstate
    obtain ⟨e₁, he₁, hused⟩ := Operation.state_of_uses he huses hlive
    obtain rfl : e' = e₁ := Option.some.inj (he'.symm.trans he₁)
    exact hused
  · exact ⟨_, rfl, Operation.perform_of_uses he huses hstate⟩
  · exact fun ending hending hstate => Operation.attempt_of_idleEnding he hending hstate

/-- **The states of a provisioned environment.** An environment is handed out ready. After any sequence of
operations on it, whatever the outside world answers, it is ready, in use or destroyed, and the next operation
moves it from ready to in use, from either of them to destroyed, or not at all. Issuing a certificate and
starting a backend leave it in use, whether or not they succeed; once it is destroyed they are refused with a
fault of the testbed, and nothing is asked of the outside world and nothing changes. Releasing it again, or
leaving a block that uses it, does nothing then. -/
theorem operations_obey (r : Request τ) (w : World σ τ) (f : Fleet τ) :
    After (provision r) (w, f) fun res s => match res with
      | .ok n => (∃ e, s.2.environments[n]? = some e ∧ e.state = .ready) ∧
          ∀ (ops : List (Operation σ τ n)) (op : Operation σ τ n),
            ∃ e e', Obeys op (Operation.after ops s) e e'
      | .error _ => True := by
  refine (provision_allOrNothing r w f).mono ?_
  rintro (fault | n) s hpost
  · trivial
  · obtain ⟨e, rfl, hf, -, -, hsetUp⟩ := hpost
    have he : s.2.environments[f.environments.length]? = some e := by
      rw [hf, environments_register]
      exact List.getElem?_concat_length
    obtain ⟨_, _, _, _, hready, -⟩ := hsetUp
    refine ⟨⟨e, he, hready⟩, fun ops op => ?_⟩
    obtain ⟨e₁, he₁, hseen₁, -, -⟩ := Operation.moved_after ops s e he (.inl hready)
    exact ⟨e₁, obeys_of_seen he₁ hseen₁ op⟩

end Fleet

end ProxyTestbed
