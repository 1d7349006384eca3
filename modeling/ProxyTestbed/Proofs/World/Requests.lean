import ProxyTestbed.Backend.Basic
import ProxyTestbed.Proofs.World.Asks

/-!
# What operations ask for

Operations on files ask to make directories and to write, checks of a port ask about sockets, and a wait
asks for what its attempts ask for. The lemmas say so for any `P` that the requests of an operation satisfy
however they are answered.

* `after_poll`: the rule for the loop of a wait, with an invariant of its attempts.
* `keeps_pollFor`: a wait keeps what its attempts and its sleeps keep.
-/

namespace ProxyTestbed

variable {σ τ ω α β : Type}

/-- A request to make a directory or to write a file. -/
def Request.isMaking : Request τ → Bool
  | .file .makeDirectory _ | .file .write _ => true
  | _ => false

/-- A request about a socket. -/
def Request.isSocket : Request τ → Bool
  | .connect _ _ _ | .setTimeout _ _ | .receiveByte _ | .closeSocket _ => true
  | _ => false

section

variable {P : (r : Request τ) → Except (Fault τ) r.Answer → Prop}

/-! ## Files -/

namespace Files

theorem keeps_isThere (path : Path) : Keeps (Asks P) (isThere path : Act σ τ Bool) :=
  keeps_look_files _ _

theorem keeps_resolve (path : Path) : Keeps (Asks P) (resolve path : Act σ τ Path) :=
  keeps_look_files _ _

/-! What single requests and changes keep, operations that are made of them keep. -/

section

variable [Host σ τ] {R : World σ τ → World σ τ → Prop} [IsPreorder (World σ τ) R]

theorem keeps_makeDirectoryOr {path : Path} (hmake : Keeps R (makeDirectory path : Act σ τ Unit))
    (existing : Bool) : Keeps R (makeDirectoryOr existing path : Act σ τ Unit) := by
  refine hmake.attempt.bind fun r => ?_
  cases r with
  | ok a => exact .pure ()
  | error e =>
    have hlook : Keeps R (isDirectory path : Act σ τ Bool) := fun w => refl_of R w
    exact hlook.bind fun _ => .ite (.pure ()) (.throw e)

/-- Only directories at the first names of the path are made. -/
theorem keeps_makeDirectoriesFrom (depth : Nat) (existing : Bool) {path : Path}
    (hmake : ∀ names, names <+: path.names →
      Keeps R (makeDirectory { path with names := names } : Act σ τ Unit)) :
    Keeps R (makeDirectoriesFrom depth existing path : Act σ τ Unit) := by
  induction depth generalizing existing path with
  | zero => exact keeps_makeDirectoryOr (hmake _ List.prefix_rfl) existing
  | succ depth ih =>
    unfold makeDirectoriesFrom
    have hwhole : Keeps R (makeDirectoryOr existing path : Act σ τ Unit) :=
      keeps_makeDirectoryOr (hmake _ List.prefix_rfl) existing
    refine hwhole.attempt.bind fun r => ?_
    cases r with
    | ok a => exact .pure ()
    | error e =>
      have habove (names : List String) (h : names <+: path.parent.names) :
          Keeps R (makeDirectory { path with names := names } : Act σ τ Unit) :=
        hmake names (h.trans (List.dropLast_prefix _))
      exact .ite ((ih true habove).bind fun _ => hwhole) (.throw e)

theorem keeps_makeDirectories_of {path : Path}
    (hmake : ∀ names, names <+: path.names →
      Keeps R (makeDirectory { path with names := names } : Act σ τ Unit)) (existing : Bool) :
    Keeps R (makeDirectories existing path : Act σ τ Unit) :=
  keeps_makeDirectoriesFrom _ _ hmake

theorem keeps_discard {path : Path} (hask : Keeps R (ask (.file .delete path) : Act σ τ Unit))
    (hchange : Keeps R (change (Text.quoted path.toString) fun t => t.delete path : Act σ τ Unit)) :
    Keeps R (discard path : Act σ τ Unit) := by
  refine Keeps.bind (hask.bind fun _ => hchange).attempt fun r => ?_
  cases r with
  | ok a => exact .pure ()
  | error e => exact .ite (.pure ()) (.throw e)

end

section

variable [Host σ τ] (hP : ∀ r : Request τ, r.isMaking = true → ∀ a, P r a)

include hP

theorem keeps_makeDirectoryCalled (text : String) (path : Path) :
    Keeps (Asks P) (makeDirectoryCalled text path : Act σ τ Unit) :=
  (keeps_ask (hP _ rfl)).bind fun _ => keeps_change_files _ _

theorem keeps_write (path : Path) (content : Bytes) :
    Keeps (Asks P) (write path content : Act σ τ Unit) :=
  (keeps_ask (hP _ rfl)).bind fun _ => keeps_change_files _ _

theorem keeps_makeDirectories (existing : Bool) (path : Path) :
    Keeps (Asks P) (makeDirectories existing path : Act σ τ Unit) :=
  keeps_makeDirectories_of (fun _ _ => keeps_makeDirectoryCalled hP _ _) existing

end

end Files

/-! ## Sockets -/

namespace Socket

variable [Host σ τ] {R : World σ τ → World σ τ → Prop} [IsPreorder (World σ τ) R]
  (hask : ∀ r : Request τ, r.isSocket = true → Keeps R (ask r : Act σ τ r.Answer))

include hask

theorem keeps_checkWith (host : String) (port : Int) (timeout : τ) {use : Nat → Act σ τ Bool}
    (huse : ∀ socket, Keeps R (use socket)) : Keeps R (checkWith host port timeout use) := by
  unfold checkWith
  have hwhole : Keeps R (do
      let socket ← ask (.connect host port timeout)
      always (use socket) (ask (.closeSocket socket))) :=
    (hask _ rfl).bind fun socket => (huse socket).always (hask _ rfl)
  refine hwhole.attempt.bind fun r => ?_
  cases r with
  | ok answer => exact .pure answer
  | error e => exact .ite (.pure false) (.throw e)

theorem keeps_accepts (host : String) (port : Int) (timeout : τ) :
    Keeps R (accepts host port timeout : Act σ τ Bool) :=
  keeps_checkWith hask host port timeout fun _ => .pure true

theorem keeps_isListening [Seconds τ] (host : String) (port : Int) (timeout : τ) :
    Keeps R (isListening host port timeout : Act σ τ Bool) := by
  refine keeps_checkWith hask host port timeout fun socket => ?_
  refine (hask _ rfl).bind fun _ => (hask (.receiveByte socket) rfl).attempt.bind fun r => ?_
  cases r with
  | ok bytes => exact .pure _
  | error e => exact .ite (.pure true) (.throw e)

end Socket

end

/-! ## Waits -/

section

variable [Seconds τ] [Host σ τ]

/-- The rule for an attempt after which the loop of a wait sleeps. -/
theorem after_poll_again {policy : RetryPolicy τ} {deadline : Deadline τ} {try_ : Nat → On σ τ ω (Except β α)}
    {fuel number : Nat} {interval : τ} {seen : β} {s s₁ : World σ τ × ω} {P : Except (Fault τ) Unit → World σ τ × ω → Prop}
    {Q : Except (Fault τ) (Except β α) → World σ τ × ω → Prop} (hrun : try_ number s = .ok (.error seen) s₁)
    (hearly : deadline.isOver (Host.now s₁.1.host) = false)
    (hsleep : After (world (sleep (Seconds.least interval (deadline.remaining (Host.now s₁.1.host))))) s₁ P)
    (hrest : ∀ s₂, P (.ok ()) s₂ → After (poll policy deadline try_ fuel (number + 1) (policy.after interval)) s₂ Q)
    (hrefused : ∀ e s₂, P (.error e) s₂ → Q (.error e) s₂) :
    After (poll policy deadline try_ (fuel + 1) number interval) s Q := by
  rw [After, poll_again hrun hearly]
  exact after_bind hsleep (fun _ s₂ => hrest s₂) hrefused

/-- The rule for the loop of a wait: `I` holds before every attempt, and `Q` of what an attempt decides, of
its fault, of what the last one saw, of a sleep that is refused, and of a loop that goes on for too long. -/
theorem after_poll {policy : RetryPolicy τ} {deadline : Deadline τ}
    {try_ : Nat → On σ τ ω (Except β α)} {I : World σ τ × ω → Prop}
    {Q : Except (Fault τ) (Except β α) → World σ τ × ω → Prop}
    (htry : ∀ number s, I s → After (try_ number) s fun r s' =>
      Q r s' ∧ ∀ seen, r = .ok (.error seen) → I s')
    (hsleep : ∀ seconds s, I s → After (world (sleep seconds)) s fun r s' =>
      (r = .ok () → I s') ∧ ∀ e, r = .error e → Q (.error e) s')
    (hstalled : ∀ s, I s → Q (.error .stalled) s) (fuel number : Nat) (interval : τ)
    {s : World σ τ × ω} (hs : I s) : After (poll policy deadline try_ fuel number interval) s Q := by
  induction fuel generalizing number interval s with
  | zero => exact after_throw (hstalled s hs)
  | succ fuel ih =>
    cases h : try_ number s with
    | error e s' =>
      rw [After, poll_fault h]
      exact ((htry number s hs).error h).1
    | ok r s' =>
      obtain ⟨hQ, hI⟩ := (htry number s hs).ok h
      cases r with
      | ok a =>
        rw [After, poll_decided h]
        exact hQ
      | error seen =>
        cases hover : deadline.isOver (Host.now s'.1.host) with
        | true =>
          rw [After, poll_over h hover]
          exact hQ
        | false =>
          exact after_poll_again h hover (hsleep _ s' (hI seen rfl))
            (fun s₂ hs₂ => ih (number + 1) (policy.after interval) (hs₂.1 rfl)) fun e s₂ hs₂ => hs₂.2 e rfl

/-- The rule for a wait that begins now. -/
theorem after_pollFor {policy : RetryPolicy τ} {timeout : τ}
    {try_ : Deadline τ → Nat → On σ τ ω (Except β α)} {I : World σ τ × ω → Prop}
    {Q : Except (Fault τ) (Except β α) → World σ τ × ω → Prop}
    (htry : ∀ deadline number s, I s → After (try_ deadline number) s fun r s' =>
      Q r s' ∧ ∀ seen, r = .ok (.error seen) → I s')
    (hsleep : ∀ seconds s, I s → After (world (sleep seconds)) s fun r s' =>
      (r = .ok () → I s') ∧ ∀ e, r = .error e → Q (.error e) s')
    (hstalled : ∀ s, I s → Q (.error .stalled) s) {s : World σ τ × ω} (hs : I s) :
    After (pollFor policy timeout try_) s Q :=
  after_poll (htry _) hsleep hstalled _ _ _ hs

omit [Seconds τ] [Host σ τ] in
theorem after_inspected_bind {S : Type} {found : Except InspectionProblem α}
    {f : α → EStateM (Fault τ) S β} {s : S} {Q : Except (Fault τ) β → S → Prop}
    (hok : ∀ a, found = .ok a → After (f a) s Q)
    (herror : ∀ p, found = .error p → Q (.error (.inspection p)) s) :
    After (Backend.inspected found >>= f) s Q := by
  cases found with
  | ok a => exact hok a rfl
  | error p => exact herror p rfl

omit [Host σ τ] in
theorem keeps_policyOr {R : World σ τ → World σ τ → Prop} [IsPreorder (World σ τ) R]
    (p : Except PolicyProblem (RetryPolicy τ)) : Keeps R (Wait.policyOr p : Act σ τ (RetryPolicy τ)) := by
  cases p with
  | ok p => exact .pure p
  | error problem => exact .throw _

theorem keeps_pollFor {R : World σ τ × ω → World σ τ × ω → Prop} [IsPreorder (World σ τ × ω) R]
    (hsleep : ∀ seconds : τ, Keeps R (world (sleep seconds) : On σ τ ω Unit))
    (policy : RetryPolicy τ) (timeout : τ) {try_ : Deadline τ → Nat → On σ τ ω (Except β α)}
    (htry : ∀ deadline number, Keeps R (try_ deadline number)) :
    Keeps R (pollFor policy timeout try_) := by
  intro s
  refine after_pollFor (I := R s) (fun deadline number s₁ h₁ => ?_) (fun seconds s₁ h₁ => ?_)
    (fun _ h => h) (refl_of R s)
  · refine (htry deadline number s₁).mono fun r s₂ h₂ => ?_
    have h := trans_of R h₁ h₂
    exact ⟨h, fun _ _ => h⟩
  · refine (hsleep seconds s₁).mono fun _ s₂ h₂ => ?_
    have h := trans_of R h₁ h₂
    exact ⟨fun _ => h, fun _ _ => h⟩

end

end ProxyTestbed
