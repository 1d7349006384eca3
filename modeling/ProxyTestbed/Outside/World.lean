import ProxyTestbed.File.Tree
import ProxyTestbed.Log.Level
import ProxyTestbed.Outside.Request

/-!
# Acting on the outside world

A `World` is an outside world that answers requests, the file tree, and everything that happened so far.
Operations of the testbed are acts on a world, or on a world and an object of the testbed, and may end in
a fault; what they did before a fault stays done.
-/

namespace ProxyTestbed

/-- A type of outside worlds: how they answer requests, and their clock, which nothing but a sleep and
the answer to a request moves. -/
class Host (σ : Type) (τ : outParam Type) where
  answer : (r : Request τ) → σ → Except (Fault τ) r.Answer × σ
  /-- The clock for deadlines. -/
  now : σ → τ
  sleep : τ → σ → σ
  /-- Why a sleep is refused, if it is. -/
  refusal : τ → σ → Option Foreign := fun _ _ => none
  /-- The time of day. -/
  wallClock : σ → Moment
  /-- Text that no other call answers. -/
  freshId : σ → String × σ
  /-- The environment variables of the process. -/
  env : σ → Variables
  /-- The directory for temporary files. -/
  temporaryDirectory : σ → Path
  /-- An ending that no other temporary name has. -/
  freshEnding : σ → String × σ

inductive Event (τ : Type)
  /-- A log record was written. -/
  | record (level : Log.Level) (source : Log.Source) (message : String)
  /-- The code of a scenario left a mark. -/
  | mark (label : String) (detail : Datum)
  | slept (seconds : τ)
  | asked (request : Request τ) (answer : Except (Fault τ) request.Answer)

/-- An outside world, the file tree, and what happened so far. -/
structure World (σ τ : Type) where
  host : σ
  files : FileTree
  /-- What happened, the latest first. -/
  past : List (Event τ)

/-- An act on the world and on an object. -/
abbrev On (σ τ ω α : Type) := EStateM (Fault τ) (World σ τ × ω) α

/-- An act on the world. -/
abbrev Act (σ τ α : Type) := EStateM (Fault τ) (World σ τ) α

variable {σ τ ω : Type}

/-- An act on the world alone, which leaves the object as it is. -/
def world {α : Type} (act : Act σ τ α) : On σ τ ω α := fun s =>
  match act s.1 with
  | .ok a w => .ok a (w, s.2)
  | .error e w => .error e (w, s.2)

namespace On

def object : On σ τ ω ω := fun s => .ok s.2 s

def change (f : ω → ω) : On σ τ ω Unit := fun s => .ok () (s.1, f s.2)

/-- Acts on a part of the object. -/
def part {π α : Type} (get : ω → π) (put : π → ω → ω) (act : On σ τ π α) : On σ τ ω α := fun s =>
  match act (s.1, get s.2) with
  | .ok a (w, p) => .ok a (w, put p s.2)
  | .error e (w, p) => .error e (w, put p s.2)

/-- Acts on the member with a number of a list in the object; answers nothing if there is none. -/
def member {π α : Type} (get : ω → List π) (put : List π → ω → ω) (n : Nat) (act : On σ τ π α) :
    On σ τ ω (Option α) := fun s =>
  match (get s.2)[n]? with
  | none => .ok none s
  | some p =>
    match act (s.1, p) with
    | .ok a (w, p) => .ok (some a) (w, put ((get s.2).set n p) s.2)
    | .error e (w, p) => .error e (w, put ((get s.2).set n p) s.2)

/-- Acts on a world and an object: what came of it, with the object afterwards. -/
def start {α : Type} (o : ω) (act : On σ τ ω α) : Act σ τ (Except (Fault τ) α × ω) := fun w =>
  match act (w, o) with
  | .ok a (w, o) => .ok (.ok a, o) w
  | .error e (w, o) => .ok (.error e, o) w

end On

/-- What comes of an act, a fault included. -/
def attempt {s α : Type} (act : EStateM (Fault τ) s α) : EStateM (Fault τ) s (Except (Fault τ) α) :=
  fun w =>
    match act w with
    | .ok a w => .ok (.ok a) w
    | .error e w => .ok (.error e) w

/-- Ends as an act did. -/
def conclude {s α : Type} : Except (Fault τ) α → EStateM (Fault τ) s α
  | .ok a => pure a
  | .error e => throw e

/-- An act of which some errors of the outside world are reported as another fault. -/
def reporting {s α : Type} (report : Foreign → Option (Fault τ)) (act : EStateM (Fault τ) s α) :
    EStateM (Fault τ) s α := do
  match ← attempt act with
  | .ok a => return a
  | .error (.foreign e) => throw ((report e).getD (.foreign e))
  | .error e => throw e

/-- An act, and another one after it however it ends; a fault of that one hides an earlier one. -/
def always {s α : Type} (act : EStateM (Fault τ) s α) (last : EStateM (Fault τ) s Unit) :
    EStateM (Fault τ) s α := do
  let outcome ← attempt act
  last
  conclude outcome

/-! ## What a world is asked -/

section

variable [Host σ τ]

def ask (r : Request τ) : Act σ τ r.Answer := fun w =>
  let (answer, host) := Host.answer r w.host
  let w := { w with host, past := .asked r answer :: w.past }
  match answer with
  | .ok a => .ok a w
  | .error e => .error e w

def docker (call : DockerCall) : Act σ τ call.Answer :=
  ask (.docker call)

def now : Act σ τ τ := fun w => .ok (Host.now w.host) w

/-- Sleeps. A sleep that is refused is a request that was asked in vain. -/
def sleep (seconds : τ) : Act σ τ Unit := fun w =>
  match Host.refusal seconds w.host with
  | none => .ok () { w with host := Host.sleep seconds w.host, past := .slept seconds :: w.past }
  | some e => .error (.foreign e) { w with past := .asked (.sleep seconds) (.error (.foreign e)) :: w.past }

def wallClock : Act σ τ Moment := fun w => .ok (Host.wallClock w.host) w

def freshId : Act σ τ String := fun w =>
  let (id, host) := Host.freshId w.host
  .ok id { w with host }

def temporaryDirectory : Act σ τ Path := fun w => .ok (Host.temporaryDirectory w.host) w

def freshEnding : Act σ τ String := fun w =>
  let (ending, host) := Host.freshEnding w.host
  .ok ending { w with host }

end

def record (level : Log.Level) (source : Log.Source) (message : String) : Act σ τ Unit := fun w =>
  .ok () { w with past := .record level source message :: w.past }

def mark (label : String) (detail : Datum) : Act σ τ Unit := fun w =>
  .ok () { w with past := .mark label detail :: w.past }

end ProxyTestbed
