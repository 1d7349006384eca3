import ProxyTestbed.Datum
import ProxyTestbed.Response
import ProxyTestbed.Text.Pieces

/-!
# Checks of responses

A check says whether a response is as expected, and puts what was expected beside what came when it is
not. A single check can be asserted; several can be gathered softly and reported together.
-/

namespace ProxyTestbed

/-- The outcome of a comparison, with a message for either case. -/
structure Check where
  passed : Bool
  message : String
  deriving DecidableEq, Repr

structure AssertionFailure where
  message : String
  expected : Datum
  actual : Datum

namespace Check

/-- How many characters of a body a message shows. -/
def shownChars : Nat := 500

/-- A text in quotes, cut off with a note of its length if it is long. -/
def excerpt (text : String) : String :=
  if text.length ≤ shownChars then Text.quoted text
  else
    let front := String.ofList (text.toList.take shownChars)
    s!"{Text.quoted front}... ({text.length} chars total)"

/-- The first text occurs in the second. -/
def within (part text : String) : Bool :=
  Text.occursIn part.toList text.toList

def contains (body expected : String) : Check :=
  if within expected body then ⟨true, s!"body contains {Text.quoted expected}"⟩
  else ⟨false, s!"expected body to contain {Text.quoted expected}\n  actual body: {excerpt body}"⟩

def notContains (body forbidden : String) : Check :=
  if within forbidden body then
    ⟨false, s!"expected body without {Text.quoted forbidden}\n  actual body: {excerpt body}"⟩
  else ⟨true, s!"body free of {Text.quoted forbidden}"⟩

def equals (body expected : String) : Check :=
  if body = expected then ⟨true, s!"body equals {Text.quoted expected}"⟩
  else ⟨false, s!"expected body {excerpt expected}\n  actual body: {excerpt body}"⟩

def statusIs (r : Response) (code : Int) : Check :=
  if r.status = code then ⟨true, s!"status {code}"⟩
  else
    ⟨false, s!"expected status {code}, got {r.status} for {r.url} (Host: {r.host})\n  actual body: {excerpt r.text}"⟩

/-- The response has a header field, and `expected` occurs in its value. -/
def headerContains (r : Response) (name expected : String) : Check :=
  let wanted := Text.quoted expected
  match r.headers.get? name with
  | none =>
    let present := ", ".intercalate (r.headers.names.mergeSort fun a b => !decide (b < a))
    ⟨false, s!"expected header {Text.quoted name} containing {wanted}, header missing (present: {present})"⟩
  | some value =>
    if within expected value then ⟨true, s!"header {name} contains {wanted}"⟩
    else
      ⟨false, s!"expected header {Text.quoted name} to contain {wanted}\n  actual value: {Text.quoted value}"⟩

end Check

/-- What is expected of a response or a body. -/
inductive Expectation
  | contains (body : Body) (expected : String)
  | notContains (body : Body) (forbidden : String)
  | equals (body : Body) (expected : String)
  | status (response : Response) (code : Int)
  | header (response : Response) (name expected : String)
  deriving DecidableEq, Repr

namespace Expectation

def check : Expectation → Check
  | contains body expected => Check.contains body.shown expected
  | notContains body forbidden => Check.notContains body.shown forbidden
  | equals body expected => Check.equals body.shown expected
  | status response code => Check.statusIs response code
  | header response name expected => Check.headerContains response name expected

def expected : Expectation → Datum
  | contains _ e | notContains _ e | equals _ e | header _ _ e => .text e
  | status _ code => .int code

def actual : Expectation → Datum
  | contains body _ | notContains body _ | equals body _ => .text body.shown
  | status response _ => .int response.status
  | header response name _ => ((response.headers.get? name).map Datum.text).getD .null

def demand (e : Expectation) : Except AssertionFailure Unit :=
  if e.check.passed then .ok () else .error ⟨e.check.message, e.expected, e.actual⟩

end Expectation

/-- Checks that are gathered and reported together. -/
structure SoftAssertions where
  /-- What the checks are about, for the report. -/
  context : Option String
  /-- The checks that did not pass, in order. -/
  failures : List Check
  deriving Repr

namespace SoftAssertions

def start (context : Option String) : SoftAssertions :=
  ⟨context, []⟩

def check (s : SoftAssertions) (c : Check) : SoftAssertions :=
  if c.passed then s else { s with failures := s.failures ++ [c] }

/-- The report of all failed checks, if there are any. -/
def verify (s : SoftAssertions) : Except AssertionFailure Unit :=
  if s.failures.isEmpty then .ok ()
  else
    let context := match s.context with
      | none => ""
      | some c => if c.isEmpty then "" else s!" ({c})"
    let header := s!"{s.failures.length} check(s) failed{context}"
    let lines := s.failures.zipIdx.map fun (f, i) => s!"{i + 1}. {f.message}"
    .error {
      message := "\n".intercalate (header :: lines)
      expected := .null
      actual := .list (s.failures.map fun f => .text f.message) }

/-- How a block of checks ends: with the fault that broke it off, or else with the report. -/
def leave {ε : Type} (s : SoftAssertions) (fault : Option ε) : Except (ε ⊕ AssertionFailure) Unit :=
  match fault with
  | some fault => .error (.inl fault)
  | none => s.verify.mapError .inr

end SoftAssertions

end ProxyTestbed
