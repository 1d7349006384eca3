import ProxyTestbed.Calendar
import ProxyTestbed.Number.Read
import ProxyTestbed.Text.Utf8

/-!
# What is wrong with a YAML document

A document is malformed in one of five parts: its characters, its tokens, its grammar, its references
or its values. Apart from that, a scalar may have the tag of a kind of value whose texts it is not one
of: that is a `ScalarProblem`. And what is to be a document may be no text at all.
-/

namespace ProxyTestbed.Yaml

/-- The part of the rules that a malformed document breaks. -/
inductive Part
  /-- A character that no document has. -/
  | character
  /-- The characters do not make tokens. -/
  | token
  /-- The tokens do not make a document. -/
  | grammar
  /-- A name that nothing or two things have, or a second document. -/
  | reference
  /-- The nodes do not make values. -/
  | value
  deriving DecidableEq, Repr

/-- Why a scalar is no value of the kind its tag names. -/
inductive ScalarProblem
  | integer (problem : Number.IntegerProblem)
  | real (text : String)
  | truth (text : String)
  /-- A number without any character. -/
  | empty
  | moment
  | momentKind
  | calendar (problem : CalendarProblem)
  /-- A character beyond the last one; `huge` beyond a machine word. -/
  | character (huge : Bool)
  deriving DecidableEq, Repr

def ScalarProblem.message : ScalarProblem → String
  | .integer problem => problem.message
  | .real text => s!"could not convert string to float: {Text.quoted text}"
  | .truth text => Text.quoted text
  | .empty => "string index out of range"
  | .moment => "'NoneType' object has no attribute 'groupdict'"
  | .momentKind => "expected string or bytes-like object, got 'list'"
  | .calendar problem => problem.message
  | .character huge =>
    if huge then "signed integer is greater than maximum" else "chr() arg not in range(0x110000)"

/-- Why a document has no value. -/
inductive Failure
  | malformed (part : Part)
  | scalar (problem : ScalarProblem)
  | encoding (problem : Text.Utf8.Problem)
  deriving DecidableEq, Repr

end ProxyTestbed.Yaml
