import ProxyTestbed.Dictionary
import ProxyTestbed.Text.Quoted

/-!
# Responses of the proxy

The header fields of a response keep their order and repetitions. A field is looked up without regard
to case, and the values of a repeated one are joined.
-/

namespace ProxyTestbed

/-- A text with its ASCII letters in lower case. -/
def Text.lowered (s : String) : String :=
  String.ofList (s.toList.map Char.toLower)

/-- A body as it is handed over: text, or bytes that are read as text. -/
inductive Body
  | text (s : String)
  | bytes (b : Bytes)
  deriving DecidableEq, Repr

namespace Body

def shown : Body → String
  | text s => s
  | bytes b => Text.ofBytes b

def toBytes : Body → Bytes
  | text s => Text.utf8 s
  | bytes b => b

end Body

/-- Header fields in the order of the response. -/
abbrev Headers := List (String × String)

namespace Headers

/-- The names of the fields in lower case, each once, in order. -/
def names (h : Headers) : List String :=
  (h.map fun f => Text.lowered f.1).eraseDups

/-- The value of a field: of a repeated one, all values joined by commas. -/
def get? (h : Headers) (name : String) : Option String :=
  match (h.filter fun f => Text.lowered f.1 == Text.lowered name).map (·.2) with
  | [] => none
  | values => some (", ".intercalate values)

end Headers

/-- What came back from a request, and what was asked for. -/
structure Response where
  status : Int
  headers : Headers
  body : Bytes
  url : String
  host : String
  deriving DecidableEq, Repr

namespace Response

def text (r : Response) : String :=
  Text.ofBytes r.body

/-- The value of a header field, or a default for a missing one. -/
def header (r : Response) (name : String) (default : String) : String :=
  (r.headers.get? name).getD default

/-- How much of a body a message shows. -/
def shownBytes : Nat := 80

def quoted (r : Response) : String :=
  s!"ProbeResult(status={r.status}, host={Text.quoted r.host}, url={Text.quoted r.url}, body={Text.quotedBytes (r.body.take shownBytes)})"

end Response

end ProxyTestbed
