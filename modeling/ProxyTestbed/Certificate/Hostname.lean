import ProxyTestbed.Text.Pieces

/-!
# Host names in certificates

A host name is labels of letters, digits and inner hyphens, at most 63 characters each, joined by
dots; the first label may be preceded by `*.`. A line feed at the very end is not looked at.
-/

namespace ProxyTestbed.Hostname

def isAlnum (c : Char) : Bool :=
  ('a' ≤ c && c ≤ 'z') || ('A' ≤ c && c ≤ 'Z') || ('0' ≤ c && c ≤ '9')

/-- The most characters of a label. -/
def maxLabel : Nat := 63

/-- The most characters of a host name that a certificate is issued for. -/
def maxLength : Nat := 253

/-- A label: letters, digits and hyphens, without a hyphen at either end. -/
def isLabel (s : List Char) : Bool :=
  s.length ≤ maxLabel && s.all (fun c => isAlnum c || c == '-') &&
    s.head?.any isAlnum && s.getLast?.any isAlnum

/-- Labels joined by dots. -/
def isLabels (s : List Char) : Bool :=
  (Text.splitOn '.' s).all isLabel

/-- Labels joined by dots, after a wildcard or not. -/
def isName (s : List Char) : Bool :=
  isLabels s || match s with
    | '*' :: '.' :: r => isLabels r
    | _ => false

/-- The text without one line feed at its end. -/
def withoutFinalNewline (s : List Char) : List Char :=
  if s.getLast? = some '\n' then s.dropLast else s

/-- The text has the form of a host name, up to one line feed at its end. -/
def matchesForm (name : String) : Bool :=
  isName name.toList || isName (withoutFinalNewline name.toList)

/-- A certificate can be issued for the name. -/
def isAccepted (name : String) : Bool :=
  !name.isEmpty && name.length ≤ maxLength && matchesForm name

end ProxyTestbed.Hostname
