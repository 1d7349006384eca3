import ProxyTestbed.Text.Pieces

/-!
# Tags of YAML nodes

A node has a tag that names the kind of its value. A plain scalar without a tag gets one by its form:
it is a truth value, a number, a date or moment, nothing, or else a text.
-/

namespace ProxyTestbed.Yaml

/-- The beginning of the tags of the language. -/
def tagRoot : String := "tag:yaml.org,2002:"

/-- The kinds of values that tags of the language name. -/
inductive Kind
  | null | bool | int | float | binary | timestamp | omap | pairs | set | str | seq | map
  /-- The sign that merges mappings. -/
  | merge
  /-- The sign for the main value of a mapping. -/
  | value
  /-- The signs of the language itself. -/
  | language
  deriving DecidableEq, Repr

def Kind.name : Kind → String
  | null => "null"
  | bool => "bool"
  | int => "int"
  | float => "float"
  | binary => "binary"
  | timestamp => "timestamp"
  | omap => "omap"
  | pairs => "pairs"
  | set => "set"
  | str => "str"
  | seq => "seq"
  | map => "map"
  | merge => "merge"
  | value => "value"
  | language => "yaml"

def Kind.all : List Kind :=
  [.null, .bool, .int, .float, .binary, .timestamp, .omap, .pairs, .set, .str, .seq, .map, .merge,
    .value, .language]

/-- A tag: one of the language, or another. -/
inductive Tag
  | known (kind : Kind)
  | other (name : String)
  deriving DecidableEq, Repr

/-- The tag with a full name. -/
def Tag.ofName (name : String) : Tag :=
  match Kind.all.find? fun k => tagRoot ++ k.name == name with
  | some k => .known k
  | none => .other name

/-! ## Forms of plain scalars -/

def isDigit (c : Char) : Bool :=
  '0' ≤ c && c ≤ '9'

/-- A decimal digit or an underscore. -/
def isDigitOrGap (c : Char) : Bool :=
  isDigit c || c = '_'

/-- The text without a sign at its front. -/
def dropSign : List Char → List Char
  | '+' :: r => r
  | '-' :: r => r
  | r => r

/-- A truth value: one of six words, in lower case, upper case or with a capital letter. -/
def isBoolForm (s : List Char) : Bool :=
  ["yes", "Yes", "YES", "no", "No", "NO", "true", "True", "TRUE", "false", "False", "FALSE",
    "on", "On", "ON", "off", "Off", "OFF"].contains (String.ofList s)

/-- Nothing. -/
def isNullForm (s : List Char) : Bool :=
  ["", "~", "null", "Null", "NULL"].contains (String.ofList s)

/-- A digit, then digits and underscores. -/
def isDigitsForm : List Char → Bool
  | [] => false
  | c :: r => isDigit c && r.all isDigitOrGap

/-- A number below sixty, of one or two digits. -/
def isSixtieth : List Char → Bool
  | [d] => isDigit d
  | [t, d] => '0' ≤ t && t ≤ '5' && isDigit d
  | _ => false

/-- Numbers to the base 60 between colons, at least two, of which the first may be greater. -/
def isSexagesimal (s : List Char) : Bool :=
  match Text.splitOn ':' s with
  | first :: second :: others => isDigitsForm first && (second :: others).all isSixtieth
  | _ => false

/-- An integer: binary, octal, decimal, hexadecimal or to the base 60. -/
def isIntForm (s : List Char) : Bool :=
  match dropSign s with
  | '0' :: 'b' :: r => !r.isEmpty && r.all fun c => c = '0' || c = '1' || c = '_'
  | '0' :: 'x' :: r =>
    !r.isEmpty && r.all fun c =>
      isDigitOrGap c || ('a' ≤ c && c ≤ 'f') || ('A' ≤ c && c ≤ 'F')
  | '0' :: r => r.all fun c => ('0' ≤ c && c ≤ '7') || c = '_'
  | r => isDigitsForm r || isSexagesimal r

/-- The end of a real after its digits: nothing, or an exponent with a sign. -/
def isExponentForm : List Char → Bool
  | [] => true
  | e :: sign :: r => (e = 'e' || e = 'E') && (sign = '-' || sign = '+') && !r.isEmpty && r.all isDigit
  | _ => false

/-- Digits and underscores, then perhaps an exponent. -/
def isFractionForm (s : List Char) : Bool :=
  isExponentForm (s.dropWhile isDigitOrGap)

/-- A real with a point in it, infinite, or not a number. -/
def isFloatForm (s : List Char) : Bool :=
  let named := match dropSign s with
    | '.' :: r => ["inf", "Inf", "INF"].contains (String.ofList r)
    | _ => false
  let bare := match s with
    | '.' :: r =>
      ["nan", "NaN", "NAN"].contains (String.ofList r) || (r.head?.any isDigit && isFractionForm r)
    | _ => false
  let full := match Text.cutAt '.' (dropSign s) with
    | (whole, some r) =>
      (isDigitsForm whole && isFractionForm r) || (isSexagesimal whole && r.all isDigitOrGap)
    | (_, none) => false
  named || bare || full

/-- The numbers of a date and a time of day as they are written. -/
structure Stamp where
  year : List Char
  month : List Char
  day : List Char
  /-- Hour, minute, second and the digits of the fraction. -/
  time : Option (List Char × List Char × List Char × List Char)
  /-- Sign, hours and minutes of the distance from universal time; `Z` is the empty one. -/
  zone : Option (Option (Bool × List Char × List Char))
  deriving Repr

/-- Between `least` and `most` digits from the front of a text. -/
def takeDigits (least most : Nat) (s : List Char) : Option (List Char × List Char) :=
  let digits := (s.take most).takeWhile isDigit
  if digits.length < least then none else some (digits, s.drop digits.length)

/-- The text after a character that must be there. -/
def after? (c : Char) : List Char → Option (List Char)
  | [] => none
  | d :: r => if d = c then some r else none

def isGap (c : Char) : Bool :=
  c = ' ' || c = '\t'

/-- The distance from universal time at the end of a moment. -/
def readZone (s : List Char) : Option (Option (Option (Bool × List Char × List Char))) :=
  match s.dropWhile isGap with
  | [] => if s.isEmpty then some none else none
  | ['Z'] => some (some none)
  | sign :: r => do
    if sign != '+' && sign != '-' then none
    let (hours, r) ← takeDigits 1 2 r
    match r with
    | [] => return some (some (sign == '-', hours, []))
    | _ =>
      let (minutes, r) ← takeDigits 2 2 (← after? ':' r)
      if r.isEmpty then return some (some (sign == '-', hours, minutes)) else none

/-- The numbers of a date, or of a moment. -/
def readStamp (s : List Char) : Option Stamp := do
  let (year, r) ← takeDigits 4 4 s
  let (month, r) ← takeDigits 1 2 (← after? '-' r)
  let (day, r) ← takeDigits 1 2 (← after? '-' r)
  match r with
  | [] => return ⟨year, month, day, none, none⟩
  | c :: r' =>
    let r ← if c = 'T' || c = 't' then some r' else if isGap c then some (r.dropWhile isGap) else none
    let (hour, r) ← takeDigits 1 2 r
    let (minute, r) ← takeDigits 2 2 (← after? ':' r)
    let (second, r) ← takeDigits 2 2 (← after? ':' r)
    let (fraction, r) := match r with
      | '.' :: r => (r.takeWhile isDigit, r.dropWhile isDigit)
      | r => ([], r)
    let zone ← readZone r
    return ⟨year, month, day, some (hour, minute, second, fraction), zone⟩

/-- A date with two digits for month and day, or a moment. -/
def isTimestampForm (s : List Char) : Bool :=
  (readStamp s).any fun stamp =>
    stamp.time.isSome || (stamp.month.length = 2 && stamp.day.length = 2)

/-- The kind of a plain scalar, by its form. -/
def kindOfForm (s : List Char) : Kind :=
  if isBoolForm s then .bool
  else if isFloatForm s then .float
  else if isIntForm s then .int
  else if s = ['<', '<'] then .merge
  else if isNullForm s then .null
  else if isTimestampForm s then .timestamp
  else if s = ['='] then .value
  else if s = ['!'] || s = ['&'] || s = ['*'] then .language
  else .str

/-- The kind of an untagged scalar; one line feed at the end of a form does not count. -/
def kindOfText (s : List Char) : Kind :=
  match kindOfForm s with
  | .str => if 1 < s.length && s.getLast? = some '\n' then kindOfForm s.dropLast else .str
  | k => k

end ProxyTestbed.Yaml
