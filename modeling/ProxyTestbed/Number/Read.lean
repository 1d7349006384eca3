import ProxyTestbed.Number.Binary
import ProxyTestbed.Text.Blank
import ProxyTestbed.Text.Digit
import ProxyTestbed.Text.Quoted

/-!
# Reading numbers

Integers and reals are read from text with decimal digits of any script, single underscores between
digits, a sign, and blanks around them. A decimal integer has at most `maxDigits` digits, and one of
more digits is not written either. Integers are also read to the bases 2, 8 and 16, with or without the
mark of the base.
-/

namespace ProxyTestbed.Number

/-- Why a text is no integer, or an integer has no text. -/
inductive IntegerProblem
  /-- It does not have the form of an integer to the base; `shown` is the text in quotes. -/
  | malformed (base : Nat) (shown : String)
  /-- It has more digits than are read. -/
  | tooLong (digits : Nat)
  /-- It has more digits than are written. -/
  | tooLarge
  deriving DecidableEq, Repr

/-- The most decimal digits of an integer that is read or written. -/
def maxDigits : Nat := 4300

/-- How much of a text in quotes a report shows. -/
def maxShown : Nat := 200

/-- The report of a problem; a long text is cut off. -/
def IntegerProblem.message : IntegerProblem → String
  | .malformed base shown =>
    let front := String.ofList (shown.toList.take maxShown)
    s!"invalid literal for int() with base {base}: {front}"
  | .tooLong digits =>
    s!"Exceeds the limit ({maxDigits} digits) for integer string conversion: value has {digits} digits; use sys.set_int_max_str_digits() to increase the limit"
  | .tooLarge =>
    s!"Exceeds the limit ({maxDigits} digits) for integer string conversion; use sys.set_int_max_str_digits() to increase the limit"

/-- Blanks that may stand around a number: of the ASCII characters, only those that print as space. -/
def isOuterBlank (c : Char) : Bool :=
  Text.isBlank c && !(28 ≤ c.toNat && c.toNat ≤ 31)

/-- The text without the blanks around a number. -/
def stripOuter (s : List Char) : List Char :=
  ((s.dropWhile isOuterBlank).reverse.dropWhile isOuterBlank).reverse

/-- A sign, if there is one: the text is negative, and the rest. -/
def takeSign : List Char → Bool × List Char
  | '+' :: r => (false, r)
  | '-' :: r => (true, r)
  | r => (false, r)

/-- The value of a digit to a base: above nine, of a letter in either case. -/
def digitTo? (base : Nat) (c : Char) : Option Nat :=
  let value := (Text.digitValue? c).or <|
    if 'a' ≤ c && c ≤ 'z' then some (c.toNat - 87)
    else if 'A' ≤ c && c ≤ 'Z' then some (c.toNat - 55)
    else none
  value.filter (· < base)

/-- Digits with single underscores between them from the front of a text: their values, and the rest.
`none` for an underscore that does not stand between two digits. -/
def takeDigits? (base : Nat) : List Char → Option (List Nat × List Char)
  | [] => some ([], [])
  | c :: '_' :: r =>
    match digitTo? base c with
    | none => if c = '_' then none else some ([], c :: '_' :: r)
    | some d =>
      if ((r.head?).bind (digitTo? base)).isSome then
        (takeDigits? base r).map fun (ds, rest) => (d :: ds, rest)
      else none
  | c :: r =>
    match digitTo? base c with
    | none => if c = '_' then none else some ([], c :: r)
    | some d => (takeDigits? base r).map fun (ds, rest) => (d :: ds, rest)

def ofDigits (base : Nat) (ds : List Nat) : Nat :=
  ds.foldl (fun n d => base * n + d) 0

/-- The letter in the mark of a base that has one. -/
def baseLetter? (base : Nat) : Option Char :=
  if base = 2 then some 'b' else if base = 8 then some 'o' else if base = 16 then some 'x' else none

/-- The digits without the mark of the base, which an underscore may follow. -/
def dropMark (base : Nat) : List Char → List Char
  | '0' :: c :: r =>
    if baseLetter? base = some c.toLower then
      match r with
      | '_' :: r => r
      | r => r
    else '0' :: c :: r
  | s => s

/-- The integer that a text stands for to a base. -/
def readIntegerTo (base : Nat) (text : String) : Except IntegerProblem Int :=
  let (negative, body) := takeSign (stripOuter text.toList)
  match takeDigits? base (dropMark base body) with
  | none => .error (.malformed base (Text.quoted text))
  | some (ds, rest) =>
    if base = 10 && maxDigits < ds.length then .error (.tooLong ds.length)
    else if ds.isEmpty || !rest.isEmpty then .error (.malformed base (Text.quoted text))
    else .ok (if negative then -(ofDigits base ds : Int) else ofDigits base ds)

def readInteger (text : String) : Except IntegerProblem Int :=
  readIntegerTo 10 text

def writeInteger (n : Int) : Except IntegerProblem String :=
  if maxDigits < (Nat.toDigits 10 n.natAbs).length then .error .tooLarge else .ok (toString n)

/-- The decimal integer that bytes stand for; none of them may be beyond ASCII. -/
def readIntegerBytes (bytes : Bytes) : Except IntegerProblem Int :=
  let problem : IntegerProblem := .malformed 10 (Text.quotedBytes (bytes.take maxShown))
  match Text.ofAscii? bytes with
  | none => .error problem
  | some text =>
    match readInteger text with
    | .error (.malformed _ _) => .error problem
    | read => read

/-- The double nearest to `digits * 10 ^ exponent`, where `digits` has `count` digits. Exponents far
outside the range of doubles are not computed with. -/
def ofDecimal (negative : Bool) (digits count : Nat) (exponent : Int) : Float :=
  let size := exponent + count
  if digits = 0 || size < -400 then nearest negative 0 1
  else if 400 < size then nearest negative (twoTo 1100) 1
  else nearest negative (digits * tenTo exponent.toNat) (tenTo (-exponent).toNat)

/-- The exponent at the end of a real: `e`, a sign, digits. -/
private def readExponent? : List Char → Option Int
  | [] => some 0
  | e :: r =>
    if e = 'e' || e = 'E' then
      let (negative, body) := takeSign r
      match takeDigits? 10 body with
      | some (ds, []) =>
        if ds.isEmpty then none
        else some (if negative then -(ofDigits 10 ds : Int) else ofDigits 10 ds)
      | _ => none
    else none

/-- A real without its sign. -/
private def readUnsigned? (negative : Bool) (body : List Char) : Option Float :=
  match takeDigits? 10 body with
  | none => none
  | some (whole, rest) =>
    let build (fraction : List Nat) (rest : List Char) : Option Float :=
      let ds := whole ++ fraction
      if ds.isEmpty then none
      else (readExponent? rest).map fun e =>
        ofDecimal negative (ofDigits 10 ds) ds.length (e - fraction.length)
    match rest with
    | '.' :: r =>
      match takeDigits? 10 r with
      | none => none
      | some (fraction, rest) => build fraction rest
    | rest => build [] rest

/-- The real that a text stands for; infinities and the undefined value have names, in any case. -/
def readReal? (text : String) : Option Float :=
  let (negative, body) := takeSign (stripOuter text.toList)
  let word := String.ofList (body.map Char.toLower)
  if word = "inf" || word = "infinity" then some (Float.ofBits (if negative then 0xFFF0000000000000 else 0x7FF0000000000000))
  else if word = "nan" then some (Float.ofBits (if negative then 0xFFF8000000000000 else 0x7FF8000000000000))
  else readUnsigned? negative body

end ProxyTestbed.Number
