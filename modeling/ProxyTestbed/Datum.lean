import ProxyTestbed.Calendar
import ProxyTestbed.Number.Read
import ProxyTestbed.Seconds

/-!
# Data of no fixed shape

Settings files, container attributes and the results that a scenario watches hold data whose shape is
only known when they are read. A `Datum` is such data: scalars, sequences, and mappings in order of
insertion with keys of any kind.

* `Datum.quoted` is the text of a datum inside a message, `Datum.shown` its plain text, which leaves
  a text as it is.
* `Datum.agrees` compares by value: the numbers of all kinds with each other, mappings without regard
  to order.
-/

namespace ProxyTestbed

/-- A sequence or mapping that stands inside itself, by a number. -/
structure Part where
  number : Nat
  isMapping : Bool
  deriving DecidableEq, Repr

/-- Data of no fixed shape. -/
inductive Datum
  | null
  | bool (b : Bool)
  | int (i : Int)
  | real (x : Float)
  | text (s : String)
  | bytes (b : Bytes)
  | list (xs : List Datum)
  /-- A sequence of a fixed length. -/
  | tuple (xs : List Datum)
  | set (xs : List Datum)
  | map (entries : List (Datum × Datum))
  | date (d : Date)
  | moment (m : Moment)
  /-- A sequence or mapping inside itself, of which the text is only a mark. -/
  | again (part : Part)

namespace Datum

/-- The name of the kind of a datum. -/
def kind : Datum → String
  | null => "NoneType"
  | bool _ => "bool"
  | int _ => "int"
  | real _ => "float"
  | text _ => "str"
  | bytes _ => "bytes"
  | list _ => "list"
  | tuple _ => "tuple"
  | set _ => "set"
  | map _ => "dict"
  | date _ => "date"
  | moment _ => "datetime"
  | again part => if part.isMapping then "dict" else "list"

/-- The name of the kind with the family it belongs to. -/
def fullKind : Datum → String
  | date _ => "datetime.date"
  | moment _ => "datetime.datetime"
  | d => d.kind

def boolWord (b : Bool) : String :=
  if b then "True" else "False"

/-- The call that would make a date. -/
def dateCall (d : Date) : String :=
  s!"datetime.date({d.year}, {d.month}, {d.day})"

/-- The call that would make a moment; seconds and their fraction only if they are not zero. -/
def momentCall (m : Moment) : String :=
  let micro := if m.microsecond = 0 then "" else s!", {m.microsecond}"
  let second := if m.second = 0 && m.microsecond = 0 then "" else s!", {m.second}{micro}"
  let zone := match m.offset with
    | none => ""
    | some 0 => ", tzinfo=datetime.timezone.utc"
    | some o =>
      let days := Int.fdiv o 1440
      let seconds := Int.fmod o 1440 * 60
      let span :=
        if days = 0 then s!"seconds={seconds}"
        else if seconds = 0 then s!"days={days}"
        else s!"days={days}, seconds={seconds}"
      s!", tzinfo=datetime.timezone(datetime.timedelta({span}))"
  s!"datetime.datetime({m.date.year}, {m.date.month}, {m.date.day}, {m.hour}, {m.minute}{second}{zone})"

mutual

/-- The text of a datum inside a message: texts in quotes, sequences and mappings in brackets. -/
def quoted : Datum → String
  | null => "None"
  | bool b => boolWord b
  | int i => toString i
  | real x => Number.written x
  | text s => Text.quoted s
  | bytes b => Text.quotedBytes b
  | list xs => "[" ++ ", ".intercalate (quotedAll xs) ++ "]"
  | tuple [x] => "(" ++ quoted x ++ ",)"
  | tuple xs => "(" ++ ", ".intercalate (quotedAll xs) ++ ")"
  | set [] => "set()"
  | set xs => "\x7b" ++ ", ".intercalate (quotedAll xs) ++ "\x7d"
  | map entries => "\x7b" ++ ", ".intercalate (quotedEntries entries) ++ "\x7d"
  | date d => dateCall d
  | moment m => momentCall m
  | again part => if part.isMapping then "\x7b...\x7d" else "[...]"

def quotedAll : List Datum → List String
  | [] => []
  | x :: xs => quoted x :: quotedAll xs

def quotedEntries : List (Datum × Datum) → List String
  | [] => []
  | (k, v) :: es => (quoted k ++ ": " ++ quoted v) :: quotedEntries es

end

mutual

/-- Every integer in the datum is one that is written, so the datum has a text. -/
def hasText : Datum → Bool
  | int i => (Number.writeInteger i).isOk
  | list xs | tuple xs | set xs => haveText xs
  | map entries => entriesHaveText entries
  | _ => true

def haveText : List Datum → Bool
  | [] => true
  | x :: xs => hasText x && haveText xs

def entriesHaveText : List (Datum × Datum) → Bool
  | [] => true
  | (k, v) :: es => hasText k && hasText v && entriesHaveText es

end

/-- The plain text of a datum: a text is its own. -/
def shown : Datum → String
  | text s => s
  | date d => d.iso
  | moment m => m.iso " "
  | d => d.quoted

/-- The whole number that a datum counts as, if it is one: a truth value is zero or one. -/
def toInt? : Datum → Option Int
  | bool b => some (if b then 1 else 0)
  | int i => some i
  | _ => none

/-- An integer and a double are the same number. -/
def intIsReal (i : Int) (x : Float) : Bool :=
  match Number.decompose x with
  | .finite negative mantissa exponent =>
    let scaled := mantissa * Number.twoTo exponent
    i * Number.twoTo 1074 == if negative then -(scaled : Int) else scaled
  | _ => false

/-- Numbers of any kind have the same value. -/
def numbersAgree (a b : Datum) : Bool :=
  match a, b with
  | real x, real y => x == y
  | real x, b => (b.toInt?).any fun i => intIsReal i x
  | a, real y => (a.toInt?).any fun i => intIsReal i y
  | a, b => (a.toInt?).isSome && a.toInt? == b.toInt?

mutual

/-- The data have the same value. -/
def agrees : Datum → Datum → Bool
  | null, null => true
  | text s, text t => s == t
  | bytes b, bytes c => b == c
  | list xs, list ys => agreesAll xs ys
  | tuple xs, tuple ys => agreesAll xs ys
  | set xs, set ys => xs.length == ys.length && allIn xs ys
  | map es, map fs => es.length == fs.length && entriesIn es fs
  | date d, date e => d == e
  | moment m, moment n => m == n
  | a, b => numbersAgree a b

/-- The sequences agree member by member. -/
def agreesAll : List Datum → List Datum → Bool
  | [], [] => true
  | x :: xs, y :: ys => agrees x y && agreesAll xs ys
  | _, _ => false

/-- Every member of the first sequence has an equal in the second. -/
def allIn : List Datum → List Datum → Bool
  | [], _ => true
  | x :: xs, ys => ys.any (fun y => agrees x y) && allIn xs ys

/-- Every entry of the first mapping has an equal in the second. -/
def entriesIn : List (Datum × Datum) → List (Datum × Datum) → Bool
  | [], _ => true
  | (k, v) :: es, fs => fs.any (fun f => agrees k f.1 && agrees v f.2) && entriesIn es fs

end

/-- The data are of one kind and have the same value. -/
def same (a b : Datum) : Bool :=
  a.kind == b.kind && agrees a b

/-- The entries with a value for a key: an equal key keeps its place and its own form. -/
def putEntry : List (Datum × Datum) → Datum → Datum → List (Datum × Datum)
  | [], key, value => [(key, value)]
  | (k, v) :: es, key, value =>
    if agrees k key then (k, value) :: es else (k, v) :: putEntry es key value

/-- The value under a key that is a text. -/
def entry? (entries : List (Datum × Datum)) (key : String) : Option Datum :=
  (entries.find? fun e => agrees e.1 (text key)).map (·.2)

/-- Counts as no: null, false, zero, and everything empty. -/
def isEmpty : Datum → Bool
  | null => true
  | bool b => !b
  | int i => i == 0
  | real x => x == 0.0
  | text s => s.isEmpty
  | bytes b => b.isEmpty
  | list xs => xs.isEmpty
  | tuple xs => xs.isEmpty
  | set xs => xs.isEmpty
  | map es => es.isEmpty
  | date _ => false
  | moment _ => false
  | again _ => false

/-- A dictionary of texts as a mapping. -/
def ofTexts (d : List (String × String)) : Datum :=
  map (d.map fun e => (text e.1, text e.2))

end Datum

end ProxyTestbed
