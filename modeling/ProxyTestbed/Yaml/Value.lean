import ProxyTestbed.DataGraph
import ProxyTestbed.Text.Lines
import ProxyTestbed.Yaml.Node

/-!
# Values of YAML nodes

The value of a node is a datum. Scalars are read by the kind that their tag names, mappings are merged
with those under the sign `<<`, and keys must be scalars. A numbered collection becomes its number, and what
the numbers stand for is told beside.

The nodes are valued level by level: what stands directly in a collection comes before what stands
deeper. Of several failures the one on the highest level counts, on the same level the first one.
-/

namespace ProxyTestbed.Yaml

/-- A failure and the level on which it shows, counted from the node that is valued. -/
structure Late where
  level : Nat
  failure : Failure

/-- The value of a node, or the first failure in it. -/
abbrev Valued (α : Type) := Except Late α

namespace Valued

/-- A failure on the level of the node itself. -/
def fail {α : Type} (failure : Failure) : Valued α :=
  .error ⟨0, failure⟩

/-- The nodes do not make a value. -/
def noValue {α : Type} : Valued α :=
  fail (.malformed .value)

/-- What stands in a collection is one level below it. -/
def inside {α : Type} (x : Valued α) : Valued α :=
  x.mapError fun l => { l with level := l.level + 1 }

/-- Both values; of two failures the higher one, or else the first. -/
def both {α β : Type} (x : Valued α) (y : Valued β) : Valued (α × β) :=
  match x, y with
  | .ok a, .ok b => .ok (a, b)
  | .error l, .ok _ => .error l
  | .ok _, .error m => .error m
  | .error l, .error m => .error (if m.level < l.level then m else l)

end Valued

/-! ## Scalars -/

namespace Scalar

/-- A scalar that is no value of its kind. -/
def bad {α : Type} (problem : ScalarProblem) : Valued α :=
  .fail (.scalar problem)

/-- The text without underscores. -/
def dropGaps (s : List Char) : List Char :=
  s.filter (· != '_')

/-- An integer to a base. -/
def integer (base : Nat) (s : List Char) : Valued Int :=
  match Number.readIntegerTo base (String.ofList s) with
  | .ok i => .ok i
  | .error problem => bad (.integer problem)

/-- An integer: by its first characters binary, hexadecimal, octal, to the base 60, or decimal. -/
def readInt (text : String) : Valued Int :=
  match dropGaps text.toList with
  | [] => bad .empty
  | c :: r =>
    let body := if c = '-' || c = '+' then r else c :: r
    let signed (x : Valued Int) : Valued Int := x.map fun i => if c = '-' then -i else i
    match body with
    | ['0'] => .ok 0
    | '0' :: 'b' :: digits => signed (integer 2 digits)
    | '0' :: 'x' :: digits => signed (integer 16 digits)
    | '0' :: _ => signed (integer 8 body)
    | [] => bad .empty
    | _ =>
      if body.contains ':' then
        signed (((Text.splitOn ':' body).mapM (integer 10)).map fun ds =>
          ds.foldl (fun n d => n * 60 + d) 0)
      else signed (integer 10 body)

def real (s : List Char) : Valued Float :=
  match Number.readReal? (String.ofList s) with
  | some x => .ok x
  | none => bad (.real (String.ofList s))

def infinity : Float := 1.0 / 0.0

/-- A real: infinite, not a number, to the base 60, or decimal. -/
def readFloat (text : String) : Valued Float :=
  match (dropGaps text.toList).map Char.toLower with
  | [] => bad .empty
  | c :: r =>
    let body := if c = '-' || c = '+' then r else c :: r
    let signed (x : Float) : Float := if c = '-' then -x else x
    if body = ".inf".toList then .ok (signed infinity)
    else if body = ".nan".toList then .ok (infinity - infinity)
    else if body.contains ':' then
      ((Text.splitOn ':' body).mapM real).map fun ds =>
        -- the last number counts once, and each one before it sixty times as much
        signed (ds.reverse.foldl (fun (sum, unit) d => (sum + d * unit, unit * 60.0)) (0.0, 1.0)).1
    else (real body).map signed

/-- The truth value of a word in any case. -/
def readBool (text : String) : Valued Bool :=
  let word := text.toLower
  if ["yes", "true", "on"].contains word then .ok true
  else if ["no", "false", "off"].contains word then .ok false
  else bad (.truth word)

/-- The number that ASCII digits stand for. -/
def number (s : List Char) : Nat :=
  s.foldl (fun n c => 10 * n + (c.toNat - 48)) 0

/-- The microseconds of a fraction of a second, of which six digits count. -/
def microseconds (fraction : List Char) : Nat :=
  number ((fraction ++ List.replicate 6 '0').take 6)

/-- The minutes that a zone is ahead of universal time. -/
def zoneMinutes : Option (Bool × List Char × List Char) → Int
  | none => 0
  | some (behind, hours, minutes) =>
    let total : Int := number hours * 60 + number minutes
    if behind then -total else total

def readTimestamp (text : String) : Valued Datum :=
  let s := text.toList
  match readStamp (if s.getLast? = some '\n' then s.dropLast else s) with
  | none => bad .moment
  | some stamp =>
    let year := number stamp.year
    let month := number stamp.month
    let day := number stamp.day
    let made : Except CalendarProblem Datum :=
      match stamp.time with
      | none => (Date.make year month day).map .date
      | some (hour, minute, second, fraction) =>
        (Moment.make year month day (number hour) (number minute) (number second)
          (microseconds fraction) (stamp.zone.map zoneMinutes)).map .moment
    match made with
    | .ok d => .ok d
    | .error problem => bad (.calendar problem)

/-- The six bits that a character of the alphabet of binary data stands for. -/
def sixBits? (c : Char) : Option Nat :=
  if 'A' ≤ c && c ≤ 'Z' then some (c.toNat - 65)
  else if 'a' ≤ c && c ≤ 'z' then some (c.toNat - 71)
  else if '0' ≤ c && c ≤ '9' then some (c.toNat + 4)
  else if c = '+' then some 62
  else if c = '/' then some 63
  else none

/-- Bytes from groups of four characters, `quad` of which have been read with the bits `left`; other
characters do not count, and padding at the end of a group ends the data. -/
def sixBitBytes (quad left pads : Nat) : List Char → Option Bytes
  | [] => if quad = 0 then some [] else none
  | c :: r =>
    if c = '=' then
      if 2 ≤ quad then
        if 4 ≤ quad + (pads + 1) then some [] else sixBitBytes quad left (pads + 1) r
      else sixBitBytes quad left pads r
    else
      match sixBits? c with
      | none => sixBitBytes quad left pads r
      | some v =>
        let byte (n : Nat) (rest : Option Bytes) : Option Bytes := rest.map (UInt8.ofNat n :: ·)
        match quad with
        | 0 => sixBitBytes 1 v 0 r
        | 1 => byte (left * 4 + v / 16) (sixBitBytes 2 (v % 16) 0 r)
        | 2 => byte (left * 16 + v / 4) (sixBitBytes 3 (v % 4) 0 r)
        | _ => byte (left * 64 + v) (sixBitBytes 0 0 0 r)

def readBinary (text : String) : Valued Datum :=
  if text.toList.all fun c => c.toNat < 128 then
    match sixBitBytes 0 0 0 text.toList with
    | some bytes => .ok (.bytes bytes)
    | none => .noValue
  else .noValue

/-- The value of a scalar of a kind; collections have other kinds. -/
def read (kind : Kind) (text : String) : Valued Datum :=
  match kind with
  | .null => .ok .null
  | .bool => (readBool text).map .bool
  | .int => (readInt text).map .int
  | .float => (readFloat text).map .real
  | .binary => readBinary text
  | .timestamp => readTimestamp text
  | .str => .ok (.text text)
  | _ => .noValue

end Scalar

namespace Node

def tag : Node → Tag
  | .scalar t _ | .sequence _ t _ | .mapping _ t _ => t
  | .again _ isMapping => .known (if isMapping then .map else .seq)

/-- The text that a node stands for where a scalar is needed: its own, or that of the main value of a
mapping. -/
def scalarText? : Node → Option String
  | .scalar _ text => some text
  | .mapping _ _ entries => mainText? entries
  | _ => none
where
  /-- The text of the value under the sign for the main value. -/
  mainText? : List (Node × Node) → Option String
    | [] => none
    | (k, v) :: es => if k.tag = .known .value then v.scalarText? else mainText? es

mutual

/-- The entries can be merged: under each merging sign stands what can be merged. -/
def canMerge : List (Node × Node) → Bool
  | [] => true
  | (k, v) :: es => (k.tag != .known .merge || isSource v) && canMerge es

/-- A mapping, or a sequence of mappings, which can be merged themselves. -/
def isSource : Node → Bool
  | .mapping _ _ entries => canMerge entries
  | .sequence _ _ items => areSources items
  | .again _ isMapping => isMapping
  | .scalar _ _ => false

/-- Mappings that can be merged. -/
def areSources : List Node → Bool
  | [] => true
  | .mapping _ _ entries :: rest => canMerge entries && areSources rest
  | .again _ isMapping :: rest => isMapping && areSources rest
  | _ :: _ => false

end

def isKey : Datum → Bool
  | .list _ | .map _ | .set _ | .again _ => false
  | _ => true

/-- A key, which is checked as soon as it is valued. -/
def asKey (x : Valued Datum) : Valued Datum :=
  match x with
  | .ok d => if isKey d then .ok d else .noValue
  -- what stands deeper in a key is never reached, for a collection is no key
  | .error l => if l.level = 0 then .error l else .noValue

def scalarValue (tag : Tag) (text : String) : Valued Datum :=
  match tag with
  | .known .seq | .known .map | .known .set | .known .omap | .known .pairs =>
    Valued.inside .noValue
  | .known kind => Scalar.read kind text
  | .other _ => .noValue

/-- The value of a mapping with the tag of a scalar; `main` is the text of its main value. -/
def mainValue (tag : Tag) (main : Option String) : Valued Datum :=
  match tag, main with
  | .known .timestamp, some _ => Scalar.bad .momentKind
  | tag, some text => scalarValue tag text
  | _, none => .noValue

/-- The entries of a dictionary, of which the last one with a key counts. -/
def putAll (entries : List (Datum × Datum)) : List (Datum × Datum) :=
  entries.foldl (fun es e => Datum.putEntry es e.1 e.2) []

/-- A sequence or mapping with a number as that number. -/
def asPart (number : Option Nat) (d : Datum) : Datum :=
  match number, d with
  | some n, .list _ => .again ⟨n, false⟩
  | some n, .map _ => .again ⟨n, true⟩
  | _, d => d

mutual

def value : Node → Valued Datum
  | .again number isMapping => .ok (.again ⟨number, isMapping⟩)
  | .scalar tag text => scalarValue tag text
  | .sequence number tag items => (sequenceValue tag items).map (asPart number)
  | .mapping number tag entries => (mappingValue tag entries).map (asPart number)

def sequenceValue (tag : Tag) (items : List Node) : Valued Datum :=
  match tag with
  | .known .seq => (Valued.inside (values items)).map .list
  | .known .omap | .known .pairs => (Valued.inside (pairValues items)).map .list
  | .known .map | .known .set => Valued.inside .noValue
  | _ => .noValue

def mappingValue (tag : Tag) (entries : List (Node × Node)) : Valued Datum :=
  let all := if canMerge entries then Valued.inside (dictionary entries) else Valued.inside .noValue
  match tag with
  | .known .map => all.map .map
  | .known .set => all.map fun es => .set (es.map (·.1))
  | .known .seq | .known .omap | .known .pairs => Valued.inside .noValue
  | tag => mainValue tag (scalarText?.mainText? entries)

def values : List Node → Valued (List Datum)
  | [] => .ok []
  | x :: xs => ((value x).both (values xs)).map fun (d, ds) => d :: ds

/-- The pairs of a sequence of mappings with one entry each. -/
def pairValues : List Node → Valued (List Datum)
  | [] => .ok []
  | .mapping _ _ [(k, v)] :: xs =>
    (((value k).both (value v)).both (pairValues xs)).map fun ((a, b), ds) => .tuple [a, b] :: ds
  | _ :: _ => .noValue

/-- The entries of a mapping after those that are merged into it, each key once. -/
def dictionary (entries : List (Node × Node)) : Valued (List (Datum × Datum)) :=
  let (merged, own) := entryValues entries
  (merged.both own).map fun (ms, os) => putAll (ms ++ os)

/-- The entries that are merged into a mapping, and its own. The sign for the main value is a text as
a key. -/
def entryValues : List (Node × Node) → Valued (List (Datum × Datum)) × Valued (List (Datum × Datum))
  | [] => (.ok [], .ok [])
  | (k, v) :: es =>
    let (merged, own) := entryValues es
    if k.tag = .known .merge then
      (((sourceValues v).both merged).map fun (found, ms) => found ++ ms, own)
    else
      let key := match k with
        | .scalar (.known .value) text => .ok (.text text)
        | k => value k
      (merged, (((asKey key).both (value v)).both own).map fun (e, os) => e :: os)

/-- The entries to merge from a mapping, or from mappings in a sequence, those of the last one
first. -/
def sourceValues : Node → Valued (List (Datum × Datum))
  | .mapping _ _ entries =>
    let (merged, own) := entryValues entries
    (merged.both own).map fun (ms, os) => ms ++ os
  | .sequence _ _ items => allSourceValues items
  | _ => .ok []

/-- The entries to merge from several mappings, those of the last one first. -/
def allSourceValues : List Node → Valued (List (Datum × Datum))
  | [] => .ok []
  | .mapping _ _ entries :: rest =>
    let (merged, own) := entryValues entries
    ((allSourceValues rest).both (merged.both own)).map fun (later, ms, os) => later ++ (ms ++ os)
  | _ :: rest => allSourceValues rest

end

/-- What a number stands for, if it is a value. -/
def partOf (number : Option Nat) (value : Valued Datum) : Parts :=
  match number, value with
  | some n, .ok d => [(n, d)]
  | _, _ => []

mutual

/-- What the numbers stand for. -/
def parts : Node → Parts
  | .again _ _ | .scalar _ _ => []
  | .sequence number tag items => partOf number (sequenceValue tag items) ++ partsOfAll items
  | .mapping number tag entries => partOf number (mappingValue tag entries) ++ partsOfEntries entries

def partsOfAll : List Node → Parts
  | [] => []
  | x :: xs => parts x ++ partsOfAll xs

def partsOfEntries : List (Node × Node) → Parts
  | [] => []
  | (k, v) :: es => parts k ++ parts v ++ partsOfEntries es

end

end Node

/-- A character that a document may hold. -/
def isAllowed (c : Char) : Bool :=
  let n := c.toNat
  n = 0x09 || n = 0x0A || n = 0x0D || (0x20 ≤ n && n ≤ 0x7E) || n = 0x85 || (0xA0 ≤ n && n ≤ 0xD7FF) ||
    (0xE000 ≤ n && n ≤ 0xFFFD) || 0x10000 ≤ n

/-- The root of the document in a text; nothing for a text without a document. -/
def rootOf (text : List Char) : Except Failure Node :=
  if !text.all isAllowed then .error (.malformed .character)
  else (Node.ofText text).map (·.getD Node.absent)

/-- The value of the document in a text. -/
def read (text : List Char) : Except Failure Datum := do
  let root ← rootOf text
  root.value.mapError (·.failure)

/-- The data of the document in the content of a file. -/
def load (content : Bytes) : Except Failure DataGraph := do
  let text ← (Text.Utf8.decode content).mapError .encoding
  let text := Text.unifyNewlines text
  let root ← read text
  return ⟨root, (← rootOf text).parts⟩

end ProxyTestbed.Yaml
