import ProxyTestbed.DataGraph
import ProxyTestbed.Declaration.Variables
import ProxyTestbed.Fault.Problem
import ProxyTestbed.File.Path
import ProxyTestbed.Settings.Basic
import ProxyTestbed.Yaml.Problem

/-!
# Loading settings

Settings are loaded from two places: a file that holds a YAML mapping, and environment variables, which
count more. What neither of them names keeps its standard value. The file is given, or named by a
variable. How the content of a file is parsed is given as well.

Every value is coerced to the kind of its setting. The unknown names of the file come first among the
problems, then its values in order, then the variables in the order of the settings.
-/

namespace ProxyTestbed.Settings

/-- The beginning of the names of variables for settings. -/
def variableWord : String := "PROXY_E2E_"

/-- The variable that names the settings file. -/
def fileVariable : String := "PROXY_E2E_CONFIG"

def variableName (field : Setting) : String :=
  variableWord ++ String.ofList (field.name.toList.map Char.toUpper)

/-! ## Coercion -/

/-- The real nearest to an integer, if it is in their range. -/
def realOfInt (i : Int) : Except LoadProblem Float :=
  let x := Number.nearest (i < 0) i.natAbs 1
  if Number.nearestBits i.natAbs 1 < Number.infinityBits then .ok x else .error .tooLarge

/-- A value of the wrong form under a name. -/
def invalid {α : Type} (name : String) (raw : Datum) (why : ValueProblem) : Except LoadProblem α :=
  .error (.refused (.invalid name raw why))

/-- What needs the text of a datum, be it for the report of a problem. -/
def ifWritten {α : Type} (raw : Datum) (x : Except LoadProblem α) : Except LoadProblem α :=
  if raw.hasText then x else .error (.scalar (.integer .tooLarge))

/-- A datum as a number of seconds. -/
def coerceSeconds (name : String) (raw : Datum) : Except LoadProblem Float :=
  match raw with
  | .bool b => .ok (if b then 1.0 else 0.0)
  | .int i => realOfInt i
  | .real x => .ok x
  | .text s =>
    match Number.readReal? s with
    | some x => .ok x
    | none => invalid name raw (.notReal raw.quoted)
  | .bytes b =>
    match (Text.ofAscii? b).bind Number.readReal? with
    | some x => .ok x
    | none => invalid name raw (.notReal raw.quoted)
  | _ => ifWritten raw (invalid name raw (.notNumber raw.fullKind))

def yesWords : List String := ["1", "true", "yes", "on"]

/-- A datum as a truth value: true for a word for yes in any case, with blanks around it or not. -/
def coerceTruth (raw : Datum) : Bool :=
  match raw with
  | .bool b => b
  | _ => yesWords.contains (String.ofList ((Text.trim raw.shown.toList).map Char.toLower))

/-- A datum as labels, all of them texts: the keys and values of a mapping, each on its own. -/
def coerceLabels (name : String) (raw : Datum) (parts : Parts) : Except LoadProblem (Dictionary String) :=
  match raw.here parts with
  | .map entries =>
    .ok (Dictionary.ofPairs (entries.map fun e => ((e.1.whole parts).shown, (e.2.whole parts).shown)))
  | _ => invalid name (raw.whole parts) (.notMapping raw.kind)

/-- A datum as a value of a setting. Only an optional text may be missing. -/
def coerce (name : String) (kind : SettingKind) (raw : Datum) (parts : Parts := []) :
    Except LoadProblem (kind.Value Float) :=
  match kind, raw.whole parts with
  | .optionalText, .null => .ok none
  | _, .null => .error (.refused (.empty name))
  | .text, whole => ifWritten whole (.ok whole.shown)
  | .optionalText, whole => ifWritten whole (.ok (some whole.shown))
  | .seconds, whole => coerceSeconds name whole
  | .truth, whole => ifWritten whole (.ok (coerceTruth whole))
  | .labels, whole => ifWritten whole (coerceLabels name raw parts)

/-- A coerced value for a setting, which a report calls by `name`. -/
def changeTo (field : Setting) (name : String) (raw : Datum) (parts : Parts) : Except LoadProblem (Change Float) :=
  (coerce name field.kind raw parts).map fun value => ⟨field, value⟩

/-! ## The file -/

/-- Keys of these kinds have an order among each other. -/
def haveOrder (a b : Datum) : Bool :=
  match a, b with
  | .text _, .text _ | .bytes _, .bytes _ | .date _, .date _ | .moment _, .moment _ => true
  | a, b => (isNumber a) && (isNumber b)
where
  /-- A number of any kind. -/
  isNumber : Datum → Bool
    | .bool _ | .int _ | .real _ => true
    | _ => false

/-- The first two neighbours without an order, the later one first. -/
def unorderedPair? : List Datum → Option (Datum × Datum)
  | a :: b :: rest => if haveOrder b a then unorderedPair? (b :: rest) else some (b, a)
  | _ => none

/-- The least number among keys, the first of equal ones. -/
def leastNumber : List Datum → Option Datum
  | [] => none
  | a :: rest =>
    match leastNumber rest with
    | none => some a
    | some b => if realOf b < realOf a then some b else some a
where
  /-- A number as a real. -/
  realOf (d : Datum) : Float :=
    match d with
    | .real x => x
    | d => match d.toInt? with
      | some i => Number.nearest (i < 0) i.natAbs 1
      | none => 0.0

/-- The problem with unknown names. -/
def unknownNames (path : String) (names : List Datum) : LoadProblem :=
  match unorderedPair? names with
  | some (later, earlier) => .unordered later.fullKind earlier.fullKind
  | none =>
    let texts := names.filterMap fun d => match d with
      | .text s => some s
      | _ => none
    if texts.length = names.length then
      .refused (.unknown path (texts.mergeSort fun a b => !decide (b < a)))
    else .notText (((leastNumber names).getD .null).fullKind)

/-- The setting that a key of the file names. -/
def settingOfKey? (key : Datum) : Option Setting :=
  match key with
  | .text s => Setting.ofName? s
  | _ => none

/-- The settings in the data of a file. -/
def ofData (path : String) (data : DataGraph) : Except LoadProblem (List (Change Float)) :=
  let root := data.root.here data.parts
  if root.isEmpty then .ok []
  else
    match root with
    | .map entries =>
      let unknown := (entries.map (·.1)).filter fun k => (settingOfKey? k).isNone
      if unknown.isEmpty then
        (entries.filterMap fun e => (settingOfKey? e.1).map fun f => (f, e.2)).mapM fun e =>
          changeTo e.1 e.1.name e.2 data.parts
      else .error (unknownNames path unknown)
    | _ => .error (.refused (.notMapping path))

/-- How the content of a file is parsed. -/
abbrev Parser := Bytes → Except Yaml.Failure DataGraph

/-- The settings in the content of a file. -/
def ofFile (parse : Parser) (path : String) (content : Bytes) : Except LoadProblem (List (Change Float)) :=
  match parse content with
  | .error (.malformed part) => .error (.refused (.malformed path part))
  | .error (.scalar problem) => .error (.scalar problem)
  | .error (.encoding problem) => .error (.encoding problem)
  | .ok data => ofData path data

/-! ## Variables -/

/-- The settings in environment variables; labels are never among them. -/
def ofVariables (environ : Variables) : Except LoadProblem (List (Change Float)) :=
  let named := (Setting.all.filter (· != .labels)).filterMap fun field =>
    (environ.get? (variableName field)).map fun value => (field, value)
  named.mapM fun e => changeTo e.1 (variableName e.1) (.text e.2) []

/-! ## Loading -/

/-- The file to read: the given one, or the one that a variable names with a text that is not empty. -/
def fileToRead (given : Option Path) (environ : Variables) : Option Path :=
  match given with
  | some path => some path
  | none =>
    match environ.get? fileVariable with
    | none => none
    | some name => if name.isEmpty then none else some (.ofString name)

/-- Loads settings. `read` answers the content of a file. -/
def load (parse : Parser) (read : Path → Except Foreign Bytes) (given : Option Path) (environ : Variables) :
    Except LoadProblem (Settings Float) := do
  let fromFile ← match fileToRead given environ with
    | none => pure []
    | some path =>
      match read path with
      | .error cause =>
        throw (if cause.isSystem then .refused (.unreadable path.toString cause) else .noPath cause)
      | .ok content => ofFile parse path.toString content
  let fromVariables ← ofVariables environ
  return standard.apply (fromFile ++ fromVariables)

end ProxyTestbed.Settings
