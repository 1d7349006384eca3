import ProxyTestbed.Datum
import ProxyTestbed.Dictionary

/-!
# What the daemon tells about a container

The attributes of a container are data of no fixed shape. The testbed looks up two things in them: the
address of the container in a network, and the ports of the host that lead to its own ports. Attributes
of another shape than these look-ups expect are an `InspectionProblem`.
-/

namespace ProxyTestbed

/-- Why a look-up in attributes fails. -/
inductive InspectionProblem
  /-- A value of this kind has no members by name. -/
  | noMember (kind member : String)
  /-- A value of this kind has no places. -/
  | noPlaces (kind : String)
  /-- The places of this sequence have no names. -/
  | namedPlace (sequence : Datum)
  | missing (key : Datum)
  | number (problem : Number.IntegerProblem)
  /-- A value of this kind is no number. -/
  | notNumber (kind : String)
  | whole (problem : Number.WholeProblem)

namespace InspectionProblem

def message : InspectionProblem → String
  | noMember kind member => s!"'{kind}' object has no attribute '{member}'"
  | noPlaces kind => s!"'{kind}' object is not subscriptable"
  | namedPlace (.text _) => "string indices must be integers, not 'str'"
  | namedPlace (.bytes _) => "byte indices must be integers or slices, not str"
  | namedPlace d => s!"{d.kind} indices must be integers or slices, not str"
  | missing key => key.quoted
  | number problem => problem.message
  | notNumber kind =>
    s!"int() argument must be a string, a bytes-like object or a real number, not '{kind}'"
  | whole problem => problem.message

end InspectionProblem

namespace Inspection

/-- What stands under a name in a mapping; nothing if nothing does. -/
def member (d : Datum) (name : String) : Except InspectionProblem Datum :=
  match d with
  | .map entries => .ok ((Datum.entry? entries name).getD .null)
  | d => .error (.noMember d.fullKind "get")

/-- The datum, or an empty mapping for one that counts as no. -/
def orEmpty (d : Datum) : Datum :=
  if d.isEmpty then .map [] else d

/-- The datum, or nothing for one that counts as no. -/
def orNothing (d : Datum) : Datum :=
  if d.isEmpty then .null else d

/-- The first place of a sequence. -/
def firstPlace (d : Datum) : Except InspectionProblem Datum :=
  match d with
  | .list (x :: _) | .tuple (x :: _) => .ok x
  | .text s => .ok (.text (String.ofList (s.toList.take 1)))
  | .bytes (b :: _) => .ok (.int b.toNat)
  | .map entries =>
    match entries.find? fun e => e.1.agrees (.int 0) with
    | some (_, v) => .ok v
    | none => .error (.missing (.int 0))
  | d => .error (.noPlaces d.fullKind)

def required (d : Datum) (name : String) : Except InspectionProblem Datum :=
  match d with
  | .map entries =>
    match Datum.entry? entries name with
    | some v => .ok v
    | none => .error (.missing (.text name))
  | .list _ | .tuple _ | .text _ | .bytes _ => .error (.namedPlace d)
  | d => .error (.noPlaces d.fullKind)

/-- The whole number that a datum stands for; a real is cut off towards zero. -/
def wholeNumber (d : Datum) : Except InspectionProblem Int :=
  match d with
  | .bool b => .ok (if b then 1 else 0)
  | .int i => .ok i
  | .text s => (Number.readInteger s).mapError .number
  | .bytes b => (Number.readIntegerBytes b).mapError .number
  | .real x => (Number.wholePart x).mapError .whole
  | d => .error (.notNumber d.fullKind)

/-- The port of the host in the first binding of a port. -/
def hostPort (bindings : Datum) : Except InspectionProblem Int := do
  wholeNumber (← required (← firstPlace bindings) "HostPort")

/-- The part of the attributes about networks. -/
def networkSettings (attributes : Datum) : Except InspectionProblem Datum :=
  match attributes with
  | .map entries => .ok ((Datum.entry? entries "NetworkSettings").getD (.map []))
  | d => .error (.noMember d.fullKind "get")

/-- The address in a network; nothing without one. -/
def address (settings : Datum) (network : String) : Except InspectionProblem Datum := do
  let found ← member (orEmpty (← member settings "Networks")) network
  return orNothing (← member (orEmpty found) "IPAddress")

/-- The port of the host that leads to a port, if one does. -/
def publishedPort (settings : Datum) (port : String) : Except InspectionProblem (Option Int) := do
  let bindings ← member (orEmpty (← member settings "Ports")) port
  if bindings.isEmpty then return none else return some (← hostPort bindings)

/-- The ports of the host by the ports that they lead to. -/
def publishedPorts (settings : Datum) : Except InspectionProblem (Dictionary Int) := do
  match orEmpty (← member settings "Ports") with
  | .map entries =>
    let bound := entries.filter fun e => !e.2.isEmpty
    let ports ← bound.mapM fun e => return (e.1.shown, ← hostPort e.2)
    return Dictionary.ofPairs ports
  | d => throw (.noMember d.fullKind "items")

end Inspection

end ProxyTestbed
