import ProxyTestbed.Datum
import ProxyTestbed.Log.Level

/-!
# Log lines on the console

A record becomes a line of time, name and message. On a terminal the line begins with a coloured sign
for its level, elsewhere with the name of the level in brackets. A `Console` is the set-up of logging in
one process: the first time it is configured, lines start going to the stream that is given.
-/

namespace ProxyTestbed.Log

/-- The escape sequence that sets a colour of the terminal. -/
private def colour (code : String) : String :=
  "\x1b[" ++ code ++ "m"

/-- A sign in a colour, after which the colour is reset. -/
private def sign (code glyph : String) : String :=
  colour code ++ glyph ++ colour "0"

/-- The sign for a level; a blank for a level without one. -/
def glyph (level : Level) : String :=
  if level = .debug then sign "0;34" "·"
  else if level = .info then sign "0;32" "✓"
  else if level = .warning then sign "1;33" "⚠"
  else if level = .error || level = .critical then sign "0;31" "✗"
  else " "

/-- The line for a record. -/
def line (colours : Bool) (time : String) (level : Level) (name message : String) : String :=
  let front := if colours then glyph level else s!"[{level.name}]"
  s!"{front} {time} {name} {message}"

/-- Why arguments do not fit a message with places for them. -/
inductive FormatProblem
  | tooFew
  | tooMany
  | notANumber (kind : String)
  | whole (problem : Number.WholeProblem)
  deriving DecidableEq, Repr

def FormatProblem.message : FormatProblem → String
  | .tooFew => "not enough arguments for format string"
  | .tooMany => "not all arguments converted during string formatting"
  | .notANumber kind => s!"%d format: a real number is required, not {kind}"
  | .whole problem => problem.message

/-- The whole number that a datum is shown as in a place for numbers. -/
def wholeNumber (d : Datum) : Except FormatProblem Int :=
  match d with
  | .real x => (Number.wholePart x).mapError .whole
  | d =>
    match d.toInt? with
    | some i => .ok i
    | none => .error (.notANumber d.kind)

/-- Fills the places of a message: `%s` with the text of the next argument, `%d` with a whole number,
and `%%` with a per cent sign. -/
def fill : List Char → List Datum → Except FormatProblem String
  | [], [] => .ok ""
  | [], _ :: _ => .error .tooMany
  | '%' :: '%' :: r, args => (fill r args).map ("%" ++ ·)
  | '%' :: 's' :: _, [] => .error .tooFew
  | '%' :: 's' :: r, a :: args => (fill r args).map (a.shown ++ ·)
  | '%' :: 'd' :: _, [] => .error .tooFew
  | '%' :: 'd' :: r, a :: args => do
    let number ← wholeNumber a
    return toString number ++ (← fill r args)
  | c :: r, args => (fill r args).map (c.toString ++ ·)

/-- The text of a message with its arguments; without arguments the message is left as it is. A single
mapping that is not empty may be left over. -/
def messageWith (message : String) (args : List Datum) : Except FormatProblem String :=
  match args with
  | [] => .ok message
  | [.map (entry :: entries)] =>
    match fill message.toList [.map (entry :: entries)] with
    | .error .tooMany => fill message.toList []
    | filled => filled
  | args => fill message.toList args

/-- Names of other programs' loggers that would flood the output of a polling loop. -/
def noisyNames : List String :=
  ["httpx", "httpcore", "urllib3.connectionpool", "docker", "websocket"]

/-- The set-up of logging in one process. -/
structure Console where
  /-- The least level that is shown. -/
  level : Level
  /-- The least level that the noisy loggers show; none set at first. -/
  noisyLevel : Level
  /-- The stream that lines go to, and whether it shows colours. -/
  handler : Option (Nat × Bool)
  /-- What has been written to each stream. -/
  streams : List String
  deriving Repr

namespace Console

/-- A process that has not configured its logging, with a level set from outside. -/
def fresh (level : Level) : Console :=
  ⟨level, ⟨0⟩, none, []⟩

/-- Configures logging with a new stream, which is used only if no stream is used yet. -/
def configure (c : Console) (verbose terminal : Bool) : Console where
  level := if verbose then .debug else .info
  noisyLevel := .warning
  handler := c.handler.or (some (c.streams.length, terminal))
  streams := c.streams ++ [""]

def write (c : Console) (time : String) (level : Level) (name message : String) : Console :=
  match c.handler with
  | none => c
  | some (stream, colours) =>
    if level.value < c.level.value then c
    else { c with streams := c.streams.modify stream (· ++ line colours time level name message ++ "\n") }

end Console

/-- What a scenario says about its progress. -/
inductive Remark
  | step | info | warn | error
  deriving DecidableEq, Repr

def Remark.level : Remark → Level
  | step | info => .info
  | warn => .warning
  | error => .error

/-- The message of a remark; a step has its banner. -/
def Remark.message (remark : Remark) (text : String) : String :=
  match remark with
  | step => s!"=== {text} ==="
  | _ => text

/-- The name under which a scenario makes its remarks. -/
def scenarioName (scenario : String) : String :=
  s!"{rootName}.scenario.{scenario}"

end ProxyTestbed.Log
