import ProxyTestbed.Declaration.Problem
import ProxyTestbed.Text.Pieces

/-!
# Virtual host declarations

    [scheme://]host[:port][/path][ -> target][; directive]...

The outer side, before the arrow, says which requests are meant: scheme, host, port and path. The
inner side, after it, says where in the container they go: `:port` with an optional path, a path, or a
URL of which scheme, port and path count. Without a path of its own the inner side keeps the outer one,
except after an explicit `:port`, which leads to the root.

`VirtualHost.write` builds a declaration and `VirtualHost.read` reads one.
-/

namespace ProxyTestbed

/-- The schemes of the outer side. -/
inductive Scheme
  | https | http | wss | ws
  deriving DecidableEq, Repr

namespace Scheme

def name : Scheme → String
  | https => "https"
  | http => "http"
  | wss => "wss"
  | ws => "ws"

def all : List Scheme := [https, http, wss, ws]

def ofName? (name : String) : Option Scheme :=
  all.find? fun s => s.name == name

/-- The port that a scheme stands for. -/
def port : Scheme → Nat
  | https | wss => 443
  | http | ws => 80

/-- Over an encrypted connection. -/
def secure : Scheme → Bool
  | https | wss => true
  | http | ws => false

/-- A scheme at the front of a text, with its `://`, and the rest. -/
def takeFrom? (s : List Char) : Option (Scheme × List Char) :=
  all.findSome? fun scheme =>
    let mark := scheme.name.toList ++ [':', '/', '/']
    if mark.isPrefixOf s then some (scheme, s.drop mark.length) else none

end Scheme

/-- A route that a backend declares. -/
structure VirtualHost where
  hostname : String
  scheme : Scheme
  serverPort : Int
  /-- The path inside the container. -/
  path : String
  /-- The path that is asked for. -/
  externalPath : String
  containerPort : Option Int
  containerScheme : String
  /-- The directives, trimmed, without the empty ones. -/
  extras : List String
  deriving DecidableEq, Repr

namespace VirtualHost

structure Parts where
  host : String
  scheme : Option String
  port : Option Int
  path : Option String
  target : Option String
  directives : List String
  deriving DecidableEq, Repr

/-- A path with a slash at its front; nothing for no path or an empty one. -/
def rooted (path : Option String) : String :=
  match path with
  | none => ""
  | some p =>
    match p.toList with
    | [] => ""
    | c :: _ => if c = '/' then p else "/" ++ p

/-- A scheme with its `://`; nothing for no scheme. -/
def schemeMark (scheme : Option String) : Except DeclarationFault String :=
  match scheme with
  | none => .ok ""
  | some s =>
    if (Scheme.ofName? s).isSome then .ok (s ++ "://")
    else .error (.rejected (.unsupportedScheme s))

/-- A port after its colon; nothing for no port. -/
def portMark (port : Option Int) : Except DeclarationFault String :=
  match port with
  | none => .ok ""
  | some n => ((Number.writeInteger n).map (":" ++ ·)).mapError .number

/-- A target after its arrow; nothing for no target or an empty one. -/
def targetMark (target : Option String) : String :=
  match target with
  | none => ""
  | some t => if t.isEmpty then "" else " -> " ++ t

def write (p : Parts) : Except DeclarationFault String := do
  let scheme ← schemeMark p.scheme
  let port ← portMark p.port
  return scheme ++ p.host ++ port ++ rooted p.path ++ targetMark p.target ++
    String.join (p.directives.map fun d => "; " ++ d)

/-- The number of a port whose characters are all digits in the wider sense. -/
def readPort (value : String) (text : List Char) : Except DeclarationFault Int :=
  if text.isEmpty || !text.all Text.isDigitLike then .error (.rejected (.badPort value))
  else (Number.readInteger (String.ofList text)).mapError .number

/-- The number of a port that may be left out. -/
def readPort? (value : String) (text : List Char) : Except DeclarationFault (Option Int) :=
  if text.isEmpty then .ok none else (readPort value text).map some

/-- The outer side of a declaration. -/
structure Outer where
  scheme : Scheme
  hostname : List Char
  port : Int
  path : List Char

/-- Reads the trimmed outer side; `value` is the whole declaration, for reports. -/
def readOuter (value : String) (text : List Char) : Except DeclarationFault Outer :=
  let (scheme, body) := (Scheme.takeFrom? text).getD (.http, text)
  let (hostPort, rest) := Text.cutAt '/' body
  let (hostname, portText) := Text.cutAt ':' hostPort
  let path := match rest with
    | none => ['/']
    | some r => '/' :: r
  if hostname.isEmpty then .error (.rejected (.noHostname value))
  else match portText with
    | none => .ok ⟨scheme, hostname, scheme.port, path⟩
    | some t => (readPort value t).map fun port => ⟨scheme, hostname, port, path⟩

/-- The inner side of a declaration; without a path where the outer one is kept. -/
structure Inner where
  scheme : List Char
  port : Option Int
  path : Option (List Char)

/-- Reads a port and a path after a colon. -/
def readAuthority (value : String) (scheme text : List Char) (noPath : Option (List Char)) :
    Except DeclarationFault Inner :=
  let (portText, rest) := Text.cutAt '/' text
  (readPort? value portText).map fun port =>
    ⟨scheme, port, match rest with
      | none => noPath
      | some r => some ('/' :: r)⟩

/-- The scheme of an inner side that names none. -/
def plainScheme : List Char := Scheme.http.name.toList

/-- Reads the trimmed inner side; `value` is the whole declaration, for reports. -/
def readInner (value : String) : List Char → Except DeclarationFault Inner
  | ':' :: r => readAuthority value plainScheme r (some ['/'])
  | text =>
    match Text.cutAtText? [':', '/', '/'] text with
    | some (scheme, body) =>
      match Text.cutAt ':' body with
      | (_, some r) => readAuthority value scheme r none
      | (_, none) => .ok ⟨scheme, none, none⟩
    | none => .ok ⟨plainScheme, none, if text.head? = some '/' then some text else none⟩

/-- The directives after the first semicolon. -/
def readExtras (text : Option (List Char)) : List String :=
  match text with
  | none => []
  | some t => (((Text.splitOn ';' t).map Text.trim).filter fun d => !d.isEmpty).map String.ofList

/-- The sides of a declaration before its directives: the outer one and, after an arrow, the inner
one. -/
def sides? (main : List Char) : Option (List Char × List Char) :=
  match Text.splitArrows main with
  | [outer] => some (Text.trim outer, [])
  | [outer, inner] => some (Text.trim outer, Text.trim inner)
  | _ => none

def read (value : String) : Except DeclarationFault VirtualHost :=
  let (main, extraText) := Text.cutAt ';' value.toList
  match sides? main with
  | none => .error (.rejected (.badVirtualHost value))
  | some (outerText, innerText) => do
    let outer ← readOuter value outerText
    let inner ← readInner value innerText
    return {
      hostname := String.ofList outer.hostname
      scheme := outer.scheme
      serverPort := outer.port
      path := String.ofList (inner.path.getD outer.path)
      externalPath := String.ofList outer.path
      containerPort := inner.port
      containerScheme := String.ofList inner.scheme
      extras := readExtras extraText }

end VirtualHost

end ProxyTestbed
