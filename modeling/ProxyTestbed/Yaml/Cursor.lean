/-!
# Places in a YAML text

A cursor is a place in a text: what is left of it, and the line and column. Lines end at line feeds,
carriage returns and the line breaks of Unicode; a byte order mark takes no column.
-/

namespace ProxyTestbed.Yaml

/-- A place in a text. -/
structure Cursor where
  rest : List Char
  /-- How many characters are before it. -/
  index : Nat
  line : Nat
  column : Nat
  deriving Repr

def isBreak (c : Char) : Bool :=
  c = '\n' || c = '\r' || c = '\x85' || c = '\u2028' || c = '\u2029'

/-- The text or the line ends here. -/
def endsLine : Option Char → Bool
  | none => true
  | some c => isBreak c

/-- The text or the line ends here, or a space follows. -/
def endsWord : Option Char → Bool
  | none => true
  | some c => c = ' ' || isBreak c

/-- The text or the line ends here, or a space or tab follows. -/
def endsToken : Option Char → Bool
  | none => true
  | some c => c = ' ' || c = '\t' || isBreak c

namespace Cursor

def start (text : List Char) : Cursor :=
  ⟨text, 0, 0, 0⟩

/-- The character some places ahead. -/
def ahead (c : Cursor) (n : Nat) : Option Char :=
  c.rest[n]?

def next (c : Cursor) : Option Char :=
  c.rest.head?

def sees (c : Cursor) (ch : Char) : Bool :=
  c.next == some ch

def step (c : Cursor) : Cursor :=
  match c.rest with
  | [] => c
  | ch :: rest =>
    if isBreak ch && !(ch == '\r' && rest.head? == some '\n') then ⟨rest, c.index + 1, c.line + 1, 0⟩
    else ⟨rest, c.index + 1, c.line, if ch = '\uFEFF' then c.column else c.column + 1⟩

/-- The place some characters further. -/
def skip : Cursor → Nat → Cursor
  | c, 0 => c
  | c, n + 1 => c.step.skip n

/-- The longest run of characters with a property, and the place after it. -/
def spanWhile (p : Char → Bool) (c : Cursor) : List Char × Cursor :=
  let run := c.rest.takeWhile p
  (run, c.skip run.length)

/-- The place after the characters with a property. -/
def skipWhile (p : Char → Bool) (c : Cursor) : Cursor :=
  (c.spanWhile p).2

def skipSpaces (c : Cursor) : Cursor :=
  c.skipWhile (· == ' ')

/-- The place after a comment, if one begins here. -/
def skipComment (c : Cursor) : Cursor :=
  if c.sees '#' then c.skipWhile fun ch => !isBreak ch else c

/-- The line break here, as it counts in a text, and the place after it. -/
def takeBreak (c : Cursor) : Option Char × Cursor :=
  match c.rest with
  | '\r' :: '\n' :: _ => (some '\n', c.skip 2)
  | ch :: _ =>
    if ch = '\u2028' || ch = '\u2029' then (some ch, c.step)
    else if isBreak ch then (some '\n', c.step)
    else (none, c)
  | [] => (none, c)

/-- Three characters at the beginning of a line that separate documents stand here. -/
def atSeparator (c : Cursor) (mark : Char) : Bool :=
  c.rest.take 3 == [mark, mark, mark] && endsToken (c.ahead 3)

end Cursor

end ProxyTestbed.Yaml
