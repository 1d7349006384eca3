import ProxyTestbed.Yaml.Cursor
import ProxyTestbed.Yaml.Problem

/-!
# Scalars of a YAML text

Plain, quoted and block scalars are read from a place in the text. In all of them a single line break
between two lines of text counts as a space unless the style keeps it, and further ones count as they
are.

Every loop has the number of characters that are left as its bound, since each turn takes at least
one of them.
-/

namespace ProxyTestbed.Yaml

/-- The characters do not make a token. -/
def badToken {α : Type} : Except Failure α :=
  .error (.malformed .token)

/-- A document ends here: three hyphens or dots that stand alone at the beginning of a line. -/
def Cursor.atDocumentEnd (c : Cursor) : Bool :=
  c.atSeparator '-' || c.atSeparator '.'

/-- Line breaks as a space: one is a space if it is a plain one, further ones count. -/
def folded (first : Char) (others : List Char) : List Char :=
  if first != '\n' then first :: others else if others.isEmpty then [' '] else others

/-! ## Plain scalars -/

namespace Plain

/-- A plain scalar ends before `c`, inside brackets (`flow`) at their signs too. -/
def stops (flow : Bool) (c : Char) (after : Option Char) : Bool :=
  c = ' ' || c = '\t' || isBreak c ||
    (c = ':' && (endsToken after || (flow && after.any fun a => [',', '[', ']', '{', '}'].contains a))) ||
    (flow && [',', '?', '[', ']', '{', '}'].contains c)

/-- The characters up to where a plain scalar ends or has a blank. -/
def run (flow : Bool) : List Char → List Char
  | [] => []
  | c :: r => if stops flow c r.head? then [] else c :: run flow r

/-- What stands between two pieces of a plain scalar. -/
structure Gap where
  /-- What it counts as; empty where the scalar ends. -/
  text : List Char
  after : Cursor
  /-- It goes over the end of a line. -/
  newLine : Bool

/-- The line breaks after the first one, over spaces; `none` before the end of the document. -/
def moreBreaks : Nat → Cursor → Option (List Char) × Cursor
  | 0, c => (some [], c)
  | n + 1, c =>
    if c.sees ' ' then moreBreaks n c.step
    else
      match c.takeBreak with
      | (none, c) => (some [], c)
      | (some b, c) =>
        if c.atDocumentEnd then (none, c)
        else
          let (bs, c) := moreBreaks n c
          (bs.map (b :: ·), c)

/-- The gap at a place. -/
def gap (c : Cursor) : Gap :=
  let (spaces, c) := c.spanWhile (· == ' ')
  match c.takeBreak with
  | (none, c) => ⟨spaces, c, false⟩
  | (some first, c) =>
    if c.atDocumentEnd then ⟨[], c, true⟩
    else
      match moreBreaks (c.rest.length + 1) c with
      | (none, c) => ⟨[], c, true⟩
      | (some others, c) => ⟨folded first others, c, true⟩

/-- The pieces of a plain scalar from a place on, the place after it, and whether a line ended last. -/
def pieces (flow : Bool) (indent : Int) : Nat → Cursor → Bool → List Char × Cursor × Bool
  | 0, c, newLine => ([], c, newLine)
  | n + 1, c, newLine =>
    let word := if c.sees '#' then [] else run flow c.rest
    if word.isEmpty then ([], c, newLine)
    else
      let g := gap (c.skip word.length)
      if g.text.isEmpty || g.after.sees '#' || (!flow && (g.after.column : Int) < indent) then
        (word, g.after, g.newLine)
      else
        let (more, c, newLine) := pieces flow indent n g.after g.newLine
        if more.isEmpty then (word, c, newLine) else (word ++ g.text ++ more, c, newLine)

end Plain

/-- Reads a plain scalar, outside brackets only as far as lines are indented by `indent`. Answers also
whether a line ended after it. -/
def readPlain (flow : Bool) (indent : Int) (c : Cursor) : List Char × Cursor × Bool :=
  Plain.pieces flow indent (c.rest.length + 1) c false

/-! ## Quoted scalars -/

namespace QuotedScalar

/-- The characters that a letter after a backslash stands for. -/
def escapes : List (Char × Char) := [
  ('0', '\x00'), ('a', '\x07'), ('b', '\x08'), ('t', '\t'), ('\t', '\t'), ('n', '\n'), ('v', '\x0B'),
  ('f', '\x0C'), ('r', '\r'), ('e', '\x1B'), (' ', ' '), ('"', '"'), ('\\', '\\'), ('/', '/'),
  ('N', '\x85'), ('_', '\xA0'), ('L', '\u2028'), ('P', '\u2029')
]

/-- How many hexadecimal digits follow a letter after a backslash. -/
def escapeWidth? (c : Char) : Option Nat :=
  if c = 'x' then some 2 else if c = 'u' then some 4 else if c = 'U' then some 8 else none

/-- The value of a hexadecimal digit of ASCII. -/
def hexValue? (c : Char) : Option Nat :=
  if '0' ≤ c && c ≤ '9' then some (c.toNat - 48)
  else if 'a' ≤ c && c ≤ 'f' then some (c.toNat - 87)
  else if 'A' ≤ c && c ≤ 'F' then some (c.toNat - 55)
  else none

/-- The number that the next digits stand for, if there are that many. -/
def hexNumber? (width : Nat) (s : List Char) : Option Nat :=
  if s.length < width then none
  else (s.take width).foldl (fun n c => n.bind fun n => (hexValue? c).map (16 * n + ·)) (some 0)

/-- The character with a code point. Half of a surrogate pair is no character by itself. -/
def ofCodePoint (code : Nat) : Except Failure Char :=
  if 0x110000 ≤ code then .error (.scalar (.character (0x80000000 ≤ code)))
  else if 0xD800 ≤ code && code < 0xE000 then .ok '\uFFFD'
  else .ok (Char.ofNat code)

/-- Line breaks and the blanks around them, inside quotes. -/
def breaks : Nat → Cursor → Except Failure (List Char × Cursor)
  | 0, c => .ok ([], c)
  | n + 1, c =>
    if c.atDocumentEnd then badToken
    else
      match (c.skipWhile fun ch => ch == ' ' || ch == '\t').takeBreak with
      | (none, c) => .ok ([], c)
      | (some b, c) => (breaks n c).map fun (bs, c) => (b :: bs, c)

/-- An escape, of which the backslash has been read. -/
def escape (c : Cursor) : Except Failure (List Char × Cursor) :=
  match c.next with
  | none => badToken
  | some ch =>
    match escapes.lookup ch, escapeWidth? ch with
    | some meant, _ => .ok ([meant], c.step)
    | none, some width =>
      match hexNumber? width c.step.rest with
      | none => badToken
      | some code => (ofCodePoint code).map fun meant => ([meant], c.step.skip width)
    | none, none =>
      match c.takeBreak with
      | (none, _) => badToken
      | (some _, c) => breaks (c.rest.length + 1) c

/-- The blanks at a place inside quotes, over the ends of lines. -/
def blanks (c : Cursor) : Except Failure (List Char × Cursor) :=
  let (spaces, c) := c.spanWhile fun ch => ch == ' ' || ch == '\t'
  match c.next with
  | none => badToken
  | some _ =>
    match c.takeBreak with
    | (none, c) => .ok (spaces, c)
    | (some first, c) => (breaks (c.rest.length + 1) c).map fun (others, c) => (folded first others, c)

/-- The characters between quotes from a place on, and the place after the closing quote. -/
def body (double : Bool) : Nat → Cursor → Except Failure (List Char × Cursor)
  | 0, _ => badToken
  | n + 1, c =>
    let quote := if double then '"' else '\''
    let andThen (part : List Char) (c : Cursor) : Except Failure (List Char × Cursor) :=
      (body double n c).map fun (more, c) => (part ++ more, c)
    match c.rest with
    | [] => badToken
    | ch :: r =>
      if !double && ch == '\'' && r.head? == some '\'' then andThen ['\''] (c.skip 2)
      else if ch == quote then .ok ([], c.step)
      else if double && ch == '\\' then (escape c.step).bind fun (part, c) => andThen part c
      else if ch == ' ' || ch == '\t' || isBreak ch then (blanks c).bind fun (part, c) => andThen part c
      else andThen [ch] c.step

end QuotedScalar

/-- Reads a quoted scalar from its opening quote. -/
def readQuoted (double : Bool) (c : Cursor) : Except Failure (List Char × Cursor) :=
  QuotedScalar.body double (c.rest.length + 1) c.step

/-! ## Block scalars -/

namespace Block

/-- What becomes of the line breaks at the end of a block. -/
inductive Chomping
  | clip | strip | keep
  deriving DecidableEq, Repr

/-- The number that a digit of an indentation stands for; zero is none. -/
def indentDigit? (c : Char) : Option Nat :=
  if '0' ≤ c && c ≤ '9' then some (c.toNat - 48) else none

/-- The sign for the chomping. -/
def chompingOf? (c : Char) : Option Chomping :=
  if c = '+' then some .keep else if c = '-' then some .strip else none

/-- A digit for the indentation, if there is one. -/
def takeIndent (c : Cursor) : Except Failure (Option Nat × Cursor) :=
  match c.next.bind indentDigit? with
  | none => .ok (none, c)
  | some 0 => badToken
  | some n => .ok (some n, c.step)

/-- A sign for the chomping, if there is one. -/
def takeChomping (c : Cursor) : Option Chomping × Cursor :=
  match c.next.bind chompingOf? with
  | none => (none, c)
  | some s => (some s, c.step)

/-- The signs after the sign of the style, in either order. -/
def header (c : Cursor) : Except Failure (Chomping × Option Nat × Cursor) := do
  let (early, c) := takeChomping c
  let (indent, c) ← takeIndent c
  let (late, c) := if early.isSome || indent.isNone then (none, c) else takeChomping c
  if !endsWord c.next then badToken
  let c := c.skipSpaces.skipComment
  if !endsLine c.next then badToken
  return (((early.or late).getD .clip), indent, c.takeBreak.2)

/-- Empty lines before the text, and the deepest column of their spaces. -/
def leading : Nat → Cursor → Nat → List Char × Nat × Cursor
  | 0, c, deepest => ([], deepest, c)
  | n + 1, c, deepest =>
    if c.sees ' ' then
      let c := c.step
      leading n c (max deepest c.column)
    else
      match c.takeBreak with
      | (none, c) => ([], deepest, c)
      | (some b, c) =>
        let (bs, deepest, c) := leading n c deepest
        (b :: bs, deepest, c)

/-- The spaces of the indentation, at most up to the column. -/
def skipIndent (indent : Nat) : Nat → Cursor → Cursor
  | 0, c => c
  | n + 1, c => if c.column < indent && c.sees ' ' then skipIndent indent n c.step else c

/-- Empty lines between lines of text, with the indentation of the next one. -/
def emptyLines (indent : Nat) : Nat → Cursor → List Char × Cursor
  | 0, c => ([], c)
  | n + 1, c =>
    match (skipIndent indent indent c).takeBreak with
    | (none, c) => ([], c)
    | (some b, c) =>
      let (bs, c) := emptyLines indent n c
      (b :: bs, c)

/-- Begins with a blank. -/
def startsBlank (c : Cursor) : Bool :=
  c.sees ' ' || c.sees '\t'

/-- The lines of a block from a place on, after the empty lines `before`. Answers the text, the break
at the end of its last line, the empty lines after it, and the place after them. -/
def linesFrom (fold : Bool) (indent : Nat) : Nat → List Char → Cursor →
    List Char × Option Char × List Char × Cursor
  | 0, before, c => ([], none, before, c)
  | n + 1, before, c =>
    if c.column ≠ indent || c.next.isNone then ([], none, before, c)
    else
      let plainStart := !startsBlank c
      let (line, c) := c.spanWhile fun ch => !isBreak ch
      let (ending, c) := c.takeBreak
      let (after, c) := emptyLines indent (c.rest.length + 1) c
      if c.column = indent && c.next.isSome then
        let joint :=
          if fold && ending = some '\n' && plainStart && !startsBlank c then
            if after.isEmpty then [' '] else []
          else ending.toList
        let (more, last, left, c) := linesFrom fold indent n after c
        (before ++ line ++ joint ++ more, last, left, c)
      else (before ++ line, ending, after, c)

end Block

/-- Reads a block scalar from the sign of its style, inside nodes that are indented by `indent`. -/
def readBlock (fold : Bool) (indent : Int) (c : Cursor) : Except Failure (List Char × Cursor) := do
  let (chomping, given, c) ← Block.header c.step
  let least := max 1 (indent + 1).toNat
  let (before, indent, c) :=
    match given with
    | some n =>
      let indent := least + n - 1
      let (before, c) := Block.emptyLines indent (c.rest.length + 1) c
      (before, indent, c)
    | none =>
      let (before, deepest, c) := Block.leading (c.rest.length + 1) c 0
      (before, max least deepest, c)
  let (text, ending, after, c) := Block.linesFrom fold indent (c.rest.length + 1) before c
  let ended := if chomping = .strip then text else text ++ ending.toList
  return (if chomping = .keep then ended ++ after else ended, c)

end ProxyTestbed.Yaml
