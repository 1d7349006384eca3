import ProxyTestbed.Yaml.Scalar

/-!
# Tokens of a YAML text

A `TokenStream` reads a text token by token, and only as far as it is asked. It keeps the columns of
the open block collections, the depth of brackets, and the tokens that may turn out to be keys: a key is
recognised by the colon after it, which must follow on the same line and within 1024 characters.

* `peek` answers the next token, `take` also goes past it.
-/

namespace ProxyTestbed.Yaml

/-- A tag as it is written: a handle, if there is one, and the rest. -/
structure WrittenTag where
  handle : Option String
  suffix : String
  deriving DecidableEq, Repr

inductive Token
  | streamEnd
  /-- A version of the language. -/
  | version (major : Nat)
  /-- A handle and what tags with it begin with. -/
  | tagHandle (handle start : String)
  /-- Some other directive. -/
  | directive
  | documentStart
  | documentEnd
  | blockSequence
  | blockMapping
  | blockEnd
  | flowSequence
  | flowMapping
  | flowSequenceEnd
  | flowMappingEnd
  | entry
  /-- A comma. -/
  | separator
  | key
  | value
  | alias (name : String)
  | anchor (name : String)
  | tag (written : WrittenTag)
  | scalar (text : String) (plain : Bool)
  deriving DecidableEq, Repr

/-- A token that may be a key. -/
structure PossibleKey where
  /-- Its number among all tokens. -/
  number : Nat
  /-- It must be a key, for nothing else may begin there. -/
  required : Bool
  index : Nat
  line : Nat
  column : Nat
  deriving Repr

/-- A text that is read token by token. -/
structure TokenStream where
  cursor : Cursor
  /-- The tokens that are read and not yet taken. -/
  queue : List Token
  /-- How many tokens have been taken. -/
  taken : Nat
  done : Bool
  /-- The depth of brackets; below zero after a bracket that closes nothing. -/
  depth : Int
  /-- The column of the innermost block collection, and of those around it. -/
  indent : Int
  outer : List Int
  /-- A key may begin here. -/
  allowsKey : Bool
  /-- The possible key at each depth of brackets. -/
  keys : List (Int × PossibleKey)
  deriving Repr

namespace TokenStream

/-- The stream of the tokens of a text. -/
def start (text : List Char) : TokenStream where
  cursor := .start text
  queue := []
  taken := 0
  done := false
  depth := 0
  indent := -1
  outer := []
  allowsKey := true
  keys := []

/-- The stream with tokens read. -/
def push (s : TokenStream) (tokens : List Token) : TokenStream :=
  { s with queue := s.queue ++ tokens }

def move (s : TokenStream) (c : Cursor) : TokenStream :=
  { s with cursor := c }

/-- Inside brackets, or after more closing ones than opening ones. -/
def inFlow (s : TokenStream) : Bool :=
  s.depth != 0

def column (s : TokenStream) : Int :=
  s.cursor.column

/-! ## Possible keys -/

/-- How far after the beginning of a key its colon may be. -/
def maxKeyLength : Nat := 1024

/-- No colon can follow this key any more. -/
def isStale (s : TokenStream) (k : PossibleKey) : Bool :=
  k.line != s.cursor.line || maxKeyLength < s.cursor.index - k.index

/-- Forgets the possible keys that no colon can follow. -/
def dropStaleKeys (s : TokenStream) : Except Failure TokenStream :=
  if s.keys.any fun e => s.isStale e.2 && e.2.required then badToken
  else .ok { s with keys := s.keys.filter fun e => !s.isStale e.2 }

/-- Forgets the possible key at this depth. -/
def dropKey (s : TokenStream) : Except Failure TokenStream :=
  if s.keys.any fun e => e.1 == s.depth && e.2.required then badToken
  else .ok { s with keys := s.keys.filter fun e => e.1 != s.depth }

/-- Notes that the next token may be a key. -/
def noteKey (s : TokenStream) : Except Failure TokenStream :=
  if !s.allowsKey then .ok s
  else do
    let required := !s.inFlow && s.indent == s.column
    let s ← s.dropKey
    let c := s.cursor
    let k : PossibleKey := ⟨s.taken + s.queue.length, required, c.index, c.line, c.column⟩
    return { s with keys := s.keys ++ [(s.depth, k)] }

/-- The next token may turn out to be a key, so more have to be read before it is taken. -/
def awaitsColon (s : TokenStream) : Bool :=
  s.keys.any fun e => e.2.number == s.taken

/-! ## Indentation -/

/-- Closes the block collections that are indented further than a column. -/
def closeTo (s : TokenStream) (column : Int) : TokenStream :=
  if s.inFlow then s
  else
    let rec go : Int → List Int → List Token → Int × List Int × List Token
      | indent, [], closed => (indent, [], closed)
      | indent, o :: os, closed =>
        if column < indent then go o os (.blockEnd :: closed) else (indent, o :: os, closed)
    let (indent, outer, closed) := go s.indent s.outer []
    { s with indent, outer, queue := s.queue ++ closed }

/-- Opens a block collection at a column, unless one is open there. -/
def openAt (s : TokenStream) (column : Int) : Bool × TokenStream :=
  if s.indent < column then (true, { s with indent := column, outer := s.indent :: s.outer })
  else (false, s)

/-! ## Reading one token -/

/-- The character of a name: ASCII letters, digits, hyphen and underscore. -/
def isNameChar (c : Char) : Bool :=
  ('0' ≤ c && c ≤ '9') || ('A' ≤ c && c ≤ 'Z') || ('a' ≤ c && c ≤ 'z') || c = '-' || c = '_'

/-- The characters of the addresses in tags, besides letters and digits. -/
def addressSigns : List Char := "-;/?:@&=+$,_.!~*'()[]%".toList

/-- The character of an address in a tag. -/
def isAddressChar (c : Char) : Bool :=
  isNameChar c || addressSigns.contains c

/-- Bytes that are written with percent signs, and the place after them. -/
def escapedBytes : Nat → Cursor → Except Failure (Bytes × Cursor)
  | 0, c => .ok ([], c)
  | n + 1, c =>
    if !c.sees '%' then .ok ([], c)
    else
      match QuotedScalar.hexNumber? 2 c.step.rest with
      | none => badToken
      | some code =>
        (escapedBytes n (c.skip 3)).map fun (more, c) => (UInt8.ofNat code :: more, c)

def addressFrom : Nat → Cursor → Except Failure (List Char × Cursor)
  | 0, c => .ok ([], c)
  | n + 1, c =>
    if c.sees '%' then do
      let (bytes, c) ← escapedBytes (c.rest.length + 1) c
      match Text.Utf8.decode bytes with
      | .error _ => badToken
      | .ok part =>
        let (more, c) ← addressFrom n c
        return (part ++ more, c)
    else
      let (part, c) := c.spanWhile fun ch => isAddressChar ch && ch != '%'
      if part.isEmpty then .ok ([], c)
      else (addressFrom n c).map fun (more, c) => (part ++ more, c)

/-- An address in a tag, which is not empty. -/
def readAddress (c : Cursor) : Except Failure (String × Cursor) := do
  let (address, c) ← addressFrom (c.rest.length + 1) c
  if address.isEmpty then badToken else return (String.ofList address, c)

/-- The handle of a tag, between exclamation marks; the second one is missing before a space. -/
def readHandle (c : Cursor) : Except Failure (String × Cursor) :=
  if !c.sees '!' then badToken
  else if c.ahead 1 == some ' ' then .ok ("!", c.step)
  else
    let (name, after) := c.step.spanWhile isNameChar
    if after.sees '!' then .ok (String.ofList ('!' :: name ++ ['!']), after.step) else badToken

def readTag (c : Cursor) : Except Failure (Token × Cursor) := do
  let (written, c) ←
    if c.ahead 1 == some '<' then do
      let (suffix, c) ← readAddress (c.skip 2)
      if c.sees '>' then pure ((⟨none, suffix⟩ : WrittenTag), c.step) else badToken
    else if endsToken (c.ahead 1) then pure (⟨none, "!"⟩, c.step)
    else do
      let word := c.step.rest.takeWhile fun ch => !endsWord (some ch)
      let (handle, c) ← if word.contains '!' then readHandle c else pure ("!", c.step)
      let (suffix, c) ← readAddress c
      pure (⟨some handle, suffix⟩, c)
  if endsWord c.next then return (.tag written, c) else badToken

/-- The name of an anchor or alias, after its sign. -/
def readName (c : Cursor) : Except Failure (String × Cursor) :=
  let (name, after) := c.step.spanWhile isNameChar
  let ends := endsToken after.next || after.next.any fun ch => "?:,]\x7d%@`".toList.contains ch
  if name.isEmpty || !ends then badToken else .ok (String.ofList name, after)

def readNumber (c : Cursor) : Except Failure (Nat × Cursor) :=
  let (digits, c) := c.spanWhile fun ch => '0' ≤ ch && ch ≤ '9'
  if digits.isEmpty then badToken
  else .ok (digits.foldl (fun n ch => 10 * n + (ch.toNat - 48)) 0, c)

/-- A directive, with the rest of its line. -/
def readDirective (c : Cursor) : Except Failure (Token × Cursor) := do
  let (name, c) := c.step.spanWhile isNameChar
  if name.isEmpty || !endsWord c.next then badToken
  let (token, c) ←
    if name = "YAML".toList then do
      let (major, c) ← readNumber c.skipSpaces
      if !c.sees '.' then badToken
      let (_, c) ← readNumber c.step
      if !endsWord c.next then badToken
      pure (Token.version major, c)
    else if name = "TAG".toList then do
      let (handle, c) ← readHandle c.skipSpaces
      if !c.sees ' ' then badToken
      let (start, c) ← readAddress c.skipSpaces
      if !endsWord c.next then badToken
      pure (Token.tagHandle handle start, c)
    else pure (Token.directive, c.skipWhile fun ch => !isBreak ch)
  let c := c.skipSpaces.skipComment
  if !endsLine c.next then badToken
  return (token, c.takeBreak.2)

/-! ## Reading tokens into the queue -/

/-- Goes over blanks, comments and line ends; a key may begin on a new line outside brackets. -/
def skipGap : Nat → TokenStream → TokenStream
  | 0, s => s
  | n + 1, s =>
    match s.cursor.skipSpaces.skipComment.takeBreak with
    | (none, c) => s.move c
    | (some _, c) => skipGap n { s with cursor := c, allowsKey := s.allowsKey || !s.inFlow }

/-- Goes to the next token; a byte order mark at the very beginning does not count. -/
def skipToToken (s : TokenStream) : TokenStream :=
  let c := s.cursor
  let c := if c.index = 0 && c.sees '\uFEFF' then c.step else c
  skipGap (c.rest.length + 1) (s.move c)

def fetchEnd (s : TokenStream) : Except Failure TokenStream := do
  let s ← (s.closeTo (-1)).dropKey
  return { s.push [.streamEnd] with allowsKey := false, keys := [], done := true }

/-- A directive or a mark between documents, which closes all block collections. -/
def fetchOutside (s : TokenStream) (read : Cursor → Except Failure (Token × Cursor)) :
    Except Failure TokenStream := do
  let s ← (s.closeTo (-1)).dropKey
  let (token, c) ← read s.cursor
  return { s.push [token] with allowsKey := false, cursor := c }

/-- An opening bracket, which may begin a key. -/
def fetchOpening (s : TokenStream) (token : Token) : Except Failure TokenStream := do
  let s ← s.noteKey
  return { s.push [token] with depth := s.depth + 1, allowsKey := true, cursor := s.cursor.step }

def fetchClosing (s : TokenStream) (token : Token) : Except Failure TokenStream := do
  let s ← s.dropKey
  return { s.push [token] with depth := s.depth - 1, allowsKey := false, cursor := s.cursor.step }

def fetchSeparator (s : TokenStream) : Except Failure TokenStream := do
  let s ← s.dropKey
  return { s.push [.separator] with allowsKey := true, cursor := s.cursor.step }

/-- Opens a block collection here, where a key must be allowed. -/
def openHere (s : TokenStream) (opening : Token) : Except Failure TokenStream :=
  if s.inFlow then .ok s
  else if !s.allowsKey then badToken
  else
    match s.openAt s.column with
    | (true, s) => .ok (s.push [opening])
    | (false, s) => .ok s

/-- The hyphen of a block sequence. -/
def fetchEntry (s : TokenStream) : Except Failure TokenStream := do
  let s ← (← s.openHere .blockSequence).dropKey
  return { s.push [.entry] with allowsKey := true, cursor := s.cursor.step }

/-- The question mark of a mapping. -/
def fetchKey (s : TokenStream) : Except Failure TokenStream := do
  let s ← (← s.openHere .blockMapping).dropKey
  return { s.push [.key] with allowsKey := !s.inFlow, cursor := s.cursor.step }

/-- The colon of a mapping. If a key is possible at this depth it is one now, and the mark of a key,
perhaps of a whole mapping, goes before it. -/
def fetchValue (s : TokenStream) : Except Failure TokenStream :=
  match s.keys.lookup s.depth with
  | some k =>
    let place := k.number - s.taken
    let (opened, s) := if s.inFlow then (false, s) else s.openAt k.column
    let marks := if opened then [Token.blockMapping, .key] else [.key]
    let queue := s.queue.take place ++ marks ++ s.queue.drop place
    .ok { s with
      keys := s.keys.filter fun e => e.1 != s.depth
      queue := queue ++ [.value]
      allowsKey := false
      cursor := s.cursor.step }
  | none => do
    let s ← s.openHere .blockMapping
    return { s.push [.value] with allowsKey := !s.inFlow, cursor := s.cursor.step }

/-- A token that may be a key: an anchor, an alias, a tag or a scalar on one line. -/
def fetchWord (s : TokenStream) (read : Cursor → Except Failure (Token × Cursor)) :
    Except Failure TokenStream := do
  let s ← s.noteKey
  let (token, c) ← read s.cursor
  return { s.push [token] with allowsKey := false, cursor := c }

/-- A plain scalar; a key may begin on the line after it. -/
def fetchPlain (s : TokenStream) : Except Failure TokenStream := do
  let s ← s.noteKey
  let (text, c, newLine) := readPlain s.inFlow (s.indent + 1) s.cursor
  return { s.push [.scalar (String.ofList text) true] with allowsKey := newLine, cursor := c }

/-- A block scalar, which is no key. -/
def fetchBlock (s : TokenStream) (fold : Bool) : Except Failure TokenStream := do
  let s ← s.dropKey
  let (text, c) ← readBlock fold s.indent s.cursor
  return { s.push [.scalar (String.ofList text) false] with allowsKey := true, cursor := c }

/-- The characters that no plain scalar begins with, besides blanks. -/
def indicators : List Char := "-?:,[]\x7b\x7d#&*!|>'\"%@`".toList

/-- A plain scalar begins here. -/
def atPlain (s : TokenStream) (ch : Char) : Bool :=
  (!endsToken (some ch) && !indicators.contains ch) ||
    (!endsToken (s.cursor.ahead 1) && (ch = '-' || (!s.inFlow && (ch = '?' || ch = ':'))))

/-- Reads the mark of three characters between documents. -/
def readMark (token : Token) (c : Cursor) : Except Failure (Token × Cursor) :=
  .ok (token, c.skip 3)

/-- Reads a quoted scalar as a token. -/
def readQuotedToken (double : Bool) (c : Cursor) : Except Failure (Token × Cursor) :=
  (readQuoted double c).map fun (text, c) => (.scalar (String.ofList text) false, c)

/-- Reads the next token, and those that its place implies, into the queue. -/
def fetch (s : TokenStream) : Except Failure TokenStream := do
  let s ← s.skipToToken.dropStaleKeys
  let s := s.closeTo s.column
  let c := s.cursor
  match c.next with
  | none => s.fetchEnd
  | some ch =>
    let first := c.column = 0
    let alone := endsToken (c.ahead 1)
    if first && ch = '%' then s.fetchOutside readDirective
    else if first && c.atSeparator '-' then s.fetchOutside (readMark .documentStart)
    else if first && c.atSeparator '.' then s.fetchOutside (readMark .documentEnd)
    else if ch = '[' then s.fetchOpening .flowSequence
    else if ch = '{' then s.fetchOpening .flowMapping
    else if ch = ']' then s.fetchClosing .flowSequenceEnd
    else if ch = '}' then s.fetchClosing .flowMappingEnd
    else if ch = ',' then s.fetchSeparator
    else if ch = '-' && alone then s.fetchEntry
    else if ch = '?' && (s.inFlow || alone) then s.fetchKey
    else if ch = ':' && (s.inFlow || alone) then s.fetchValue
    else if ch = '*' then
      s.fetchWord fun c => (readName c).map fun (name, c) => (.alias name, c)
    else if ch = '&' then
      s.fetchWord fun c => (readName c).map fun (name, c) => (.anchor name, c)
    else if ch = '!' then s.fetchWord readTag
    else if ch = '|' && !s.inFlow then s.fetchBlock false
    else if ch = '>' && !s.inFlow then s.fetchBlock true
    else if ch = '\'' then s.fetchWord (readQuotedToken false)
    else if ch = '"' then s.fetchWord (readQuotedToken true)
    else if s.atPlain ch then s.fetchPlain
    else badToken

/-- Reads tokens until the next one is certain. Every turn but the last takes a character. -/
def fill : Nat → TokenStream → Except Failure TokenStream
  | 0, s => .ok s
  | n + 1, s =>
    if s.done then .ok s
    else if s.queue.isEmpty then s.fetch.bind (fill n)
    else do
      let s ← s.dropStaleKeys
      if s.awaitsColon then (← s.fetch).fill n else return s

/-- The next token; the end of the text is never gone past. -/
def peek (s : TokenStream) : Except Failure (Token × TokenStream) := do
  let s ← s.fill (s.cursor.rest.length + 2)
  return (s.queue.head?.getD .streamEnd, s)

/-- The next token, and the stream after it. -/
def take (s : TokenStream) : Except Failure (Token × TokenStream) := do
  let (token, s) ← s.peek
  return (token, { s with queue := s.queue.tail, taken := s.taken + 1 })

end TokenStream

end ProxyTestbed.Yaml
