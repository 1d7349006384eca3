import ProxyTestbed.Yaml.Tag
import ProxyTestbed.Yaml.Token

/-!
# Nodes of a YAML document

The tokens of a text are put together to the tree of one document. An alias stands for the node with
its anchor, and is replaced by it; inside of that node itself it stays a mark, and all collections on the
way to such a mark are numbered.

Reading descends into the document with a bound computed from the length of the text, which every
step that goes deeper or further has to take a token for.
-/

namespace ProxyTestbed.Yaml

inductive Node
  | scalar (tag : Tag) (text : String)
  | sequence (number : Option Nat) (tag : Tag) (items : List Node)
  | mapping (number : Option Nat) (tag : Tag) (entries : List (Node × Node))
  /-- The collection with the number, inside itself. -/
  | again (number : Nat) (isMapping : Bool)

namespace Node

mutual

/-- One of the collections stands inside the node. -/
def leadsTo (around : List Nat) : Node → Bool
  | .again number _ => around.contains number
  | .scalar _ _ => false
  | .sequence _ _ items => anyLeadsTo around items
  | .mapping _ _ entries => entriesLeadTo around entries

def anyLeadsTo (around : List Nat) : List Node → Bool
  | [] => false
  | x :: xs => leadsTo around x || anyLeadsTo around xs

def entriesLeadTo (around : List Nat) : List (Node × Node) → Bool
  | [] => false
  | (k, v) :: es => leadsTo around k || leadsTo around v || entriesLeadTo around es

end

/-- What reading a document keeps track of. -/
structure State where
  stream : TokenStream
  /-- What the handles of tags stand for. -/
  handles : List (String × String)
  anchors : List (String × Node)
  /-- How many collections have begun. -/
  begun : Nat
  /-- The numbers of the collections around the next token. -/
  around : List Nat

/-- A step of reading a document. -/
abbrev Reader := StateT State (Except Failure)

/-- A document is malformed in some part. -/
def malformed {α : Type} (part : Part) : Reader α :=
  throw (.malformed part)

def peek : Reader Token := do
  let s ← get
  let (token, stream) ← s.stream.peek
  set { s with stream }
  return token

/-- Goes past the next token. -/
def take : Reader Token := do
  let s ← get
  let (token, stream) ← s.stream.take
  set { s with stream }
  return token

/-- A node that is not written: nothing. -/
def absent : Node :=
  .scalar (.known .null) ""

/-- The handles that need no directive. -/
def standardHandles : List (String × String) :=
  [("!", "!"), ("!!", tagRoot)]

/-- The tag that is written, with its handle replaced. -/
def resolveTag (written : WrittenTag) : Reader String := do
  match written.handle with
  | none => return written.suffix
  | some handle =>
    match (← get).handles.lookup handle with
    | none => malformed .grammar
    | some start => return start ++ written.suffix

/-- What is written before the content of a node. -/
structure Properties where
  anchor : Option String
  tag : Option String

/-- Anchor and tag before a node, in either order. -/
def readProperties : Reader Properties := do
  match ← peek with
  | .anchor name =>
    let _ ← take
    match ← peek with
    | .tag written =>
      let _ ← take
      return ⟨some name, some (← resolveTag written)⟩
    | _ => return ⟨some name, none⟩
  | .tag written =>
    let _ ← take
    match ← peek with
    | .anchor name =>
      let _ ← take
      return ⟨some name, some (← resolveTag written)⟩
    | _ => return ⟨none, some (← resolveTag written)⟩
  | _ => return ⟨none, none⟩

/-- An anchor that is used for the first time. -/
def checkAnchor (p : Properties) : Reader Unit := do
  let anchors := (← get).anchors
  if p.anchor.any fun name => (anchors.lookup name).isSome then malformed .reference

/-- Gives a node its anchor. -/
def setAnchor (p : Properties) (node : Node) : Reader Unit :=
  match p.anchor with
  | none => pure ()
  | some name => modify fun s => { s with anchors := (name, node) :: s.anchors }

/-- The tag of a node, which an exclamation mark alone leaves open. -/
def tagOr (p : Properties) (open_ : Tag) : Tag :=
  match p.tag with
  | none => open_
  | some "!" => open_
  | some name => .ofName name

/-- A scalar node. -/
def makeScalar (p : Properties) (text : String) (plain : Bool) : Reader Node := do
  let byForm := plain || p.tag = some "!"
  let node := Node.scalar (tagOr p (.known (if byForm then kindOfText text.toList else .str))) text
  checkAnchor p
  setAnchor p node
  return node

/-- A collection node, inside of which its anchor stands for itself. It is numbered if itself or a collection
around it stands inside. -/
def makeCollection {α : Type} (p : Properties) (kind : Kind) (content : Reader α)
    (make : Option Nat → Tag → α → Node) : Reader Node := do
  checkAnchor p
  let { begun := number, around, .. } ← get
  modify fun s => { s with begun := number + 1, around := number :: around }
  setAnchor p (.again number (kind = .map))
  let content ← content
  modify fun s => { s with around }
  let make (number : Option Nat) : Node := make number (tagOr p (.known kind)) content
  let node := if (make none).leadsTo (number :: around) then make (some number) else make none
  setAnchor p node
  return node

/-- A mapping with one entry, for a pair in a sequence. -/
def makePair (content : Reader (Node × Node)) : Reader Node :=
  makeCollection ⟨none, none⟩ .map content fun number tag entry => .mapping number tag [entry]

/-- The node with an alias. -/
def aliased (name : String) : Reader Node := do
  match (← get).anchors.lookup name with
  | none => malformed .reference
  | some node => return node

/-- Where a node may be written. -/
inductive Place
  /-- Inside brackets. -/
  | flow
  | block
  /-- After the sign of a key or value, where the hyphens of a sequence need no indentation. -/
  | entry
  deriving DecidableEq

mutual

def readNode : Nat → Place → Reader Node
  | 0, _ => malformed .grammar
  | n + 1, place => do
    match ← peek with
    | .alias name =>
      let _ ← take
      aliased name
    | _ =>
      let p ← readProperties
      let missing : Reader Node :=
        if p.anchor.isSome || p.tag.isSome then makeScalar p "" true else malformed .grammar
      match ← peek with
      | .entry => if place = .entry then makeCollection p .seq (readUnindented n) .sequence else missing
      | .scalar text plain =>
        let _ ← take
        makeScalar p text (plain && p.tag.isNone)
      | .flowSequence => makeCollection p .seq (do let _ ← take; readFlowItems n true) .sequence
      | .flowMapping => makeCollection p .map (do let _ ← take; readFlowEntries n true) .mapping
      | .blockSequence =>
        if place = .flow then missing
        else makeCollection p .seq (do let _ ← take; readBlockItems n) .sequence
      | .blockMapping =>
        if place = .flow then missing
        else makeCollection p .map (do let _ ← take; readBlockEntries n) .mapping
      | _ => missing

def readBlockItems : Nat → Reader (List Node)
  | 0 => malformed .grammar
  | n + 1 => do
    match ← peek with
    | .entry =>
      let _ ← take
      let item ← match ← peek with
        | .entry | .blockEnd => pure absent
        | _ => readNode n .block
      return item :: (← readBlockItems n)
    | .blockEnd =>
      let _ ← take
      return []
    | _ => malformed .grammar

/-- The items of a block sequence at the indentation of the mapping around it. -/
def readUnindented : Nat → Reader (List Node)
  | 0 => malformed .grammar
  | n + 1 => do
    match ← peek with
    | .entry =>
      let _ ← take
      let item ← match ← peek with
        | .entry | .key | .value | .blockEnd => pure absent
        | _ => readNode n .block
      return item :: (← readUnindented n)
    | _ => return []

def readBlockEntries : Nat → Reader (List (Node × Node))
  | 0 => malformed .grammar
  | n + 1 => do
    match ← peek with
    | .key =>
      let _ ← take
      let key ← readBlockSide n
      let value ← match ← peek with
        | .value =>
          let _ ← take
          readBlockSide n
        | _ => pure absent
      return (key, value) :: (← readBlockEntries n)
    | .blockEnd =>
      let _ ← take
      return []
    | _ => malformed .grammar

/-- A key or a value of a block mapping, after its sign. -/
def readBlockSide : Nat → Reader Node
  | 0 => malformed .grammar
  | n + 1 => do
    match ← peek with
    | .key | .value | .blockEnd => return absent
    | _ => readNode n .entry

/-- The items of a sequence in brackets, with the closing one. -/
def readFlowItems : Nat → Bool → Reader (List Node)
  | 0, _ => malformed .grammar
  | n + 1, first => do
    match ← peek with
    | .flowSequenceEnd =>
      let _ ← take
      return []
    | token =>
      if !first then
        if token = .separator then
          let _ ← take
        else malformed .grammar
      match ← peek with
      | .flowSequenceEnd =>
        let _ ← take
        return []
      | .key =>
        let pair ← makePair do
          let _ ← take
          let key ← match ← peek with
            | .value | .separator | .flowSequenceEnd => pure absent
            | _ => readNode n .flow
          let value ← match ← peek with
            | .value =>
              let _ ← take
              match ← peek with
              | .separator | .flowSequenceEnd => pure absent
              | _ => readNode n .flow
            | _ => pure absent
          return (key, value)
        return pair :: (← readFlowItems n false)
      | _ =>
        let item ← readNode n .flow
        return item :: (← readFlowItems n false)

/-- The entries of a mapping in braces, with the closing one. -/
def readFlowEntries : Nat → Bool → Reader (List (Node × Node))
  | 0, _ => malformed .grammar
  | n + 1, first => do
    match ← peek with
    | .flowMappingEnd =>
      let _ ← take
      return []
    | token =>
      if !first then
        if token = .separator then
          let _ ← take
        else malformed .grammar
      match ← peek with
      | .flowMappingEnd =>
        let _ ← take
        return []
      | .key =>
        let _ ← take
        let key ← match ← peek with
          | .value | .separator | .flowMappingEnd => pure absent
          | _ => readNode n .flow
        let value ← match ← peek with
          | .value =>
            let _ ← take
            match ← peek with
            | .separator | .flowMappingEnd => pure absent
            | _ => readNode n .flow
          | _ => pure absent
        return (key, value) :: (← readFlowEntries n false)
      | _ =>
        let key ← readNode n .flow
        return (key, absent) :: (← readFlowEntries n false)

end

/-! ## Documents -/

/-- The directives before a document; the version must be 1, and nothing may be set twice. -/
def readDirectives : Nat → Bool → List (String × String) → Reader (List (String × String))
  | 0, _, _ => malformed .grammar
  | n + 1, versioned, handles => do
    match ← peek with
    | .version major =>
      let _ ← take
      if versioned || major != 1 then malformed .grammar else readDirectives n true handles
    | .tagHandle handle start =>
      let _ ← take
      if (handles.lookup handle).isSome then malformed .grammar
      else readDirectives n versioned (handles ++ [(handle, start)])
    | .directive =>
      let _ ← take
      readDirectives n versioned handles
    | _ => return handles

/-- Goes past the marks that end a document. -/
def skipDocumentEnds : Nat → Reader Unit
  | 0 => malformed .grammar
  | n + 1 => do
    match ← peek with
    | .documentEnd =>
      let _ ← take
      skipDocumentEnds n
    | _ => return

/-- The beginning of a further document, or of the first one if it has directives or a mark: whether
there is one. -/
def readDocumentStart (bound : Nat) : Reader Bool := do
  skipDocumentEnds bound
  match ← peek with
  | .streamEnd => return false
  | _ =>
    let handles ← readDirectives bound false []
    match ← peek with
    | .documentStart =>
      let _ ← take
      modify fun s => { s with handles := handles ++ standardHandles }
      return true
    | _ => malformed .grammar

/-- The content of a document after its mark. -/
def readContent (bound : Nat) : Reader Node := do
  match ← peek with
  | .version _ | .tagHandle _ _ | .directive | .documentStart | .documentEnd | .streamEnd =>
    return absent
  | _ => readNode bound .block

/-- The root of the only document, if there is one. -/
def readSingle (bound : Nat) : Reader (Option Node) := do
  let root ← match ← peek with
    | .version _ | .tagHandle _ _ | .directive | .documentStart | .streamEnd =>
      if ← readDocumentStart bound then pure (some (← readContent bound)) else pure none
    | _ => pure (some (← readNode bound .block))
  match root with
  | none => return none
  | some root =>
    if (← peek) = .documentEnd then
      let _ ← take
    if ← readDocumentStart bound then malformed .reference else return some root

/-- The document that a text holds, if it holds one. -/
def ofText (text : List Char) : Except Failure (Option Node) :=
  let start : State := ⟨.start text, standardHandles, [], 0, []⟩
  ((readSingle (8 * text.length + 8)).run start).map (·.1)

end Node

end ProxyTestbed.Yaml
