import ProxyTestbed.File.Path
import ProxyTestbed.Text.Utf8

/-!
# The file tree

Directories and files by their place below the root, without links. Names are followed one at a time:
each name but the last must lead to a directory, `..` leads back, and a name of more than 255 bytes
leads nowhere. A name with the character zero is none.

* `entryAt?_set`: a place holds what was put there, and all other places what they held.
* `entryAt?_deleteBelow`: a deletion empties a place and all places below it, and no others.
-/

namespace ProxyTestbed

/-- A place in the file tree: the names from the root. -/
abbrev Location := List String

/-- What is at a place. -/
inductive Entry
  | directory
  | file (content : Bytes) (mode : Nat)
  deriving DecidableEq, Repr

/-- Directories and files, and the directory that relative paths start from. -/
structure FileTree where
  home : Location
  entries : List (Location × Entry)
  deriving Repr

/-- Why an operation on the file tree fails. -/
inductive FileProblem
  | missing | exists | notDirectory | isDirectory | nameTooLong
  /-- A name holds the character zero, so the system is not even asked. -/
  | zero
  deriving DecidableEq, Repr

/-- The words for a problem, with the number of the system for it. -/
def FileProblem.words : FileProblem → String
  | missing => "[Errno 2] No such file or directory"
  | .exists => "[Errno 17] File exists"
  | notDirectory => "[Errno 20] Not a directory"
  | isDirectory => "[Errno 21] Is a directory"
  | nameTooLong => "[Errno 36] File name too long"
  | zero => "embedded null byte"

namespace FileTree

def newFileMode : Nat := 0o644

def maxNameBytes : Nat := 255

/-- What is at a place; the root is a directory. -/
def entryAt? (t : FileTree) (l : Location) : Option Entry :=
  if l = [] then some .directory else (t.entries.find? fun e => e.1 == l).map (·.2)

/-- The tree with an entry at a place. -/
def set (t : FileTree) (l : Location) (e : Entry) : FileTree :=
  { t with entries := (l, e) :: t.entries.filter fun x => x.1 != l }

/-- The tree without a place and all places below it. -/
def deleteBelow (t : FileTree) (l : Location) : FileTree :=
  { t with entries := t.entries.filter fun x => !l.isPrefixOf x.1 }

/-- One step from a directory. The place may be empty. -/
def step (t : FileTree) (here : Location) (name : String) : Except FileProblem Location :=
  match t.entryAt? here with
  | none => .error .missing
  | some (.file _ _) => .error .notDirectory
  | some .directory =>
    if name = ".." then .ok here.dropLast
    else if maxNameBytes < name.utf8ByteSize then .error .nameTooLong
    else .ok (here ++ [name])

/-- The place that names lead to from a place. The last step may lead to an empty place. -/
def follow (t : FileTree) : Location → List String → Except FileProblem Location
  | here, [] => .ok here
  | here, name :: names => do
    let next ← t.step here name
    t.follow next names

/-- The place that the names of a path lead from. -/
def origin (t : FileTree) (p : Path) : Location :=
  match p.anchor with
  | .here | .home => t.home
  | .root | .doubleRoot => []

def place (t : FileTree) (p : Path) : Except FileProblem Location :=
  if p.hasZero then .error .zero else t.follow (t.origin p) p.names

def look (t : FileTree) (p : Path) : Except FileProblem (Location × Entry) := do
  let l ← t.place p
  match t.entryAt? l with
  | none => throw .missing
  | some e => return (l, e)

/-- Something is there. A name that is too long is no answer. -/
def hasEntry (t : FileTree) (p : Path) : Except FileProblem Bool :=
  match t.look p with
  | .ok _ => .ok true
  | .error .nameTooLong => .error .nameTooLong
  | .error _ => .ok false

def hasDirectory (t : FileTree) (p : Path) : Bool :=
  match t.look p with
  | .ok (_, .directory) => true
  | _ => false

/-- Makes a directory in a directory that is there. -/
def makeDirectory (t : FileTree) (p : Path) : Except FileProblem FileTree := do
  let l ← t.place p
  match t.entryAt? l with
  | some _ => throw .exists
  | none => return t.set l .directory

/-- Writes a file, a new one or over one that is there, which keeps its mode. -/
def write (t : FileTree) (p : Path) (content : Bytes) : Except FileProblem FileTree := do
  let l ← t.place p
  match t.entryAt? l with
  | some .directory => throw .isDirectory
  | some (.file _ mode) => return t.set l (.file content mode)
  | none => return t.set l (.file content newFileMode)

def read (t : FileTree) (p : Path) : Except FileProblem Bytes := do
  match ← t.look p with
  | (_, .directory) => throw .isDirectory
  | (_, .file content _) => return content

/-- The mode of what is there, as far as it was set. -/
def mode? (t : FileTree) (p : Path) : Option Nat :=
  match t.look p with
  | .ok (_, .file _ mode) => some mode
  | _ => none

/-- Sets the mode of a file; a directory's is not kept. -/
def setMode (t : FileTree) (p : Path) (mode : Nat) : Except FileProblem FileTree := do
  match ← t.look p with
  | (_, .directory) => return t
  | (l, .file content _) => return t.set l (.file content mode)

def delete (t : FileTree) (p : Path) : Except FileProblem FileTree := do
  match ← t.look p with
  | (_, .directory) => throw .isDirectory
  | (l, .file _ _) => return t.deleteBelow l

/-- Deletes a directory with all that is in it. -/
def deleteDirectory (t : FileTree) (p : Path) : Except FileProblem FileTree := do
  match ← t.look p with
  | (l, .directory) => return t.deleteBelow l
  | (_, .file _ _) => throw .notDirectory

/-- The names in a directory, in the order of their code points. -/
def list (t : FileTree) (p : Path) : Except FileProblem (List String) := do
  match ← t.look p with
  | (_, .file _ _) => throw .notDirectory
  | (l, .directory) =>
    let names := t.entries.filterMap fun e =>
      if e.1.dropLast = l then e.1.getLast? else none
    return names.mergeSort fun a b => !decide (b < a)

/-- The place that names lead to from a place, whatever is there. -/
def lead : Location → List String → Location
  | here, [] => here
  | here, name :: names => lead (if name = ".." then here.dropLast else here ++ [name]) names

/-- The absolute path that a path stands for, with every `..` taken away; nothing needs to be there. -/
def resolve (t : FileTree) (p : Path) : Path :=
  let l := lead (t.origin p) p.names
  if t.home.isPrefixOf l then ⟨.home, l.drop t.home.length⟩ else ⟨.root, l⟩

/-- All entries below a place, with the names from there. -/
def below (t : FileTree) (l : Location) : List (List String × Entry) :=
  t.entries.filterMap fun e =>
    if l.isPrefixOf e.1 && e.1 != l then some (e.1.drop l.length, e.2) else none

theorem entryAt?_set {t : FileTree} {l : Location} (e : Entry) (hl : l ≠ []) (l' : Location) :
    (t.set l e).entryAt? l' = if l' = l then some e else t.entryAt? l' := by
  unfold entryAt? set
  by_cases h' : l' = []
  · subst h'; simp [hl.symm]
  · simp only [h', if_false]
    by_cases h : l' = l
    · subst h; simp
    · have hne : (l == l') = false := by simpa using fun e => h e.symm
      simp only [List.find?_cons, hne, h, if_false]
      congr 1
      rw [List.find?_filter]
      congr 1
      funext x
      by_cases hx : x.1 = l'
      · simp [hx, h]
      · simp [hx]

theorem entryAt?_deleteBelow {t : FileTree} {l l' : Location} (hl : l' ≠ []) :
    (t.deleteBelow l).entryAt? l' = if l.isPrefixOf l' then none else t.entryAt? l' := by
  unfold entryAt? deleteBelow
  simp only [hl, if_false, List.find?_filter]
  split
  · next h =>
    rw [Option.map_eq_none_iff, List.find?_eq_none]
    intro x _ hx
    simp only [beq_iff_eq, decide_eq_true_eq] at hx
    rw [hx.2, h] at hx
    simp at hx
  · next h =>
    congr 1
    congr 1
    funext x
    by_cases hx : x.1 = l'
    · simp [hx, h]
    · simp [hx]

end FileTree

end ProxyTestbed
