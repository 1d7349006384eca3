import ProxyTestbed.Text.Pieces

/-!
# Paths

A path is a list of names and the place that they lead from: the working directory or the root. Empty
names and `.` are dropped when a path is read; `..` is kept. A path that begins with exactly two slashes
keeps both. An absolute path below the working directory does not say where that directory is.
-/

namespace ProxyTestbed

/-- Where a path leads from. -/
inductive Anchor
  /-- The working directory of a relative path. -/
  | here
  /-- The working directory of an absolute path. -/
  | home
  /-- The root, with one slash. -/
  | root
  /-- The root, with two slashes. -/
  | doubleRoot
  deriving DecidableEq, Repr

structure Path where
  anchor : Anchor
  names : List String
  deriving DecidableEq, Repr

namespace Path

/-- The names between the slashes of a text, without empty ones and `.`. -/
private def namesOf (text : String) : List String :=
  ((Text.splitOn '/' text.toList).filter fun name => !(name.isEmpty || name == ['.'])).map
    String.ofList

def ofString (text : String) : Path where
  anchor :=
    match text.toList with
    | '/' :: '/' :: '/' :: _ => .root
    | '/' :: '/' :: _ => .doubleRoot
    | '/' :: _ => .root
    | _ => .here
  names := namesOf text

/-- What stands for the absolute path of the working directory. -/
def homeWord : String := "<root>"

def toString (p : Path) : String :=
  match p.anchor with
  | .here => if p.names.isEmpty then "." else "/".intercalate p.names
  | .home => "/".intercalate (homeWord :: p.names)
  | .root => "/" ++ "/".intercalate p.names
  | .doubleRoot => "//" ++ "/".intercalate p.names

instance : ToString Path := ⟨toString⟩

def isAbsolute (p : Path) : Bool :=
  p.anchor != .here

/-- The second path as seen from the first one; an absolute one stands for itself. -/
def join (p q : Path) : Path :=
  if q.isAbsolute then q else { p with names := p.names ++ q.names }

/-- The path and a text that is read as a path from there. -/
def child (p : Path) (text : String) : Path :=
  p.join (ofString text)

def parent (p : Path) : Path :=
  { p with names := p.names.dropLast }

/-- The first path leads to a place strictly below that of the second one, if neither has a `..`. -/
def isBelow (p q : Path) : Bool :=
  p.anchor == q.anchor && q.names.isPrefixOf p.names && p.names != q.names

def hasZero (p : Path) : Bool :=
  p.names.any fun name => name.toList.contains '\x00'

def name (p : Path) : String :=
  (p.names.getLast?).getD ""

end Path

end ProxyTestbed
