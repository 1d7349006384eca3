import ProxyTestbed.Outside.World

/-!
# Files

Operations on the file tree of a world. Each one is first asked for, since the system may deny it, and
then done; what goes wrong then is reported as the system does, with the path. Looking whether something
is there needs no leave.
-/

namespace ProxyTestbed

/-- A problem with a path, as it is reported; `shown` is how the system calls the path. -/
def FileProblem.toForeign (p : FileProblem) (shown : String) : Foreign :=
  let system (e : SystemError) : Foreign := .plain (.system e) s!"{p.words}: {shown}"
  match p with
  | missing => system .missing
  | .exists => system .exists
  | notDirectory => system .notDirectory
  | isDirectory => system .isDirectory
  | nameTooLong => system .general
  | zero => .plain (.program .value) p.words

/-- What reading a file answers when it is done without leave. -/
def FileTree.readOrError (t : FileTree) (path : Path) : Except Foreign Bytes :=
  (t.read path).mapError fun p => p.toForeign (Text.quoted path.toString)

namespace Files

variable {σ τ : Type}

/-- Changes the file tree, or reports why not. -/
def change (shown : String) (f : FileTree → Except FileProblem FileTree) : Act σ τ Unit := fun w =>
  match f w.files with
  | .ok files => .ok () { w with files }
  | .error p => .error (.foreign (p.toForeign shown)) w

/-- Looks at the file tree, or reports why not. -/
def look {α : Type} (shown : String) (f : FileTree → Except FileProblem α) : Act σ τ α := fun w =>
  match f w.files with
  | .ok a => .ok a w
  | .error p => .error (.foreign (p.toForeign shown)) w

def isThere (path : Path) : Act σ τ Bool :=
  look (Text.quoted path.toString) fun t => t.hasEntry path

def isDirectory (path : Path) : Act σ τ Bool := fun w =>
  .ok (w.files.hasDirectory path) w

def resolve (path : Path) : Act σ τ Path :=
  look (Text.quoted path.toString) fun t =>
    if path.hasZero then .error .zero else .ok (t.resolve path)

variable [Host σ τ]

/-- Makes a directory in one that is there; a report calls its path by a text. -/
def makeDirectoryCalled (text : String) (path : Path) : Act σ τ Unit := do
  ask (.file .makeDirectory path)
  change (Text.quoted text) fun t => t.makeDirectory path

def makeDirectory (path : Path) : Act σ τ Unit :=
  makeDirectoryCalled path.toString path

/-- Makes a directory where something may already be, if that is allowed to be a directory. -/
def makeDirectoryOr (existing : Bool) (path : Path) : Act σ τ Unit := do
  match ← attempt (makeDirectory path) with
  | .ok () => pure ()
  | .error e =>
    if e.comesFrom Foreign.isSystem && !e.comesFrom Foreign.isMissing && existing && (← isDirectory path) then pure ()
    else throw e

/-- Makes a directory and the missing ones above it, of which there are at most `depth`. -/
def makeDirectoriesFrom : Nat → Bool → Path → Act σ τ Unit
  | 0, existing, path => makeDirectoryOr existing path
  | depth + 1, existing, path => do
    match ← attempt (makeDirectoryOr existing path) with
    | .ok () => pure ()
    | .error e =>
      if e.comesFrom Foreign.isMissing && path.parent ≠ path then
        makeDirectoriesFrom depth true path.parent
        makeDirectoryOr existing path
      else throw e

/-- Makes a directory and the missing ones above it. With `existing` it may be there already. -/
def makeDirectories (existing : Bool) (path : Path) : Act σ τ Unit :=
  makeDirectoriesFrom path.names.length existing path

def write (path : Path) (content : Bytes) : Act σ τ Unit := do
  ask (.file .write path)
  change (Text.quoted path.toString) fun t => t.write path content

def read (path : Path) : Act σ τ Bytes := do
  ask (.file .read path)
  look (Text.quoted path.toString) fun t => t.read path

def list (path : Path) : Act σ τ (List String) := do
  ask (.file .list path)
  look (Text.quoted path.toString) fun t => t.list path

def setMode (path : Path) (mode : Nat) : Act σ τ Unit := do
  ask (.file .setMode path)
  change (Text.quoted path.toString) fun t => t.setMode path mode

/-- Deletes a file, unless nothing is there. -/
def discard (path : Path) : Act σ τ Unit := do
  match ← attempt (do ask (.file .delete path); change (Text.quoted path.toString) fun t => t.delete path)
  with
  | .ok () => pure ()
  | .error e => if e.comesFrom Foreign.isMissing then pure () else throw e

/-- Deletes a directory with all that is in it. What is no directory is reported as a path, not by its
name. -/
def deleteTree (path : Path) : Act σ τ Unit := do
  ask (.file .deleteTree path)
  change s!"PosixPath({Text.quoted path.toString})" fun t => t.deleteDirectory path

end Files

end ProxyTestbed
