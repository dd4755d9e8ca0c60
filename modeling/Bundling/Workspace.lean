import Bundling.Text.Path

/-!
# Workspaces

The file system as the command line and the artifact writer see it: texts name files and
directories, relative names are read from a current directory. A `FileSystem` lists the
operations they use, over any monad; `Workspace` is a file system held in memory, with the
outcomes a POSIX system gives — a missing component, a file where a directory is needed, a
name that already exists, a directory where a file is needed.

## Main definitions

- `IoError` — why an operation failed, with the system's message
- `FileSystem` — the operations: canonical name, kind, reading, creating directories, writing
- `Workspace` — directories and files in memory, and the current directory
- `Workspace.fileSystem` — the operations on a workspace held in a state

## Design notes

Names are resolved component by component, as the system does: `.` stays, `..` goes up,
and every component before the last must be an existing directory.
-/

namespace Bundling

/-- **Why a file operation failed.** -/
inductive IoError where
  | notFound
  | notADirectory
  | alreadyExists
  | isADirectory
  | nameTooLong
  | other (text : String)
  deriving DecidableEq, Repr

/-- The system's message for a failure. -/
def IoError.message : IoError → String
  | .notFound => "No such file or directory (os error 2)"
  | .notADirectory => "Not a directory (os error 20)"
  | .alreadyExists => "File exists (os error 17)"
  | .isADirectory => "Is a directory (os error 21)"
  | .nameTooLong => "File name too long (os error 36)"
  | .other text => text

/-- The failure of every operation on a name that holds the NUL character, which the system
cannot be given. -/
def IoError.nulInName : IoError := .other "file name contained an unexpected NUL byte"

/-- **The operations on files** that the commands use, in a monad `m`. -/
structure FileSystem (m : Type → Type) where
  /-- The absolute name of an existing file or directory, with `.` and `..` resolved. -/
  canonicalize : String → m (Except IoError String)
  /-- Whether a name is an existing file. -/
  isFile : String → m Bool
  /-- Whether a name exists. -/
  pathExists : String → m Bool
  /-- The text of a file. -/
  readText : String → m (Except IoError String)
  /-- Creates a directory and its missing parents. -/
  createDirAll : String → m (Except IoError Unit)
  /-- Creates or replaces a file. -/
  writeText : String → String → m (Except IoError Unit)

/-- The kind of an existing name. -/
inductive NodeKind where
  | file
  | dir
  deriving DecidableEq, Repr

/-- **A workspace**: the directories and the files with their texts, each named by its
absolute components, and the current directory. The root directory is `[]`. -/
structure Workspace where
  dirs : List (List String)
  files : List (List String × String)
  cwd : List String

namespace Workspace

/-- A workspace holding only the current directory and its ancestors. -/
def fresh (cwd : List String) : Workspace :=
  ⟨(List.range (cwd.length + 1)).map cwd.take, [], cwd⟩

/-- The kind of a name given by absolute components. -/
def kind? (w : Workspace) (p : List String) : Option NodeKind :=
  if w.dirs.contains p then some .dir
  else if (w.files.find? fun f => f.1 == p).isSome then some .file
  else none

/-- The text of an absolute path's string. -/
def render (p : List String) : String :=
  "/" ++ "/".intercalate p

/-- The most bytes of UTF-8 one component of a name may have. -/
def componentLimit : Nat := 255

/-- A name must have fewer bytes of UTF-8 than this. -/
def nameLimit : Nat := 4096

/-- **Resolving components** from a directory: `.` and empty components stay, `..` goes up,
a name must be short enough and exist; a file ends the walk unless nothing follows it. -/
def walk (w : Workspace) : List String → List String → Except IoError (List String)
  | [], cur => .ok cur
  | c :: rest, cur =>
    if c == "" || c == "." then w.walk rest cur
    else if c == ".." then w.walk rest cur.dropLast
    else if c.utf8ByteSize > componentLimit then .error .nameTooLong
    else
      let next := cur ++ [c]
      match w.kind? next with
      | none => .error .notFound
      | some .dir => w.walk rest next
      | some .file => if rest.isEmpty then .ok next else .error .notADirectory

/-- Where reading a name starts: the root for an absolute name, else the current directory. -/
def start (w : Workspace) (p : String) : List String :=
  if Path.isAbsolute p then [] else w.cwd

/-- **Whether a name can be given to the system at all**: it holds no NUL character, it is
not empty, and it is shorter than `nameLimit`. -/
def admissible (p : String) : Except IoError Unit :=
  if p.contains '\x00' then .error IoError.nulInName
  else if p.isEmpty then .error .notFound
  else if p.utf8ByteSize ≥ nameLimit then .error .nameTooLong
  else .ok ()

/-- The absolute components of an existing name. -/
def locate (w : Workspace) (p : String) : Except IoError (List String) := do
  admissible p
  w.walk (Path.segments p) (w.start p)

/-- The existing directory that holds the last component of a name, and that component. -/
def locateParent (w : Workspace) (p : String) : Except IoError (List String × String) :=
  let comps := (Path.segments p).filter (· != "")
  match admissible p with
  | .error e => .error e
  | .ok () =>
    match comps.getLast? with
    | none => .error .alreadyExists
    | some last => do
      let dir ← w.walk comps.dropLast (w.start p)
      if w.kind? dir != some .dir then .error .notADirectory
      else if last.utf8ByteSize > componentLimit then .error .nameTooLong
      else .ok (dir, last)

/-- Creates one directory; its parent must exist. -/
def mkdir (w : Workspace) (p : String) : Except IoError Workspace := do
  let (dir, last) ← w.locateParent p
  if last == "." || last == ".." then throw .alreadyExists
  let target := dir ++ [last]
  match w.kind? target with
  | some _ => throw .alreadyExists
  | none => return { w with dirs := w.dirs ++ [target] }

/-- Whether a name is an existing directory. -/
def isDir (w : Workspace) (p : String) : Bool :=
  match w.locate p with
  | .ok q => w.kind? q == some .dir
  | .error _ => false

/-- **Creating a directory and its parents**: create the directory; when its parent is
missing, create the parent first and try again; a directory that already exists is
success. -/
def createDirAll (w : Workspace) (p : String) (fuel : Nat := p.length + 1) : Except IoError Workspace :=
  if p.isEmpty then .ok w
  else
    match w.mkdir p with
    | .ok w' => .ok w'
    | .error .notFound =>
      match fuel, Path.parent? p with
      | fuel + 1, some parent => do
        let w' ← w.createDirAll parent fuel
        match w'.mkdir p with
        | .ok w'' => .ok w''
        | .error e => if w'.isDir p then .ok w' else .error e
      | _, _ => .error (.other "failed to create whole tree")
    | .error e => if w.isDir p then .ok w else .error e

/-- **Writing a file**: its directory must exist, and the name must not be a directory. -/
def writeText (w : Workspace) (p : String) (text : String) : Except IoError Workspace := do
  let (dir, last) ← w.locateParent p
  if last == "." || last == ".." || p.toList.getLast? == some '/' then throw .isADirectory
  let target := dir ++ [last]
  match w.kind? target with
  | some .dir => throw .isADirectory
  | _ => return { w with files := (w.files.filter fun f => f.1 != target) ++ [(target, text)] }

/-- The text of a file. -/
def readText (w : Workspace) (p : String) : Except IoError String := do
  let q ← w.locate p
  match w.kind? q with
  | some .dir => throw .isADirectory
  | _ =>
    match w.files.find? fun f => f.1 == q with
    | some (_, text) => return text
    | none => throw .notFound

/-- The files below a directory, by their names relative to it, in increasing order. -/
def filesBelow (w : Workspace) (dir : List String) : List (String × String) :=
  let inside := w.files.filterMap fun (p, text) =>
    if dir.isPrefixOf p && p.length > dir.length then some ("/".intercalate (p.drop dir.length), text)
    else none
  inside.mergeSort fun a b => decide (a.1 ≤ b.1)

/-- **The operations on a workspace** held in a state. -/
def fileSystem : FileSystem (StateM Workspace) where
  canonicalize p := do return ((← get).locate p).map render
  isFile p := do
    let w ← get
    return match w.locate p with
      | .ok q => w.kind? q == some .file
      | .error _ => false
  pathExists p := do return ((← get).locate p).isOk
  readText p := do return (← get).readText p
  createDirAll p := do
    match (← get).createDirAll p with
    | .ok w => set w; return .ok ()
    | .error e => return .error e
  writeText p text := do
    match (← get).writeText p text with
    | .ok w => set w; return .ok ()
    | .error e => return .error e

end Workspace

end Bundling
