import Bundling.Cli.Run

/-!
# The `bundleplan` program

The program itself: the file operations of the operating system, the environment's
variables, standard input and output, and the exit status of a run.
-/

namespace Bundling

/-- A failed system call as a file error. -/
def systemError (e : IO.Error) : IoError := .other (toString e)

/-- Runs a file operation, keeping its failure. -/
def attempt {α : Type} (x : IO α) : IO (Except IoError α) := do
  try return .ok (← x) catch e => return .error (systemError e)

/-- Whether a name opens as something that can be read: a file, not a directory. -/
def readableFile (p : String) : IO Bool := do
  try
    let h ← IO.FS.Handle.mk p .read
    let _ ← h.read 1
    return true
  catch _ => return false

/-- Runs an operation on a name; a name holding the NUL character cannot be given to the
system, and fails the way the system's interface refuses it. -/
def onName {α : Type} (p : String) (act : IO (Except IoError α)) : IO (Except IoError α) :=
  if p.contains '\x00' then return .error IoError.nulInName else act

/-- **The file operations of the operating system.** -/
def systemFileSystem : FileSystem IO where
  canonicalize p := onName p (attempt do return (← IO.FS.realPath p).toString)
  isFile p := if p.contains '\x00' then return false else readableFile p
  pathExists p := do return (← onName p (attempt (IO.FS.realPath p))).isOk
  readText p := onName p (attempt (IO.FS.readFile p))
  createDirAll p := if p.isEmpty then return .ok () else onName p (attempt (IO.FS.createDirAll p))
  writeText p text := onName p (attempt (IO.FS.writeFile p text))

/-- Everything standard input holds. -/
partial def readAll (stream : IO.FS.Stream) (acc : String) : IO String := do
  let line ← stream.getLine
  if line.isEmpty then return acc else readAll stream (acc ++ line)

end Bundling

/-- Runs `bundleplan` with the program's arguments. -/
def main (args : List String) : IO UInt32 := do
  let env : Bundling.Cli.Environment :=
    ⟨← IO.getEnv "NODE_ENV", ← IO.getEnv "BUNDLEPLAN_LEGACY_BUILD"⟩
  let outcome ← Bundling.Cli.run Bundling.RegexLib.literal Bundling.systemFileSystem env
    (do Bundling.readAll (← IO.getStdin) "") args
  IO.print outcome.stdout
  IO.eprint outcome.stderr
  return outcome.code
