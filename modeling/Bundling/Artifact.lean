import Bundling.Target
import Bundling.Text.Path
import Bundling.Text.Sorted
import Bundling.Json.Print
import Bundling.Workspace

/-!
# Artifacts

What a pipeline produces: a module graph (the entry module and the text of every module by
name) for a target, with the output name its entry asked for. An artifact is kept as pretty
JSON in a file named after its output, inside an output directory.

## Main definitions

- `Graph`, `Artifact` — the module graph and the artifact of one target
- `Artifact.stem`, `Artifact.path` — the file an artifact goes to, refused when it leaves the
  output directory
- `Artifact.toJson` — its JSON text
- `Artifact.writeTo` — writing it into an output directory of a file system
-/

namespace Bundling

/-- **A module graph**: the entry module's name and the text of each module by name. -/
structure Graph where
  entry : String
  modules : TextMap String := TextMap.empty

/-- **An artifact**: the graph a target's pipeline produced, with the output name of the
target's entry, if it has one. -/
structure Artifact where
  target : Target
  output : Option String := none
  graph : Graph

namespace Artifact

/-- The name an artifact's file takes, without its extension: the entry's output name, else
the target's name. -/
def stem (a : Artifact) : String :=
  a.output.getD a.target.name

/-- **The file of an artifact** inside `outDir`: `<outDir>/<stem>.json`. A stem that is
absolute or has a `..` component could name a file outside `outDir`, and is refused. -/
def path (outDir : String) (a : Artifact) : Except String String :=
  if Path.leavesBase a.stem then
    .error ("output `" ++ a.stem ++ "` of target " ++ a.target.name ++
      " is not a relative path inside " ++ outDir)
  else .ok (Path.join outDir (a.stem ++ ".json"))

/-- The JSON of a module graph. -/
def graphJson (g : Graph) : Json :=
  .obj [("entry", .str g.entry), ("modules", .ofStringFields g.modules.toList)]

/-- **The JSON of an artifact**: `target`, then `output` when there is one, then `graph`. -/
def toJson (a : Artifact) : Json :=
  .obj ([("target", .str a.target.name)] ++
    (match a.output with
      | some o => [("output", .str o)]
      | none => []) ++
    [("graph", graphJson a.graph)])

/-- **Writing an artifact** into `outDir`: its path, then its missing parent directories,
then the file with the artifact's pretty JSON. The first failure stops and is described. -/
def writeTo {m : Type → Type} [Monad m] (fs : FileSystem m) (outDir : String) (a : Artifact) :
    m (Except String Unit) := do
  match a.path outDir with
  | .error e => return .error e
  | .ok p =>
    let made : Except String Unit ← match Path.parent? p with
      | some parent => do
        match ← fs.createDirAll parent with
        | .ok () => pure (.ok ())
        | .error e => pure (.error ("create parent dir for " ++ p ++
            ": failed to create directory `" ++ parent ++ "`: " ++ e.message))
      | none => pure (.ok ())
    match made with
    | .error e => return .error e
    | .ok () =>
      match ← fs.writeText p (Json.pretty a.toJson) with
      | .ok () => return .ok ()
      | .error e => return .error ("failed to create file `" ++ p ++ "`: " ++ e.message)

end Artifact

end Bundling
