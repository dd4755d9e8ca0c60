import Bundling.Cli.Args
import Bundling.Config
import Bundling.Manifest
import Bundling.Diagnostic.Json
import Bundling.Plan.Json
import Bundling.Plan.Render
import Bundling.Stage.Catalogue
import Bundling.Workspace
import Bundling.Json.Print

/-!
# Running `bundleplan`

The commands of the program over a file system: planning a project, resolving an aliased
specifier, filtering diagnostics read as JSON lines, and describing the stages.

## Main definitions

- `CommandError` — why a command failed, with its description
- `loadConfig`, `loadSettings`, `declaredDependencies` — what a project root holds
- `planCommand`, `resolveCommand`, `filterCommand`, `explainText`, `stageList`
- `Outcome`, `run` — the exit status and printed text of a run

## Design notes

The project root is made canonical before anything is read from it. A missing
`bundleplan.toml` leaves the defaults, and a missing `package.json` (or one that is a
directory) declares nothing. A command that fails prints nothing and exits with status 1;
arguments that are refused exit with status 2.
-/

namespace Bundling

namespace Cli

/-- **Why a command failed.** -/
inductive CommandError where
  | build (e : BuildError)
  | config (path : String) (e : ConfigError)
  | file (context : String) (e : IoError)
  | malformed (context : String)
  | unknownStage (key : String)

/-- The description of a failed command. -/
def CommandError.message : CommandError → String
  | .build e => e.message
  | .config path .invalid => "load bundleplan.toml config: parse config file " ++ path ++ ": invalid TOML"
  | .config _ e => e.message
  | .file context e => context ++ ": " ++ e.message
  | .malformed context => context
  | .unknownStage key =>
    "Unknown stage: '" ++ key ++ "'\n\nAvailable stages: " ++ ", ".intercalate StageExplanation.keys

section Commands

variable {m : Type → Type} [Monad m]

/-- A file operation whose failure is described in a context. -/
def fileStep {α : Type} (context : String) (x : m (Except IoError α)) : ExceptT CommandError m α :=
  ExceptT.mk do return (← x).mapError (CommandError.file context)

/-- A step that cannot touch the file system. -/
def pureStep {α : Type} (x : Except CommandError α) : ExceptT CommandError m α :=
  ExceptT.mk (pure x)

/-- **The configuration of a project root**: `bundleplan.toml` if it exists, else none. -/
def loadConfig (fs : FileSystem m) (root : String) : ExceptT CommandError m Config := do
  let path := Path.join root configFileName
  if !(← fs.pathExists path) then return {}
  let text ← fileStep ("load bundleplan.toml config: read config file " ++ path) (fs.readText path)
  pureStep ((Config.parse text).mapError (CommandError.config path))

/-- **The settings of a project root** and its configuration. -/
def loadSettings (fs : FileSystem m) (root : String) : ExceptT CommandError m (Settings × Config) := do
  let c ← loadConfig fs root
  let s ← pureStep ((c.toSettings root).mapError (CommandError.config (Path.join root configFileName)))
  return (s, c)

/-- **The dependencies a project root declares** in `package.json`. -/
def declaredDependencies (fs : FileSystem m) (root : String) : ExceptT CommandError m TextSet := do
  let path := Path.join root "package.json"
  if !(← fs.isFile path) then return TextSet.empty
  let text ← fileStep "read declared dependencies" (fs.readText path)
  match Manifest.dependencies? text with
  | some d => return d
  | none => throw (.malformed ("read declared dependencies: parse " ++ path))

/-- The canonical project root. -/
def projectRoot (fs : FileSystem m) (root : String) : ExceptT CommandError m String :=
  fileStep ("project root " ++ root) (fs.canonicalize root)

/-- **`plan`**: the plan of the project's targets, printed in a format or written as
`plan.json` and `plan.md` into a directory. -/
def planCommand (rx : RegexLib) (fs : FileSystem m) (o : PlanOptions) :
    ExceptT CommandError m String := do
  let mode := Text.trim (o.mode.getD "")
  if mode.isEmpty then throw (.build .missingMode)
  let root ← projectRoot fs o.root
  let (s, c) ← loadSettings fs root
  let declared ← declaredDependencies fs root
  let s := { s with declared := declared }
  let env ← pureStep ((Env.ofInputs mode o.legacy true).mapError .build)
  let env := env.withTypescript (c.typescript? o.typescript)
  let built := if o.targets.isEmpty then s.buildAll rx Planner.builtin env
    else s.buildSelected rx Planner.builtin env o.targets
  let plan ← pureStep (built.mapError .build)
  match o.outDir with
  | some d =>
    fileStep ("create " ++ d) (fs.createDirAll d)
    fileStep ("write " ++ d ++ "/plan.json") (fs.writeText (Path.join d "plan.json") (Json.pretty plan.toJson))
    fileStep ("write " ++ d ++ "/plan.md") (fs.writeText (Path.join d "plan.md") plan.markdown)
    return ""
  | none =>
    return match o.format with
      | .json => Json.pretty plan.toJson ++ "\n"
      | .md => plan.markdown
      | .text => plan.outline

/-- **`resolve`**: the first candidate file of an aliased specifier under the project root,
or that there is none, and whether the specifier names the deduplicated package. -/
def resolveCommand (fs : FileSystem m) (specifier root : String) : ExceptT CommandError m String := do
  let root ← projectRoot fs root
  let (s, _) ← loadSettings fs root
  let table ← pureStep (s.aliasTable.mapError .build)
  let found ← (table.candidates specifier).findM? fun c => fs.isFile (Path.join root c)
  match found with
  | some p => return p ++ "\n"
  | none =>
    let line := "unresolved: " ++ specifier ++ "\n"
    return match s.dedupe with
      | some pkg => if isDeduped pkg specifier then line ++ "deduped: " ++ pkg ++ "\n" else line
      | none => line

/-- The lines of a text: split at line feeds, a final line feed ending the last line, and a
carriage return before a line feed dropped. -/
def inputLines (text : String) : List String :=
  let parts := text.splitOn "\n"
  let parts := if text.endsWith "\n" then parts.dropLast else parts
  parts.map fun l => if l.endsWith "\r" then String.ofList l.toList.dropLast else l

/-- The diagnostics of numbered lines; blank lines are skipped, any other line must be one
diagnostic. -/
def readDiagnostics : List String → Nat → Except CommandError (List Diagnostic)
  | [], _ => .ok []
  | l :: rest, n =>
    if (Text.trim l).isEmpty then readDiagnostics rest (n + 1)
    else
      match Diagnostic.parse? l with
      | some d => (readDiagnostics rest (n + 1)).map (d :: ·)
      | none => .error (.malformed ("parse diagnostic on line " ++ toString n))

/-- **`filter-diagnostics`**: the diagnostics of the input that the project's filter
forwards, one JSON object a line. -/
def filterCommand (rx : RegexLib) (fs : FileSystem m) (root : String) (stdin : m String) :
    ExceptT CommandError m String := do
  let root ← projectRoot fs root
  let (s, _) ← loadSettings fs root
  let filter ← pureStep ((s.diagnosticFilter rx).mapError .build)
  let text ← stdin
  let records ← pureStep (readDiagnostics (inputLines text) 1)
  return String.join ((filter.forward records).map fun d => Json.compact d.toJson ++ "\n")

end Commands

/-- A line of a character repeated 80 times. -/
def ruleLine (c : Char) : String := String.ofList (List.replicate 80 c)

/-- **The description of a stage**: title, key, rule, options and what it does. -/
def explainText (e : StageExplanation) : String :=
  ruleLine '=' ++ "\nSTAGE: " ++ e.title ++ "\n" ++ ruleLine '=' ++ "\n\n" ++
    "Key:     " ++ e.id.key ++ "\nWhen:    " ++ e.id.rule ++ "\nOptions: " ++ e.options ++ "\n\n" ++
    "DESCRIPTION\n" ++ ruleLine '-' ++ "\n" ++ e.description ++ "\n\n"

/-- **The stages in scheduling order**, as a table or as JSON. -/
def stageList : ListFormat → String
  | .text =>
    "Stages in scheduling order:\n\n" ++
      "  KEY" ++ spaces 21 ++ " WHEN\n" ++ "  ---" ++ spaces 21 ++ " ----\n" ++
      String.join (StageExplanation.registry.map fun e =>
        "  " ++ e.id.key ++ " " ++ e.id.rule ++ "\n") ++
      "\nUse 'bundleplan explain <key>' for details.\n"
  | .json =>
    Json.pretty (.arr (StageExplanation.registry.map fun e =>
      .obj [("key", .str e.id.key), ("title", .str e.title), ("when", .str e.id.rule)])) ++ "\n"

/-- **What a run gives**: the exit status, and the texts for standard output and standard
error. -/
structure Outcome where
  code : UInt32
  stdout : String
  stderr : String := ""

/-- The text a command prints. -/
def runCommand {m : Type → Type} [Monad m] (rx : RegexLib) (fs : FileSystem m)
    (stdin : m String) : Command → ExceptT CommandError m String
  | .plan o => planCommand rx fs o
  | .resolve specifier root => resolveCommand fs specifier root
  | .filterDiagnostics root => filterCommand rx fs root stdin
  | .explain key =>
    match StageExplanation.lookup? key with
    | some e => return explainText e
    | none => throw (.unknownStage key)
  | .listStages format => return stageList format

/-- **A run of the program** with arguments, with a library of regular expressions, over a
file system, with the environment's variables and standard input. -/
def run {m : Type → Type} [Monad m] (rx : RegexLib) (fs : FileSystem m) (env : Environment)
    (stdin : m String) (args : List String) : m Outcome := do
  match parseArgs env args with
  | .print text => return ⟨0, text, ""⟩
  | .refuse msg => return ⟨2, "", "error: " ++ msg ++ "\n"⟩
  | .run c =>
    match ← (runCommand rx fs stdin c).run with
    | .ok out => return ⟨0, out, ""⟩
    | .error e => return ⟨1, "", "Error: " ++ e.message ++ "\n"⟩

end Cli

end Bundling
