import Bundling.Cli.Spec

/-!
# The arguments of `bundleplan`

The commands of the program and what their arguments ask for: `plan`, `resolve`,
`filter-diagnostics`, `explain` and `list-stages`, with `help`, `--help` and `--version`.

## Main definitions

- `Environment` — the environment variables the program reads
- `PlanOptions`, `Command` — a command with its settled options
- `Invocation` — run a command, print a text, or refuse the arguments
- `commands`, `topHelp`, `versionText` — the command catalogue and its texts
- `parseArgs` — the invocation of an argument list

## Design notes

The build mode falls back to `NODE_ENV` and the legacy switch to `BUNDLEPLAN_LEGACY_BUILD`
when they are not given. A variable read as a switch is off when it is empty or, ignoring
case, one of `n`, `no`, `f`, `false`, `off` or `0`, and on otherwise. `help` followed by
command names prints the help of the last one.
-/

namespace Bundling

namespace Cli

/-- The name the program is run by. -/
def programName : String := "bundleplan"

/-- The program's version line. -/
def versionText : String := "bundleplan 0.1.0\n"

/-- The program's one-line description. -/
def programAbout : String :=
  "Deterministic stage planner for client, server and service-worker bundles."

/-- **The environment variables the program reads.** -/
structure Environment where
  nodeEnv : Option String := none
  legacyBuild : Option String := none

/-- The value of a variable by name. -/
def Environment.get? (e : Environment) (name : String) : Option String :=
  if name == "NODE_ENV" then e.nodeEnv
  else if name == "BUNDLEPLAN_LEGACY_BUILD" then e.legacyBuild
  else none

/-- **A switch read from text**: off when empty or one of the words for no, on otherwise. -/
def switchOf (text : String) : Bool :=
  let lower := String.ofList (text.toList.map Char.toLower)
  !(text.isEmpty || ["n", "no", "f", "false", "off", "0"].contains lower)

/-- Output formats of a plan. -/
inductive PlanFormat where
  | json
  | md
  | text
  deriving DecidableEq, Repr

/-- Output formats of the stage list. -/
inductive ListFormat where
  | text
  | json
  deriving DecidableEq, Repr

/-- **The options of `plan`.** -/
structure PlanOptions where
  root : String := "."
  mode : Option String := none
  legacy : Bool := false
  typescript : Bool := false
  targets : List String := []
  format : PlanFormat := .json
  outDir : Option String := none

/-- **A command with its options.** -/
inductive Command where
  | plan (o : PlanOptions)
  | resolve (specifier root : String)
  | filterDiagnostics (root : String)
  | explain (stage : String)
  | listStages (format : ListFormat)

/-- **What an argument list asks for**: running a command, printing a text (help or the
version), or nothing, because the arguments are wrong. -/
inductive Invocation where
  | run (c : Command)
  | print (text : String)
  | refuse (message : String)

/-- The `--root` option. -/
def rootOption : OptionSpec :=
  { long := "root", valueName := some "ROOT", help := "Project root (default: current directory)",
    defaultValue := some "." }

/-- The arguments of `plan`. -/
def planSpec : CommandSpec where
  name := "plan"
  about := "Plan the stage pipeline of every target"
  options := [rootOption,
    { long := "mode", valueName := some "MODE", help := "Build mode: development or production",
      env := some "NODE_ENV" },
    { long := "legacy", help := "Add the legacy-downleveling stage to the client build",
      env := some "BUNDLEPLAN_LEGACY_BUILD" },
    { long := "typescript", help := "Add the typed-source stage to client and server builds" },
    { long := "target", valueName := some "TARGETS",
      help := "Plan only these targets (repeatable). Default: all three", repeats := true },
    { long := "format", valueName := some "FORMAT", help := "Output format",
      defaultValue := some "json", choices := ["json", "md", "text"] },
    { long := "out-dir", valueName := some "OUT_DIR",
      help := "Write plan.json and plan.md here instead of printing to stdout" }]

/-- The arguments of `resolve`. -/
def resolveSpec : CommandSpec where
  name := "resolve"
  about := "Resolve an aliased import specifier against the project tree"
  options := [rootOption]
  positionals := [{ valueName := "SPECIFIER", help := "Specifier to resolve (e.g., \"components/Foo\")" }]

/-- The arguments of `filter-diagnostics`. -/
def filterSpec : CommandSpec where
  name := "filter-diagnostics"
  about := "Read diagnostics as JSON lines on stdin and print the ones that survive filtering"
  options := [rootOption]

/-- The arguments of `explain`. -/
def explainSpec : CommandSpec where
  name := "explain"
  about := "Explain what a stage does and when it is scheduled"
  positionals :=
    [{ valueName := "STAGE", help := "Stage key (e.g., \"legacy-downlevel\", \"minification\")" }]

/-- The arguments of `list-stages`. -/
def listSpec : CommandSpec where
  name := "list-stages"
  about := "List all stages in scheduling order"
  options :=
    [{ long := "format", valueName := some "FORMAT", help := "Output format (text, json)",
       defaultValue := some "text", choices := ["text", "json"] }]

/-- The arguments of `help`. -/
def helpSpec : CommandSpec where
  name := "help"
  about := "Print this message or the help of the given subcommand(s)"
  positionals := [{ valueName := "COMMAND", help := "Print help for the subcommand(s)", required := false }]
  helpFlag := false

/-- **The commands**, in the order the help lists them. -/
def commands : List CommandSpec :=
  [planSpec, resolveSpec, filterSpec, explainSpec, listSpec, helpSpec]

/-- The command of a name. -/
def command? (name : String) : Option CommandSpec :=
  commands.find? fun c => c.name == name

/-- **The program's help text.** -/
def topHelp : String :=
  let versionRow : Row :=
    ⟨"-V, --version", Terminal.bold "-V" ++ ", " ++ Terminal.bold "--version", "Print version"⟩
  Terminal.strip (programAbout ++ "\n\n" ++ Terminal.heading "Usage:" ++ " " ++
    Terminal.bold programName ++ " <COMMAND>\n\n" ++ Terminal.heading "Commands:" ++ "\n" ++
    columns (commands.map fun c => ⟨c.name, Terminal.bold c.name, c.about⟩) ++
    "\n" ++ Terminal.heading "Options:" ++ "\n" ++ columns [CommandSpec.helpRow, versionRow])

/-- **The help asked for by `help` and command names**: the program's help, or the help of
the command named; a name that is not a command is refused. -/
def helpFor (env : Environment) : List String → Invocation
  | [] => .print topHelp
  | [name] =>
    match command? name with
    | some c => .print (c.help programName env.get?)
    | none => .refuse ("unrecognized subcommand '" ++ name ++ "'")
  | name :: sub :: _ =>
    match command? name with
    | some _ => .refuse ("unrecognized subcommand '" ++ sub ++ "'")
    | none => .refuse ("unrecognized subcommand '" ++ name ++ "'")

/-- The format of a plan by name. -/
def PlanFormat.ofName : String → PlanFormat
  | "md" => .md
  | "text" => .text
  | _ => .json

/-- **The command that matched arguments stand for**, with the environment's fallbacks. -/
def settle (env : Environment) (name : String) (m : Matches) : Command :=
  let root := (m.value? "root").getD "."
  match name with
  | "plan" => .plan {
      root := root
      mode := (m.value? "mode").orElse fun _ => env.nodeEnv
      legacy := m.has "legacy" || (env.legacyBuild.map switchOf).getD false
      typescript := m.has "typescript"
      targets := m.valuesOf "target"
      format := PlanFormat.ofName ((m.value? "format").getD "json")
      outDir := m.value? "out-dir" }
  | "resolve" => .resolve (m.positionals.headD "") root
  | "filter-diagnostics" => .filterDiagnostics root
  | "explain" => .explain (m.positionals.headD "")
  | _ => .listStages (if m.value? "format" == some "json" then .json else .text)

/-- The invocation of a command's arguments. -/
def parseCommand (env : Environment) (c : CommandSpec) (args : List String) : Invocation :=
  if c.name == "help" then helpFor env args
  else
    match c.read args with
    | .ok m => .run (settle env c.name m)
    | .error .help => .print (c.help programName env.get?)
    | .error (.error msg) => .refuse msg

/-- **The invocation of an argument list**: options of the program, then a command and its
arguments. -/
def parseArgs (env : Environment) : List String → Invocation
  | [] => .refuse "a command is required"
  | t :: rest =>
    if t == "--" then .refuse "a command is required"
    else if t == "--help" then .print topHelp
    else if t == "--version" then .print versionText
    else if t.startsWith "--" then .refuse ("unexpected argument '" ++ t ++ "'")
    else if looksLikeOption t then
      if (t.drop 1).startsWith "h" then .print topHelp
      else if (t.drop 1).startsWith "V" then .print versionText
      else .refuse ("unexpected argument '" ++ t ++ "'")
    else
      match command? t with
      | some c => parseCommand env c rest
      | none =>
        if rest.isEmpty && t.isEmpty then .refuse "a command is required"
        else .refuse ("unrecognized subcommand '" ++ t ++ "'")

end Cli

end Bundling
