import Bundling.Host
import Bundling.Planner

/-!
# Build settings and plans of a build

The settings of a build invocation — the project root, the alias table, extensions, the
deduplicated package, the diagnostics policy, declared dependencies, the host runtime and
the entry points — and the plans they produce for a set of targets.

## Main definitions

- `Settings` — everything but the environment that a build depends on
- `Settings.forRoot` — the defaults of a project root
- `Settings.buildTargets` — plan a set of targets
- `Settings.buildAll`, `Settings.buildSelected` — plan all targets, or those named

## Design notes

The alias table is checked before the diagnostics namespace, and both before anything is
planned; target names are checked before either. The library of regular expressions that
compiles the namespace's pattern is a parameter of planning.
-/

namespace Bundling

/-- **The settings of a build.** -/
structure Settings where
  root : String
  aliases : List Alias
  extensions : List String
  dedupe : Option String
  diagnosticCode : String
  frameworkNamespace : String
  declared : TextSet
  host : HostRuntime
  entries : ByTarget Entry

namespace Settings

/-- **The defaults of a project root**: the standard aliases under the root, the default
extensions, `svelte` kept as a single copy, import cycles in `@sapper` dropped, no declared
dependencies, Node 20, and no entry points. -/
def forRoot (root : String) : Settings where
  root := root
  aliases := Alias.standard root
  extensions := defaultExtensions
  dedupe := some defaultDedupe
  diagnosticCode := circularDependency
  frameworkNamespace := defaultNamespace
  declared := TextSet.empty
  host := HostRuntime.node20
  entries := {}

/-- The settings of the current directory. -/
def default : Settings := forRoot "."

/-- The alias table of the settings, built by registering the aliases in order. -/
def aliasTable (s : Settings) : Except BuildError AliasTable :=
  AliasTable.ofEntries s.aliases s.extensions

/-- The diagnostic filter of the settings, made with a library of regular expressions. -/
def diagnosticFilter (s : Settings) (rx : RegexLib) : Except BuildError (DiagnosticFilter rx) :=
  DiagnosticFilter.make rx s.diagnosticCode s.frameworkNamespace

/-- The pipeline of one target: the planner's pipeline with the target's entry point and
external modules. -/
def planTarget (s : Settings) (planner : Planner) (ctx : PlanContext) (t : Target) : Pipeline :=
  { planner.plan t ctx with
    entry := s.entries.get t
    externals := s.host.externalsFor t s.declared }

/-- **Planning a set of targets**: the alias table and then the diagnostic filter are made;
each target is planned under the context they give. The plan records the environment as
given and the registered aliases. -/
def buildTargets (s : Settings) (rx : RegexLib) (planner : Planner) (env : Env)
    (targets : List Target) : Except BuildError Plan := do
  let table ← s.aliasTable
  let filter ← s.diagnosticFilter rx
  let ctx : PlanContext :=
    { env := env, aliases := table, dedupe := s.dedupe, diagnostics := filter.policy }
  return { env := env
           aliases := table.entries
           pipelines := ByTarget.ofList (targets.map fun t => (t, s.planTarget planner ctx t)) }

/-- **Planning every target.** -/
def buildAll (s : Settings) (rx : RegexLib) (planner : Planner) (env : Env) :
    Except BuildError Plan :=
  s.buildTargets rx planner env Target.all

/-- The targets of a list, in target order and each once. -/
def targetSet (ts : List Target) : List Target :=
  Target.all.filter (· ∈ ts)

/-- **Planning the named targets**: each name is trimmed of blank characters and recognised,
the first unknown name failing; the set of targets is then planned. -/
def buildSelected (s : Settings) (rx : RegexLib) (planner : Planner) (env : Env)
    (names : List String) : Except BuildError Plan := do
  let ts ← names.mapM fun n => Target.parse (Text.trim n)
  s.buildTargets rx planner env (targetSet ts)

end Settings

end Bundling
