import Bundling.Plan.Basic

/-!
# Planning a target

Each stage has a rule that says for which targets and environments it is scheduled, and
a way to derive its options from the target and the planning context. A planner holds a
list of stages; planning a target keeps, in list order, the stages whose rule holds under
the environment as the target sees it, and numbers them from one.

## Main definitions

- `PlanContext` — environment, alias table, deduplicated package, diagnostics policy
- `StageId.appliesTo` — the scheduling rule of a stage
- `StageId.optionsFor` — the options of a stage for a target
- `StageId.rule` — the rule in words
- `Planner.plan` — the pipeline of one target

## Design notes

The built-in planner lists all eight stages in scheduling order. A planner may list any
stages, in any order and with repetitions; each is planned by its own rule.
-/

namespace Bundling

/-- The package kept as a single copy by default. -/
def defaultDedupe : String := "svelte"

/-- **What planning needs besides the target.** -/
structure PlanContext where
  env : Env
  aliases : AliasTable
  dedupe : Option String := some defaultDedupe
  diagnostics : Suppression := ⟨circularDependency, defaultNamespace⟩

namespace StageId

/-- **The scheduling rule of a stage**, for a target under the environment the target sees:
alias resolution, environment substitution, module resolution and interop normalization
always; component compilation for client and server; typed source for client and server
when sources are typed; legacy downleveling for the client of a legacy build;
minification for client and service worker in production. -/
def appliesTo : StageId → Target → Env → Bool
  | aliasResolution, _, _ => true
  | envSubstitution, _, _ => true
  | componentCompilation, t, _ => t != .serviceworker
  | moduleResolution, _, _ => true
  | interopNormalization, _, _ => true
  | typedSource, t, e => e.typescript && t != .serviceworker
  | legacyDownlevel, t, e => e.legacy && t == .client
  | minification, t, e => e.mode == .production && t != .server

/-- The replacements of environment substitution: the browser flag and the build mode,
the mode written as a quoted literal. -/
def replacementsFor (e : Env) : TextMap String :=
  (TextMap.empty.insert "process.browser" (if e.browser then "true" else "false")).insert
    "process.env.NODE_ENV" ("\"" ++ e.mode.name ++ "\"")

/-- The file extensions the legacy build transpiles. -/
def legacyExtensions : List String := [".js", ".mjs", ".html", ".svelte", ".ts"]

/-- **The options of a stage** for a target; the context's environment is the one the
target sees. -/
def optionsFor : StageId → Target → PlanContext → StageOptions
  | aliasResolution, _, ctx => .aliasResolution ctx.aliases.entries ctx.aliases.extensions
  | envSubstitution, _, ctx => .envSubstitution (replacementsFor ctx.env)
  | componentCompilation, t, ctx =>
    .componentCompilation (if t == .client then .dom else .ssr) ctx.env.isDev (t == .client)
      (t == .client) true
  | moduleResolution, t, ctx =>
    match t with
    | .client => .moduleResolution true ctx.dedupe
    | .server => .moduleResolution false ctx.dedupe
    | .serviceworker => .moduleResolution false none
  | interopNormalization, _, _ => .interopNormalization
  | typedSource, _, _ => .typedSource false
  | legacyDownlevel, _, _ =>
    .legacyDownlevel legacyExtensions true ["node_modules/@babel/**"] "> 0.25%, not dead"
      ["syntax-dynamic-import", "transform-runtime:esm"]
  | minification, t, _ => .minification (t == .client)

/-- **The rule of a stage in words.** -/
def rule : StageId → String
  | aliasResolution => "always, first, for every target"
  | envSubstitution => "always, second, for every target; browser flag follows the target runtime"
  | componentCompilation => "client (hydratable, CSS-emitting) and server (SSR); never serviceworker"
  | moduleResolution =>
    "always; client and server dedupe the UI framework, client resolves browser fields"
  | interopNormalization => "always, for every target"
  | typedSource => "client and server when typescript is enabled, after interop-normalization"
  | legacyDownlevel => "client only, when the legacy build flag is set"
  | minification => "client and serviceworker in production; never server"

/-- The options a stage derives always belong to that stage. -/
@[simp] theorem id_optionsFor (id : StageId) (t : Target) (ctx : PlanContext) :
    (id.optionsFor t ctx).id = id := by
  cases id <;> try rfl
  cases t <;> rfl

end StageId

/-- **A planner**: the stages it considers, in order. -/
structure Planner where
  stages : List StageId
  deriving DecidableEq, Repr

namespace Planner

/-- The built-in planner: every stage in scheduling order. -/
def builtin : Planner := ⟨StageId.all⟩

/-- The first definition of a stage in the planner. -/
def definition? (p : Planner) (id : StageId) : Option StageId :=
  p.stages.find? (· == id)

/-- The stages of a list that apply to a target under an environment, in order. -/
def kept (stages : List StageId) (t : Target) (e : Env) : List StageId :=
  stages.filter fun id => id.appliesTo t e

/-- **Planning a target**: under the environment the target sees, keep the applicable
stages in order, number them from one, and derive each one's options. The pipeline has no
entry and no externals; its diagnostics policy is the context's. -/
def plan (p : Planner) (t : Target) (ctx : PlanContext) : Pipeline :=
  let tctx := { ctx with env := ctx.env.forTarget t }
  { target := t
    stages := (kept p.stages t tctx.env).mapIdx fun i id =>
      Stage.ofOptions (i + 1).toUInt32 (id.optionsFor t tctx)
    diagnostics := ctx.diagnostics }

/-- Planning a target given by name; the name is recognised exactly. -/
def planNamed (p : Planner) (name : String) (ctx : PlanContext) : Except BuildError Pipeline := do
  let t ← Target.parse name
  return p.plan t ctx

end Planner

/-- **Deduplication of a module**: the module is the package or lies below it — the package
name followed by nothing or by a separator. -/
def isDeduped (pkg module : String) : Bool :=
  pkg.toList.isPrefixOf module.toList &&
    (match module.toList.drop pkg.length with
      | [] => true
      | c :: _ => c == '/')

end Bundling
