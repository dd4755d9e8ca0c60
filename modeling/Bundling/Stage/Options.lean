import Bundling.Alias
import Bundling.Stage.Id
import Bundling.Text.Sorted

/-!
# Stage options

The parameters a stage hands to its implementation, one shape per stage, and their
one-line summaries as plans show them.

## Main definitions

- `Codegen` — DOM or server-side rendering output of the component compiler
- `StageOptions` — the options of each stage
- `StageOptions.id` — the stage an options value belongs to
- `StageOptions.summary` — the one-line summary, empty when there is nothing to say
-/

namespace Bundling

/-- **Component code generation**: DOM code for browsers or code for server-side rendering. -/
inductive Codegen where
  | dom
  | ssr
  deriving DecidableEq, Repr

/-- The name of a code generation mode. -/
def Codegen.name : Codegen → String
  | .dom => "dom"
  | .ssr => "ssr"

/-- **The options of a stage.** -/
inductive StageOptions where
  /-- The alias table and the extensions tried. -/
  | aliasResolution (entries : List Alias) (extensions : List String)
  /-- Source expressions and the literals that replace them. -/
  | envSubstitution (replacements : TextMap String)
  /-- What the component compiler generates and how. -/
  | componentCompilation (generate : Codegen) (dev hydratable emitCss preprocessTypescript : Bool)
  /-- Whether browser entry points are preferred, and the package kept as a single copy. -/
  | moduleResolution (browser : Bool) (dedupe : Option String)
  /-- No options. -/
  | interopNormalization
  /-- Whether types are checked or only stripped. -/
  | typedSource (check : Bool)
  /-- The transpiler settings of the legacy build. -/
  | legacyDownlevel (extensions : List String) (runtimeHelpers : Bool) (exclude : List String)
      (browserslist : String) (plugins : List String)
  /-- Whether the output is minified as a module or as a classic script. -/
  | minification (asModule : Bool)
  deriving DecidableEq

namespace StageOptions

/-- The stage an options value belongs to. -/
def id : StageOptions → StageId
  | aliasResolution .. => .aliasResolution
  | envSubstitution .. => .envSubstitution
  | componentCompilation .. => .componentCompilation
  | moduleResolution .. => .moduleResolution
  | interopNormalization => .interopNormalization
  | typedSource .. => .typedSource
  | legacyDownlevel .. => .legacyDownlevel
  | minification .. => .minification

/-- The words of a list that are switched on, in order. -/
def switchedOn (flags : List (Bool × String)) : List String :=
  flags.filterMap fun (on, word) => if on then some word else none

/-- **The summary of stage options**: the number of aliases and the extensions; the
replacements as `key=value` in key order; the generated code with `dev`, `hydratable`
and `emit css` when set; browser or default fields with the deduplicated package; nothing
for interop normalization; whether types are checked; the browser query of the legacy
build in backticks; module or script output. -/
def summary : StageOptions → String
  | aliasResolution entries extensions =>
    toString entries.length ++ " aliases, extensions " ++ " ".intercalate extensions
  | envSubstitution replacements =>
    ", ".intercalate (replacements.toList.map fun (k, v) => k ++ "=" ++ v)
  | componentCompilation generate dev hydratable emitCss _ =>
    ", ".intercalate
      (generate.name :: switchedOn [(dev, "dev"), (hydratable, "hydratable"), (emitCss, "emit css")])
  | moduleResolution browser dedupe =>
    (if browser then "browser fields" else "default fields") ++
      (match dedupe with
        | some pkg => ", dedupe " ++ pkg
        | none => "")
  | interopNormalization => ""
  | typedSource check => if check then "type-checked" else "transpile only"
  | legacyDownlevel _ _ _ browserslist _ => "targets `" ++ browserslist ++ "`"
  | minification asModule => if asModule then "module output" else "script output"

example : (moduleResolution false (some "svelte")).summary = "default fields, dedupe svelte" := by
  decide

end StageOptions

end Bundling
