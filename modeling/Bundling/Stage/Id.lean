import Bundling.Text.Blank

/-!
# Stage identifiers

The eight transformation stages a pipeline can hold. Their declaration order is the
scheduling order: alias resolution, environment substitution, component compilation,
module resolution, interop normalization, typed source, legacy downleveling, minification.

## Main definitions

- `StageId` — the eight stages
- `StageId.key` — the snake-case key of a stage
- `StageId.parse?` — read a key, trimming blanks and accepting `-` for `_`
-/

namespace Bundling

/-- **A stage of a pipeline.** -/
inductive StageId where
  | aliasResolution
  | envSubstitution
  | componentCompilation
  | moduleResolution
  | interopNormalization
  | typedSource
  | legacyDownlevel
  | minification
  deriving DecidableEq, Repr

namespace StageId

/-- All stages in scheduling order. -/
def all : List StageId :=
  [aliasResolution, envSubstitution, componentCompilation, moduleResolution,
    interopNormalization, typedSource, legacyDownlevel, minification]

/-- The key of a stage, in snake case. -/
def key : StageId → String
  | aliasResolution => "alias_resolution"
  | envSubstitution => "env_substitution"
  | componentCompilation => "component_compilation"
  | moduleResolution => "module_resolution"
  | interopNormalization => "interop_normalization"
  | typedSource => "typed_source"
  | legacyDownlevel => "legacy_downlevel"
  | minification => "minification"

/-- The stage with exactly this key. -/
def ofKey? (s : String) : Option StageId :=
  all.find? (fun id => id.key == s)

/-- A key written with dashes reads as one written with underscores. -/
def normalizeKey (s : String) : String :=
  String.ofList ((Text.trim s).toList.map (fun c => if c = '-' then '_' else c))

/-- **Reading a stage key**: trim blank characters, turn every `-` into `_`, then compare
exactly. -/
def parse? (s : String) : Option StageId :=
  ofKey? (normalizeKey s)

theorem ofKey?_key (id : StageId) : ofKey? id.key = some id := by
  cases id <;> rfl

theorem mem_all (id : StageId) : id ∈ all := by
  cases id <;> simp [all]

end StageId

end Bundling
