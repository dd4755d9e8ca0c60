import Bundling.Diagnostic
import Bundling.Env
import Bundling.Stage.Options

/-!
# Plans

A plan fixes, for each requested target, the pipeline of stages that builds it: the
stages in order with their options, the entry point, the modules left external and the
diagnostics to drop. A plan also records the environment and the alias table it was made
with.

## Main definitions

- `Entry` — the entry module and output location of a target
- `Stage` — one scheduled step: its stage, its 1-based position and its options
- `Pipeline` — the frozen pipeline of one target
- `Plan` — the pipelines of one build, keyed by target
-/

namespace Bundling

/-- **An entry point**: the module a target starts from and where its output goes. -/
structure Entry where
  input : String
  output : String
  deriving DecidableEq, Repr

/-- **A scheduled stage**: which stage, its 1-based position, and its options. -/
structure Stage where
  id : StageId
  ordinal : UInt32
  options : StageOptions
  deriving DecidableEq

/-- The stage that an options value schedules at a position. -/
def Stage.ofOptions (ordinal : UInt32) (options : StageOptions) : Stage :=
  ⟨options.id, ordinal, options⟩

/-- **The pipeline of one target.** -/
structure Pipeline where
  target : Target
  entry : Option Entry := none
  stages : List Stage := []
  externals : TextSet := TextSet.empty
  diagnostics : Suppression
  deriving DecidableEq

namespace Pipeline

/-- The stages of the pipeline, in order. -/
def stageIds (p : Pipeline) : List StageId :=
  p.stages.map Stage.id

/-- Whether the pipeline schedules a stage. -/
def contains (p : Pipeline) (id : StageId) : Bool :=
  p.stages.any fun s => s.id == id

/-- The first scheduled step of a stage. -/
def stage? (p : Pipeline) (id : StageId) : Option Stage :=
  p.stages.find? fun s => s.id == id

end Pipeline

/-- The schema identifier written into every plan. -/
def planSchema : String := "bundleplan.plan.v1"

/-- **A plan**: schema, environment, alias table and the pipelines keyed by target. -/
structure Plan where
  schema : String := planSchema
  env : Env
  aliases : List Alias := []
  pipelines : ByTarget Pipeline := {}
  deriving DecidableEq

namespace Plan

/-- The pipeline of a target. -/
def pipeline? (p : Plan) (t : Target) : Option Pipeline :=
  p.pipelines.get t

/-- The number of scheduled stages over all pipelines. -/
def totalStages (p : Plan) : Nat :=
  (p.pipelines.values.map fun q => q.stages.length).foldl (· + ·) 0

end Plan

end Bundling
