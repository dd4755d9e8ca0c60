import Bundling.Plan.Basic

/-!
# Plans for readers

Two human-readable forms of a plan: a markdown report with the environment, the aliases
and every pipeline's stages with their option summaries, and an outline with one line per
target listing its stages.

## Main definitions

- `Plan.markdown` — the markdown report
- `Plan.outline` — `target: stage > stage > …`, one line per pipeline
-/

namespace Bundling

namespace Plan

/-- The line of a stage in the report: its position and key, and its summary when there is
one. -/
def stageLine (s : Stage) : String :=
  let detail := s.options.summary
  toString s.ordinal.toNat ++ ". `" ++ s.id.key ++ "`" ++
    (if detail.isEmpty then "" else ": " ++ detail) ++ "\n"

/-- The section of one pipeline in the report. -/
def pipelineSection (p : Pipeline) : String :=
  "### " ++ p.target.name ++ "\n\n" ++
    (match p.entry with
      | some e => "- Entry: `" ++ e.input ++ "` → `" ++ e.output ++ "`\n"
      | none => "") ++
    "- Suppressed diagnostics: `" ++ p.diagnostics.code ++ "` inside `" ++
      p.diagnostics.frameworkNamespace ++ "`\n" ++
    (if p.externals.isEmpty then "" else "- External: " ++ ", ".intercalate p.externals.toList ++ "\n") ++
    "\n" ++ String.join (p.stages.map stageLine) ++ "\n"

/-- **The markdown report of a plan**: mode, legacy and typescript flags, the number of
targets and stages, the aliases, and a section per pipeline in target order. -/
def markdown (p : Plan) : String :=
  let header :=
    "# bundleplan plan\n\n" ++
    "- Mode: `" ++ p.env.mode.name ++ "`\n" ++
    "- Legacy build: `" ++ toString p.env.legacy ++ "`\n" ++
    "- Typescript: `" ++ toString p.env.typescript ++ "`\n" ++
    "- Targets: " ++ toString p.pipelines.size ++ " (" ++ toString p.totalStages ++ " stages)\n\n"
  let aliases :=
    "## Aliases\n\n" ++
    (if p.aliases.isEmpty then "_No aliases._\n" else "") ++
    String.join (p.aliases.map fun a => "- `" ++ a.name ++ "` → `" ++ a.path ++ "`\n") ++ "\n"
  let targets :=
    "## Targets\n\n" ++
    (if p.pipelines.values.isEmpty then "_No targets planned._\n"
     else String.join (p.pipelines.values.map pipelineSection))
  header ++ aliases ++ targets

/-- The outline line of a pipeline: its target, a colon, and its stage keys joined by
` > `. -/
def outlineLine (q : Pipeline) : String :=
  q.target.name ++ ": " ++ " > ".intercalate (q.stageIds.map StageId.key) ++ "\n"

/-- **The outline of a plan**: one line per pipeline, in target order. -/
def outline (p : Plan) : String :=
  String.join (p.pipelines.values.map outlineLine)

end Plan

end Bundling
