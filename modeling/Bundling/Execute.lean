import Bundling.Plan.Basic
import Bundling.Artifact

/-!
# Executing a plan

An executor holds a transform for each stage it knows. Running a pipeline folds the stages,
in order, over the graph that holds only the entry's input; running a plan runs its pipelines
one after the other in target order, and once one has failed the rest are cancelled. When
every target succeeded, the artifacts go to a sink in target order, and the sink's first
failure stops the emission.

## Main definitions

- `Transform`, `Executor` — transforms by stage, later registrations replacing earlier ones
- `Failure` — why a pipeline stopped: cancelled, or an error
- `Executor.runPipeline` — one pipeline, under a cancellation signal read before each stage
- `Executor.runAll`, `collect` — every pipeline, and the outcome of the whole run
- `ExecuteError` — the failures of a run and their messages
- `settle`, `Executor.execute` — the outcome of a run's results, with emission to a sink

## Design notes

The cancellation signal is a function from the index of a stage to whether the signal is
raised when that stage is about to run; `fun _ => false` is a signal that is never raised.
-/

namespace Bundling

/-- **A stage transform**: a function of the stage and the graph, which may fail with a
message. -/
abbrev Transform := Stage → Graph → Except String Graph

/-- **An executor**: the transform registered for each stage, if any. -/
structure Executor where
  transforms : StageId → Option Transform

/-- **Why a pipeline stopped.** -/
inductive Failure where
  | cancelled
  | error (message : String)
  deriving DecidableEq, Repr

namespace Executor

/-- The executor with no transforms. -/
def empty : Executor := ⟨fun _ => none⟩

/-- Registers a transform for a stage, replacing one registered before. -/
def register (x : Executor) (id : StageId) (f : Transform) : Executor :=
  ⟨fun i => if i = id then some f else x.transforms i⟩

/-- One stage on a graph: its transform, or the error that there is none. -/
def apply (x : Executor) (s : Stage) (g : Graph) : Except String Graph :=
  match x.transforms s.id with
  | some f => f s g
  | none => .error ("no transform registered for stage " ++ s.id.key)

/-- **The stages from index `i` on**, each after a look at the signal. -/
def runStages (x : Executor) (signal : Nat → Bool) : Nat → List Stage → Graph → Except Failure Graph
  | _, [], g => .ok g
  | i, s :: rest, g =>
    if signal i then .error .cancelled
    else
      match x.apply s g with
      | .error m => .error (.error m)
      | .ok g' => x.runStages signal (i + 1) rest g'

/-- The graph a pipeline starts from: its entry's input, and no modules. -/
def startGraph (p : Pipeline) : Graph :=
  ⟨(p.entry.map Entry.input).getD "", TextMap.empty⟩

/-- The artifact of a pipeline's target holding a graph, with the entry's output name. -/
def artifactOf (p : Pipeline) (g : Graph) : Artifact :=
  ⟨p.target, p.entry.map Entry.output, g⟩

/-- **Running a pipeline**: the stages folded over the start graph, and the artifact of the
pipeline's target with the entry's output name. -/
def runPipeline (x : Executor) (p : Pipeline) (signal : Nat → Bool := fun _ => false) :
    Except Failure Artifact :=
  match x.runStages signal 0 p.stages (startGraph p) with
  | .ok g => .ok (artifactOf p g)
  | .error f => .error f

/-- **Running pipelines one after another**: a pipeline that starts once the signal is raised
is cancelled; a pipeline that fails raises it. -/
def runAll (x : Executor) : List Pipeline → Bool → List (Target × Except Failure Artifact)
  | [], _ => []
  | p :: rest, raised =>
    if raised then (p.target, .error .cancelled) :: x.runAll rest raised
    else
      let r := x.runPipeline p
      (p.target, r) :: x.runAll rest (match r with | .ok _ => false | .error _ => true)

end Executor

/-- **Why a run failed.** -/
inductive ExecuteError where
  | target (t : Target) (message : String)
  | cancelled
  | emit (message : String)
  deriving DecidableEq, Repr

namespace ExecuteError

/-- The description of a failed run. -/
def message : ExecuteError → String
  | .target t m => "target " ++ t.name ++ " failed: " ++ m
  | .cancelled => "build cancelled"
  | .emit m => "emit artifacts: " ++ m

/-- The word that names the kind of failure. -/
def token : ExecuteError → String
  | .target _ _ => "target"
  | .cancelled => "cancelled"
  | .emit _ => "emit"

end ExecuteError

/-- The first error among the results, by target order; cancellations are passed over. -/
def firstError : List (Target × Except Failure Artifact) → Option ExecuteError
  | [] => none
  | (t, .error (.error m)) :: _ => some (.target t m)
  | _ :: rest => firstError rest

/-- **The outcome of the results of a run**: the first error wins; else a cancellation, if
any; else every artifact in order. -/
def collect (results : List (Target × Except Failure Artifact)) : Except ExecuteError (List Artifact) :=
  match firstError results with
  | some e => .error e
  | none =>
    if results.any (fun r => match r.2 with | .error .cancelled => true | _ => false) then
      .error .cancelled
    else .ok (results.filterMap fun r => match r.2 with | .ok a => some a | .error _ => none)

/-- **Emitting artifacts** to a sink in order, stopping at its first failure. -/
def emitAll {m : Type → Type} [Monad m] (sink : Artifact → m (Except String Unit)) :
    List Artifact → m (Except String Unit)
  | [] => return .ok ()
  | a :: rest => do
    match ← sink a with
    | .ok () => emitAll sink rest
    | .error e => return .error e

/-- **Settling a run** from its results: the outcome of `collect`, and when that is every
artifact, their emission to the sink. The sink is not called when a pipeline failed. -/
def settle {m : Type → Type} [Monad m] (results : List (Target × Except Failure Artifact))
    (sink : Artifact → m (Except String Unit)) : m (Except ExecuteError (List Artifact)) := do
  match collect results with
  | .error e => return .error e
  | .ok artifacts =>
    match ← emitAll sink artifacts with
    | .ok () => return .ok artifacts
    | .error e => return .error (.emit e)

namespace Executor

/-- **Executing a plan**: every pipeline in target order, then, when all succeeded, every
artifact to the sink. -/
def execute {m : Type → Type} [Monad m] (x : Executor) (plan : Plan)
    (sink : Artifact → m (Except String Unit)) : m (Except ExecuteError (List Artifact)) :=
  settle (x.runAll plan.pipelines.values false) sink

end Executor

end Bundling
