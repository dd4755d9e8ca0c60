import Bundling.Execute

/-!
# Executing the pipelines of a plan in parallel

A run gives every pipeline of the plan a worker of its own, and the workers share one
cancellation flag. A worker first reads the flag and stops as cancelled when it is raised;
otherwise it runs its pipeline, reading the flag again before every stage, and when the
pipeline returns a failure — a cancellation included — it raises the flag. Once every worker
is done, their results are settled in pipeline order.

Reading and raising the flag are the atomic steps of a worker. A transform touches nothing
that another worker sees, so it is run inside the step that read the flag before it.

## Main definitions

- `Phase` — where a worker is
- `Phase.step` — one atomic step of a worker: its next phase and the flag after it
- `Worker`, `World` — the workers of a run and the shared flag
- `World.Step`, `World.Reachable` — one step of any worker, and the worlds a run can reach
- `World.Finished`, `World.results` — every worker done, and what the workers returned

## Design notes

The interleavings are a relation and not a function: any worker that is not done may take
the next step. The sequential run `Executor.runAll` is one of these schedules, the one that
runs each worker to its end before the next one starts.
-/

namespace Bundling

/-- **Where a worker is.** -/
inductive Phase where
  /-- Not started; the flag is read first. -/
  | pending
  /-- Running, with the stages still to run and the graph so far. -/
  | running (rest : List Stage) (graph : Graph)
  /-- The pipeline returned; a failure has not raised the flag yet. -/
  | returned (result : Except Failure Artifact)
  /-- The worker has finished with its result. -/
  | done (result : Except Failure Artifact)

namespace Phase

/-- **One atomic step of the worker of pipeline `p`** while the flag is `raised`: the next
phase and the flag after the step. A worker that is done takes no step. -/
def step (x : Executor) (p : Pipeline) (raised : Bool) : Phase → Option (Phase × Bool)
  | pending =>
    if raised then some (done (.error .cancelled), raised)
    else some (running p.stages (Executor.startGraph p), raised)
  | running [] g => some (returned (.ok (Executor.artifactOf p g)), raised)
  | running (s :: rest) g =>
    if raised then some (returned (.error .cancelled), raised)
    else
      match x.apply s g with
      | .error m => some (returned (.error (.error m)), raised)
      | .ok g' => some (running rest g', raised)
  | returned (.ok a) => some (done (.ok a), raised)
  | returned (.error f) => some (done (.error f), true)
  | done _ => none

/-- The result of a worker that is done. -/
def result? : Phase → Option (Except Failure Artifact)
  | done r => some r
  | _ => none

end Phase

/-- **A worker**: the pipeline it runs and where it is. -/
structure Worker where
  pipeline : Pipeline
  phase : Phase

/-- **A world of a run**: the shared flag and the workers, in pipeline order. -/
structure World where
  raised : Bool
  workers : List Worker

namespace World

/-- The start of a run: the flag down and a pending worker for each pipeline. -/
def start (ps : List Pipeline) : World :=
  ⟨false, ps.map fun p => ⟨p, .pending⟩⟩

/-- **One step of a run**: some worker takes its next atomic step. -/
inductive Step (x : Executor) : World → World → Prop
  | worker {w : World} {i : Nat} {k : Worker} {ph : Phase} {raised : Bool} :
      w.workers[i]? = some k → k.phase.step x k.pipeline w.raised = some (ph, raised) →
      Step x w ⟨raised, w.workers.set i ⟨k.pipeline, ph⟩⟩

/-- **The worlds a run of the pipelines `ps` can reach**, under every interleaving. -/
inductive Reachable (x : Executor) (ps : List Pipeline) : World → Prop
  | start : Reachable x ps (start ps)
  | step {w w' : World} : Reachable x ps w → Step x w w' → Reachable x ps w'

/-- Every worker is done. -/
def Finished (w : World) : Prop :=
  ∀ k ∈ w.workers, k.phase.result?.isSome

/-- **The results of the workers that are done**, with their targets, in pipeline order. -/
def results (w : World) : List (Target × Except Failure Artifact) :=
  w.workers.filterMap fun k => k.phase.result?.map (k.pipeline.target, ·)

end World

end Bundling
