import Bundling.Proofs.Workers

/-!
# Cancellation never outruns a failure

In every interleaving of the workers of a run, the shared flag is raised only after some
worker has finished with an error of its own pipeline: a cancellation is always the echo of a
real failure. Each worker that is not cancelled computes exactly what its pipeline computes
alone, with the flag never raised. So a finished run never ends as cancelled; it fails with
a target's error exactly when some pipeline fails on its own, the error being that of the
first worker in pipeline order that failed, and the sink is not called; when no pipeline
fails on its own, every interleaving settles like the sequential run.

## Main statements

- `Phase.Agrees.step` — a step keeps a worker in agreement with its isolated run
- `World.Inv`, `World.Reachable.inv` — the invariant of every reachable world
- `World.interleaving_settles` — the outcome of every interleaving

## Implementation notes

The invariant compares every worker with the isolated run of its pipeline, `runPipeline`
under the signal that is never raised: what remains of a running pipeline gives the isolated
result, and a result is the isolated one or a cancellation under a raised flag.
-/

namespace Bundling

namespace Phase

variable {x : Executor} {p : Pipeline}

/-- **A phase agrees with the isolated run of its pipeline**: what remains of a running
pipeline, run with the flag down, gives the isolated result; a result is the isolated one,
or a cancellation under a raised flag. -/
def Agrees (x : Executor) (p : Pipeline) (raised : Bool) : Phase → Prop
  | pending => True
  | running rest g =>
    (x.runStages (fun _ => false) 0 rest g).map (Executor.artifactOf p) = x.runPipeline p
  | returned r | done r => r = x.runPipeline p ∨ (r = .error .cancelled ∧ raised = true)

theorem Agrees.raise {raised : Bool} {ph : Phase} (h : ph.Agrees x p raised) :
    ph.Agrees x p true := by
  cases ph with
  | pending => trivial
  | running rest g => exact h
  | returned r => exact h.imp_right fun hc => ⟨hc.1, rfl⟩
  | done r => exact h.imp_right fun hc => ⟨hc.1, rfl⟩

theorem Agrees.of_flag {raised raised' : Bool} {ph : Phase} (h : ph.Agrees x p raised)
    (hflag : raised' = raised ∨ raised' = true) : ph.Agrees x p raised' := by
  rcases hflag with rfl | rfl
  · exact h
  · exact h.raise

/-- **One step keeps a worker in agreement** with the isolated run of its pipeline: a stage
run with the flag down is the isolated run's next stage, and a cancellation is only read
from a raised flag. -/
theorem Agrees.step {raised raised' : Bool} {ph ph' : Phase} (hag : ph.Agrees x p raised)
    (h : ph.step x p raised = some (ph', raised')) : ph'.Agrees x p raised' := by
  cases moves_of_step h with
  | cancelAtStart => exact .inr ⟨rfl, rfl⟩
  | start => exact (Executor.runPipeline_eq_map x p _).symm
  | finish => exact .inl hag
  | cancel => exact .inr ⟨rfl, rfl⟩
  | @fail s rest g m hs =>
    refine .inl ?_
    rw [← hag]
    simp [Executor.runStages, hs, Except.map]
  | @advance s rest g g' hs =>
    -- the stage that ran is the first stage of what remains of the isolated run
    show (x.runStages (fun _ => false) 0 rest g').map (Executor.artifactOf p) = _
    rw [← hag, Executor.runStages_never_index x 0 1]
    simp [Executor.runStages, hs]
  | succeed => exact hag
  | raise => exact hag.raise

end Phase

private theorem mem_set_of_getElem?_ne {α : Type} {l : List α} {i : Nat} {a b : α}
    (ha : a ∈ l) (hi : l[i]? ≠ some a) : a ∈ l.set i b := by
  obtain ⟨j, hj⟩ := List.mem_iff_getElem?.1 ha
  have hji : i ≠ j := fun h => hi (h ▸ hj)
  exact List.mem_iff_getElem?.2 ⟨j, by rw [List.getElem?_set_ne hji]; exact hj⟩

namespace World

variable {x : Executor} {ps : List Pipeline} {w w' : World}

/-- **The invariant of a run**: the workers run the pipelines in order, each worker agrees
with the isolated run of its pipeline, and a raised flag has a culprit: a worker done with
a failure of its own pipeline. -/
structure Inv (x : Executor) (ps : List Pipeline) (w : World) : Prop where
  pipelines : w.workers.map Worker.pipeline = ps
  agrees : ∀ k ∈ w.workers, k.phase.Agrees x k.pipeline w.raised
  culprit : w.raised = true → ∃ k ∈ w.workers, ∃ m, k.phase = .done (.error (.error m))

theorem inv_start (x : Executor) (ps : List Pipeline) : (start ps).Inv x ps := by
  refine ⟨?_, ?_, ?_⟩
  · simp [start, Function.comp_def]
  · intro k hk
    simp only [start, List.mem_map] at hk
    obtain ⟨p, -, rfl⟩ := hk
    trivial
  · intro h
    cases h

/-- A culprit stays one: the worker that steps is not done, so it is someone else. -/
theorem Inv.culprit_step (hinv : w.Inv x ps) {i : Nat} {k : Worker} {ph : Phase}
    {raised : Bool} (hk : w.workers[i]? = some k)
    (hs : k.phase.step x k.pipeline w.raised = some (ph, raised)) (hr : w.raised = true) :
    ∃ k' ∈ w.workers.set i ⟨k.pipeline, ph⟩, ∃ m,
      k'.phase = .done (.error (.error m)) := by
  obtain ⟨k₀, hk₀, m, hdone⟩ := hinv.culprit hr
  refine ⟨k₀, mem_set_of_getElem?_ne hk₀ ?_, m, hdone⟩
  rw [hk]
  rintro ⟨⟩
  rw [hdone, Phase.step_done] at hs
  cases hs

/-- A flag raised by a step has the worker that raised it as culprit: under the lowered flag
it agreed with its isolated run, which is never cancelled. -/
theorem Inv.culprit_raise (hinv : w.Inv x ps) {i : Nat} {k : Worker} {ph : Phase}
    (hk : w.workers[i]? = some k) (hr : w.raised = false)
    (hs : k.phase.step x k.pipeline w.raised = some (ph, true)) :
    ∃ k' ∈ w.workers.set i ⟨k.pipeline, ph⟩, ∃ m,
      k'.phase = .done (.error (.error m)) := by
  obtain ⟨hi, -⟩ := List.getElem?_eq_some_iff.1 hk
  obtain ⟨f, hph, rfl, -⟩ := (Phase.step_flag hs).resolve_left (by simp [hr])
  have hag := hinv.agrees k (List.mem_of_getElem? hk)
  rw [hph, hr] at hag
  have hf : Except.error f = x.runPipeline k.pipeline := by
    rcases hag with hag | ⟨-, h⟩
    · exact hag
    · cases h
  cases f with
  | cancelled => exact absurd hf.symm (Executor.runPipeline_ne_cancelled x k.pipeline)
  | error m => exact ⟨_, List.mem_set hi _, m, rfl⟩

/-- **One step of a run keeps the invariant.** -/
theorem Inv.step (hinv : w.Inv x ps) (h : Step x w w') : w'.Inv x ps := by
  cases h with
  | @worker i k ph raised hk hs =>
    obtain ⟨hi, hki⟩ := List.getElem?_eq_some_iff.1 hk
    have hflag := Phase.step_flag hs
    refine ⟨?_, ?_, ?_⟩
    · -- the worker that steps keeps its pipeline
      rw [List.map_set, ← hinv.pipelines]
      refine List.ext_getElem? fun j => ?_
      by_cases hij : i = j
      · subst hij
        simp [hki, hi]
      · rw [List.getElem?_set_ne hij]
    · intro k' hk'
      rcases List.mem_or_eq_of_mem_set hk' with hk' | rfl
      · exact (hinv.agrees k' hk').of_flag (hflag.imp_right fun ⟨_, _, _, h⟩ => h)
      · exact (hinv.agrees k (List.mem_of_getElem? hk)).step hs
    · -- a culprit from before stays, and a flag raised now has the stepping worker as culprit
      rintro rfl
      cases hr : w.raised with
      | true => exact hinv.culprit_step hk hs hr
      | false => exact hinv.culprit_raise hk hr hs

/-- **Every reachable world satisfies the invariant.** -/
theorem Reachable.inv (h : w.Reachable x ps) : w.Inv x ps := by
  induction h with
  | start => exact inv_start x ps
  | step _ hs ih => exact ih.step hs

/-- A finished worker of a world with the invariant holds the isolated result, or a
cancellation under a raised flag. -/
theorem Inv.done_of_finished (hinv : w.Inv x ps) (hfin : w.Finished) {k : Worker}
    (hk : k ∈ w.workers) :
    ∃ r, k.phase = .done r ∧
      (r = x.runPipeline k.pipeline ∨ (r = .error .cancelled ∧ w.raised = true)) := by
  obtain ⟨r, hr⟩ := Option.isSome_iff_exists.1 (hfin k hk)
  have hdone := Phase.result?_eq_some.1 hr
  have hag := hinv.agrees k hk
  rw [hdone] at hag
  exact ⟨r, hdone, hag⟩

theorem Inv.failed_isolated (hinv : w.Inv x ps) {k : Worker} (hk : k ∈ w.workers) {m : String}
    (hdone : k.phase = .done (.error (.error m))) :
    x.runPipeline k.pipeline = .error (.error m) := by
  have hag := hinv.agrees k hk
  rw [hdone] at hag
  rcases hag with h | ⟨h, -⟩
  · exact h.symm
  · cases h

/-- **No world settles as cancelled**: a cancelled worker read a raised flag, and the flag
has a culprit, whose failure comes first. -/
theorem Inv.collect_ne_cancelled (hinv : w.Inv x ps) :
    collect w.results ≠ .error .cancelled := by
  intro h
  obtain ⟨hnone, t, hmem⟩ := collect_eq_cancelled h
  obtain ⟨k, hk, -, hdone⟩ := mem_results.1 hmem
  have hraised : w.raised = true := by
    have hag := hinv.agrees k hk
    rw [hdone] at hag
    rcases hag with h | ⟨-, h⟩
    · exact absurd h.symm (Executor.runPipeline_ne_cancelled x k.pipeline)
    · exact h
  obtain ⟨k', hk', m, hdone'⟩ := hinv.culprit hraised
  exact firstError_results_eq_none_iff.1 hnone k' hk' m hdone'

/-- **A finished world fails with a target's error exactly when a pipeline fails alone.** -/
theorem Inv.collect_target_iff (hinv : w.Inv x ps) (hfin : w.Finished) :
    (∃ t m, collect w.results = .error (.target t m)) ↔
      ∃ p ∈ ps, ∃ m, x.runPipeline p = .error (.error m) := by
  constructor
  · rintro ⟨t, m, h⟩
    obtain ⟨pre, k, post, m', hws, -, hdone, -⟩ :=
      firstError_results_eq_some (collect_eq_error_target.1 h)
    have hk : k ∈ w.workers := by rw [hws]; simp
    refine ⟨k.pipeline, ?_, m', hinv.failed_isolated hk hdone⟩
    rw [← hinv.pipelines]
    exact List.mem_map_of_mem hk
  · rintro ⟨p, hp, m, hfail⟩
    -- some worker is done with a failure of its own: `p`'s, or the culprit of its cancellation
    have hculprit : ∃ k ∈ w.workers, ∃ m, k.phase = .done (.error (.error m)) := by
      rw [← hinv.pipelines] at hp
      obtain ⟨k, hk, rfl⟩ := List.mem_map.1 hp
      obtain ⟨r, hdone, hr⟩ := hinv.done_of_finished hfin hk
      rcases hr with rfl | ⟨-, hraised⟩
      · exact ⟨k, hk, m, hdone.trans (by rw [hfail])⟩
      · exact hinv.culprit hraised
    obtain ⟨k, hk, m', hdone⟩ := hculprit
    cases he : firstError w.results with
    | none => exact absurd hdone (firstError_results_eq_none_iff.1 he k hk m')
    | some e =>
      obtain ⟨t, m'', rfl⟩ := firstError_eq_target he
      exact ⟨t, m'', collect_eq_error_target.2 he⟩

/-- **When no pipeline fails alone** the flag stays down and every worker returns its
isolated result. -/
theorem Inv.results_of_no_failure (hinv : w.Inv x ps) (hfin : w.Finished)
    (hok : ∀ p ∈ ps, ∀ m, x.runPipeline p ≠ .error (.error m)) :
    w.raised = false ∧ w.results = ps.map fun p => (p.target, x.runPipeline p) := by
  have hraised : w.raised = false := by
    cases hr : w.raised with
    | false => rfl
    | true =>
      obtain ⟨k, hk, m, hdone⟩ := hinv.culprit hr
      have hp : k.pipeline ∈ ps := hinv.pipelines ▸ List.mem_map_of_mem hk
      exact absurd (hinv.failed_isolated hk hdone) (hok k.pipeline hp m)
  refine ⟨hraised, ?_⟩
  rw [← hinv.pipelines, List.map_map, results, ← List.filterMap_eq_map']
  refine List.filterMap_congr fun k hk => ?_
  obtain ⟨r, hdone, hr⟩ := hinv.done_of_finished hfin hk
  rw [hraised] at hr
  rcases hr with rfl | ⟨-, h⟩
  · simp [hdone, Phase.result?]
  · cases h

/-! ### The outcome of every interleaving -/

/-- **Running the pipelines of a plan on parallel workers**, under every interleaving of
their reads and raises of the shared flag:

- in every reachable world, a raised flag has a culprit, a worker done with a failure of its
  own pipeline;
- no world is stuck before every worker is done, and no run is infinite;
- once every worker is done, the run does not settle as cancelled; it settles with a
  target's error exactly when some pipeline fails alone, and then the target is that of the
  first worker, in pipeline order, done with a failure of its own, the error is the one its
  pipeline gives alone, and the sink is not called;
- when no pipeline fails alone the flag stays down, every worker returns what its pipeline
  gives alone, and the run settles as the sequential execution does. -/
theorem interleaving_settles (x : Executor) (plan : Plan) (w : World)
    (hw : w.Reachable x plan.pipelines.values) :
    (w.raised = true → ∃ k ∈ w.workers, ∃ m, k.phase = .done (.error (.error m))) ∧
    (¬ w.Finished → ∃ w', Step x w w') ∧ WellFounded (fun w' w : World => Step x w w') ∧
    (w.Finished →
      collect w.results ≠ .error .cancelled ∧
      ((∃ t m, collect w.results = .error (.target t m)) ↔
        ∃ p ∈ plan.pipelines.values, ∃ m, x.runPipeline p = .error (.error m)) ∧
      (∀ t m, collect w.results = .error (.target t m) →
        (∃ pre k post, w.workers = pre ++ k :: post ∧
          (∀ k' ∈ pre, ∀ m', k'.phase ≠ .done (.error (.error m'))) ∧
          k.pipeline.target = t ∧ k.phase = .done (.error (.error m)) ∧
          x.runPipeline k.pipeline = .error (.error m)) ∧
        ∀ {n : Type → Type} [Monad n] (sink : Artifact → n (Except String Unit)),
          settle w.results sink = pure (.error (.target t m))) ∧
      ((∀ p ∈ plan.pipelines.values, ∀ m, x.runPipeline p ≠ .error (.error m)) →
        w.raised = false ∧
        w.results = plan.pipelines.values.map (fun p => (p.target, x.runPipeline p)) ∧
        ∀ {n : Type → Type} [Monad n] (sink : Artifact → n (Except String Unit)),
          settle w.results sink = x.execute plan sink)) := by
  have hinv := hw.inv
  refine ⟨hinv.culprit, exists_step x, wellFounded_step x, fun hfin =>
    ⟨hinv.collect_ne_cancelled, hinv.collect_target_iff hfin, ?_, ?_⟩⟩
  · intro t m h
    refine ⟨?_, fun sink => by simp [settle, h]⟩
    obtain ⟨pre, k, post, m', hws, hpre, hdone, he⟩ :=
      firstError_results_eq_some (collect_eq_error_target.1 h)
    cases he
    have hk : k ∈ w.workers := by rw [hws]; simp
    exact ⟨pre, k, post, hws, hpre, rfl, hdone, hinv.failed_isolated hk hdone⟩
  · intro hok
    obtain ⟨hraised, hres⟩ := hinv.results_of_no_failure hfin hok
    refine ⟨hraised, hres, fun sink => ?_⟩
    rw [hres, Executor.execute, Executor.runAll_of_no_failure x _ hok]

/-- A client pipeline whose one stage fails, and a server pipeline that the failure cancels
before it starts: the run settles with the client's error, not as cancelled. -/
theorem interleaving_settles_cancelled_server :
    let x := Executor.empty.register .interopNormalization fun _ _ => .error "boom"
    let stages := [Stage.ofOptions 1 .interopNormalization]
    let client : Pipeline :=
      ⟨.client, none, stages, {}, ⟨circularDependency, defaultNamespace⟩⟩
    let server : Pipeline :=
      ⟨.server, none, stages, {}, ⟨circularDependency, defaultNamespace⟩⟩
    let plan : Plan := { env := ⟨.production, false, true, false⟩
                         pipelines := (ByTarget.empty.set .client client).set .server server }
    let w : World := ⟨true,
      [⟨client, .done (.error (.error "boom"))⟩, ⟨server, .done (.error .cancelled)⟩]⟩
    w.Reachable x plan.pipelines.values ∧ w.Finished ∧
      collect w.results = .error (.target .client "boom") ∧
      ∃ p ∈ plan.pipelines.values, ∃ m, x.runPipeline p = .error (.error m) := by
  intro x stages client server plan w
  -- the client runs to its failure and raises the flag; then the server reads it
  have h₀ : (start plan.pipelines.values).Reachable x plan.pipelines.values := .start
  have h₁ := h₀.step (.worker (i := 0) rfl rfl)
  have h₂ := h₁.step (.worker (i := 0) rfl rfl)
  have h₃ := h₂.step (.worker (i := 0) rfl rfl)
  have h₄ := h₃.step (.worker (i := 1) rfl rfl)
  have hw : w.Reachable x plan.pipelines.values := h₄
  have hfin : w.Finished := by simp [w, World.Finished, Phase.result?]
  have hcollect : collect w.results = .error (.target .client "boom") := rfl
  obtain ⟨-, -, -, hsettle⟩ := interleaving_settles x plan w hw
  exact ⟨hw, hfin, hcollect, (hsettle hfin).2.1.1 ⟨_, _, hcollect⟩⟩

end World

end Bundling
