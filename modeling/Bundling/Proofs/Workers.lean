import Bundling.Execute.Parallel
import Mathlib.Data.List.Basic
import Mathlib.Logic.Relation

/-!
# Steps, runs and results of parallel workers

What one step of a worker can do, and what runs of the workers of a plan reach: no world is
stuck before every worker is done, no run is infinite, and the sequential run is one of the
interleavings. The results of a world are related to its workers, and the outcome of a list
of results to its first error.

## Main statements

- `Phase.Moves`, `Phase.moves_of_step` — the ways a worker can step
- `Phase.step_flag` — only a worker finishing with a failure raises the flag
- `World.wellFounded_step`, `World.exists_step` — every run ends, and only when all are done
- `World.reachable_serial` — the sequential run is one of the interleavings
- `World.firstError_results_eq_some` — the first error is that of the first failed worker
-/

namespace Bundling

namespace Executor

variable (x : Executor)

/-- Under a signal that is never raised, the index a run of stages starts from is
irrelevant. -/
theorem runStages_never_index (i j : Nat) (stages : List Stage) (g : Graph) :
    x.runStages (fun _ => false) i stages g = x.runStages (fun _ => false) j stages g := by
  induction stages generalizing i j g with
  | nil => rfl
  | cons s rest ih =>
    simp only [runStages, Bool.false_eq_true, ↓reduceIte]
    cases x.apply s g with
    | error m => rfl
    | ok g' => exact ih _ _ _

theorem runStages_never_ne_cancelled (i : Nat) (stages : List Stage) (g : Graph) :
    x.runStages (fun _ => false) i stages g ≠ .error .cancelled := by
  induction stages generalizing i g with
  | nil => simp [runStages]
  | cons s rest ih =>
    simp only [runStages, Bool.false_eq_true, ↓reduceIte]
    cases x.apply s g with
    | error m => simp
    | ok g' => exact ih _ _

theorem runPipeline_eq_map (p : Pipeline) (signal : Nat → Bool) :
    x.runPipeline p signal =
      (x.runStages signal 0 p.stages (startGraph p)).map (artifactOf p) := by
  cases h : x.runStages signal 0 p.stages (startGraph p) <;>
    simp [runPipeline, h, Except.map]

/-- **A pipeline run alone is never cancelled**: it gives an artifact or a transform's
error. -/
theorem runPipeline_ne_cancelled (p : Pipeline) : x.runPipeline p ≠ .error .cancelled := by
  rw [runPipeline_eq_map]
  cases h : x.runStages (fun _ => false) 0 p.stages (startGraph p) with
  | ok g => simp [Except.map]
  | error f =>
    have hf : f ≠ .cancelled := fun hc => runStages_never_ne_cancelled x 0 _ _ (hc ▸ h)
    simpa [Except.map] using hf

/-- When no pipeline fails, the sequential run gives every pipeline's isolated result. -/
theorem runAll_of_no_failure (ps : List Pipeline)
    (hok : ∀ p ∈ ps, ∀ m, x.runPipeline p ≠ .error (.error m)) :
    x.runAll ps false = ps.map fun p => (p.target, x.runPipeline p) := by
  induction ps with
  | nil => rfl
  | cons p rest ih =>
    -- the isolated run is neither cancelled nor failed, so the flag stays down
    obtain ⟨a, ha⟩ : ∃ a, x.runPipeline p = .ok a := by
      cases h : x.runPipeline p with
      | ok a => exact ⟨a, rfl⟩
      | error f =>
        cases f with
        | cancelled => exact absurd h (runPipeline_ne_cancelled x p)
        | error m => exact absurd h (hok p List.mem_cons_self m)
    simp only [runAll, Bool.false_eq_true, ↓reduceIte, ha, List.map_cons]
    rw [ih fun q hq => hok q (List.mem_cons_of_mem p hq)]

end Executor

theorem firstError_cons (t : Target) (r : Except Failure Artifact)
    (rest : List (Target × Except Failure Artifact)) :
    firstError ((t, r) :: rest) =
      match r with
      | .error (.error m) => some (.target t m)
      | _ => firstError rest := by
  rcases r with (_ | m) | a <;> rfl

/-- The first error of a run's results is always a target's error. -/
theorem firstError_eq_target {rs : List (Target × Except Failure Artifact)} {e : ExecuteError}
    (h : firstError rs = some e) : ∃ t m, e = .target t m := by
  induction rs with
  | nil => cases h
  | cons q rest ih =>
    obtain ⟨t, r⟩ := q
    rw [firstError_cons] at h
    rcases r with (_ | m) | a
    · exact ih h
    · exact ⟨t, m, (Option.some.inj h).symm⟩
    · exact ih h

theorem collect_eq_error_target {rs : List (Target × Except Failure Artifact)} {t : Target}
    {m : String} : collect rs = .error (.target t m) ↔ firstError rs = some (.target t m) := by
  unfold collect
  split
  · rename_i e he
    rw [he]
    simp
  · rename_i he
    rw [he]
    split <;> simp

theorem collect_eq_cancelled {rs : List (Target × Except Failure Artifact)}
    (h : collect rs = .error .cancelled) :
    firstError rs = none ∧ ∃ t, (t, .error .cancelled) ∈ rs := by
  unfold collect at h
  split at h
  · rename_i e he
    obtain ⟨t, m, rfl⟩ := firstError_eq_target he
    cases h
  · rename_i he
    split at h
    · rename_i hany
      obtain ⟨⟨t, r⟩, hmem, hr⟩ := List.any_eq_true.1 hany
      refine ⟨he, t, ?_⟩
      rcases r with (_ | m) | a <;> simp_all
    · cases h

namespace Phase

variable {x : Executor} {p : Pipeline}

/-- **The moves of a worker**, one constructor for each way `Phase.step` can go. -/
inductive Moves (x : Executor) (p : Pipeline) : Bool → Phase → Phase → Bool → Prop
  | cancelAtStart : Moves x p true pending (done (.error .cancelled)) true
  | start : Moves x p false pending (running p.stages (Executor.startGraph p)) false
  | finish {raised : Bool} {g : Graph} :
      Moves x p raised (running [] g) (returned (.ok (Executor.artifactOf p g))) raised
  | cancel {s : Stage} {rest : List Stage} {g : Graph} :
      Moves x p true (running (s :: rest) g) (returned (.error .cancelled)) true
  | fail {s : Stage} {rest : List Stage} {g : Graph} {m : String} : x.apply s g = .error m →
      Moves x p false (running (s :: rest) g) (returned (.error (.error m))) false
  | advance {s : Stage} {rest : List Stage} {g g' : Graph} : x.apply s g = .ok g' →
      Moves x p false (running (s :: rest) g) (running rest g') false
  | succeed {raised : Bool} {a : Artifact} :
      Moves x p raised (returned (.ok a)) (done (.ok a)) raised
  | raise {raised : Bool} {f : Failure} :
      Moves x p raised (returned (.error f)) (done (.error f)) true

/-- **Inversion of a worker's step**: every step is one of the moves. -/
theorem moves_of_step {raised raised' : Bool} {ph ph' : Phase}
    (h : ph.step x p raised = some (ph', raised')) : Moves x p raised ph ph' raised' := by
  match ph, raised, h with
  | pending, true, h => cases h; exact .cancelAtStart
  | pending, false, h => cases h; exact .start
  | running [] g, _, h => cases h; exact .finish
  | running (s :: rest) g, true, h => cases h; exact .cancel
  | running (s :: rest) g, false, h =>
    simp only [step, Bool.false_eq_true, ↓reduceIte] at h
    cases hs : x.apply s g with
    | error m =>
      rw [hs] at h
      cases h
      exact .fail hs
    | ok g' =>
      rw [hs] at h
      cases h
      exact .advance hs
  | returned (.ok a), _, h => cases h; exact .succeed
  | returned (.error f), _, h => cases h; exact .raise

@[simp] theorem step_done (raised : Bool) (r : Except Failure Artifact) :
    (done r).step x p raised = none := rfl

/-- **The flag after a step**: it is unchanged, unless the step finishes a worker whose
pipeline returned a failure, and then it is raised. -/
theorem step_flag {raised raised' : Bool} {ph ph' : Phase}
    (h : ph.step x p raised = some (ph', raised')) :
    raised' = raised ∨
      ∃ f, ph = returned (.error f) ∧ ph' = done (.error f) ∧ raised' = true := by
  cases moves_of_step h with
  | raise => exact .inr ⟨_, rfl, rfl, rfl⟩
  | _ => exact .inl rfl

theorem result?_eq_some {ph : Phase} {r : Except Failure Artifact} :
    ph.result? = some r ↔ ph = done r := by
  cases ph <;> simp [result?]

theorem result?_eq_none {ph : Phase} (h : ph.result? = none) (r : Except Failure Artifact) :
    ph ≠ done r := by
  rintro rfl
  cases h

/-- The steps a worker of pipeline `p` has left at most. -/
def remaining (p : Pipeline) : Phase → Nat
  | pending => p.stages.length + 3
  | running rest _ => rest.length + 2
  | returned _ => 1
  | done _ => 0

theorem remaining_step {x : Executor} {p : Pipeline} {raised raised' : Bool} {ph ph' : Phase}
    (h : ph.step x p raised = some (ph', raised')) : ph'.remaining p < ph.remaining p := by
  cases moves_of_step h <;> simp [remaining]

theorem step_isSome (x : Executor) (p : Pipeline) (raised : Bool) {ph : Phase}
    (h : ph.result? = none) : (ph.step x p raised).isSome := by
  match ph, h with
  | pending, _ => by_cases hr : raised <;> simp [step, hr]
  | running [] g, _ => rfl
  | running (s :: rest) g, _ =>
    by_cases hr : raised
    · simp [step, hr]
    · simp only [step, hr, Bool.false_eq_true, ↓reduceIte]
      split <;> rfl
  | returned (.ok a), _ => rfl
  | returned (.error f), _ => rfl

end Phase

namespace World

variable {x : Executor} {ps : List Pipeline} {w w' : World}

theorem results_cons (raised : Bool) (k : Worker) (ks : List Worker) :
    (World.mk raised (k :: ks)).results =
      match k.phase.result? with
      | some r => (k.pipeline.target, r) :: (World.mk raised ks).results
      | none => (World.mk raised ks).results := by
  simp only [results, List.filterMap_cons]
  cases k.phase.result? <;> rfl

/-- **The first error of a world's results** is that of its first worker, in pipeline
order, that is done with a failure of its own. -/
theorem firstError_results_eq_some {e : ExecuteError} (h : firstError w.results = some e) :
    ∃ pre k post m, w.workers = pre ++ k :: post ∧
      (∀ k' ∈ pre, ∀ m', k'.phase ≠ .done (.error (.error m'))) ∧
      k.phase = .done (.error (.error m)) ∧ e = .target k.pipeline.target m := by
  obtain ⟨raised, ks⟩ := w
  induction ks with
  | nil => cases h
  | cons k ks ih =>
    rw [results_cons] at h
    -- a worker passed over puts itself in front of the decomposition of the rest
    have prepend : firstError (World.mk raised ks).results = some e →
        (∀ m, k.phase ≠ .done (.error (.error m))) →
        ∃ pre k' post m, k :: ks = pre ++ k' :: post ∧
          (∀ k'' ∈ pre, ∀ m', k''.phase ≠ .done (.error (.error m'))) ∧
          k'.phase = .done (.error (.error m)) ∧ e = .target k'.pipeline.target m := by
      intro hrest hk
      obtain ⟨pre, k', post, m, hks, hpre, hk', he⟩ := ih hrest
      refine ⟨k :: pre, k', post, m, congrArg (k :: ·) hks, ?_, hk', he⟩
      intro k'' hk'' m'
      rcases List.mem_cons.1 hk'' with rfl | hk''
      · exact hk m'
      · exact hpre k'' hk'' m'
    cases hr : k.phase.result? with
    | none =>
      rw [hr] at h
      exact prepend h fun m => Phase.result?_eq_none hr _
    | some r =>
      rw [hr, firstError_cons] at h
      have hk := Phase.result?_eq_some.1 hr
      rcases r with (_ | m) | a
      · exact prepend h fun m => by rw [hk]; simp
      · exact ⟨[], k, ks, m, rfl, by simp, hk, (Option.some.inj h).symm⟩
      · exact prepend h fun m => by rw [hk]; simp

/-- A world's results have no error exactly when no worker is done with a failure of its
own. -/
theorem firstError_results_eq_none_iff :
    firstError w.results = none ↔
      ∀ k ∈ w.workers, ∀ m, k.phase ≠ .done (.error (.error m)) := by
  obtain ⟨raised, ks⟩ := w
  induction ks with
  | nil => simp [results, firstError]
  | cons k ks ih =>
    rw [results_cons, List.forall_mem_cons]
    cases hr : k.phase.result? with
    | none => simp only [ih, Phase.result?_eq_none hr, ne_eq, not_false_eq_true,
        implies_true, true_and]
    | some r =>
      rw [firstError_cons, Phase.result?_eq_some.1 hr]
      rcases r with (_ | m) | a
      · simpa using ih
      · simp
      · simpa using ih

theorem mem_results {t : Target} {r : Except Failure Artifact} :
    (t, r) ∈ w.results ↔ ∃ k ∈ w.workers, k.pipeline.target = t ∧ k.phase = .done r := by
  simp only [results, List.mem_filterMap, Option.map_eq_some_iff, Prod.mk.injEq,
    Phase.result?_eq_some]
  constructor
  · rintro ⟨k, hk, r', hr', rfl, rfl⟩
    exact ⟨k, hk, rfl, hr'⟩
  · rintro ⟨k, hk, rfl, hr⟩
    exact ⟨k, hk, r, hr, rfl, rfl⟩

/-- The steps the workers of a list have left at most. -/
def remainingOf : List Worker → Nat
  | [] => 0
  | k :: ks => k.phase.remaining k.pipeline + remainingOf ks

theorem remainingOf_set_lt {ks : List Worker} {i : Nat} {k : Worker} {ph : Phase}
    (hk : ks[i]? = some k) (hlt : ph.remaining k.pipeline < k.phase.remaining k.pipeline) :
    remainingOf (ks.set i ⟨k.pipeline, ph⟩) < remainingOf ks := by
  -- only the count of the worker at `i` changes
  induction ks generalizing i with
  | nil => cases hk
  | cons k' ks ih =>
    cases i with
    | zero =>
      cases hk
      simp only [List.set_cons_zero, remainingOf]
      omega
    | succ i =>
      have := ih hk
      simp only [List.set_cons_succ, remainingOf]
      omega

/-- **No run is infinite**: every step lowers the steps the workers have left. -/
theorem wellFounded_step (x : Executor) : WellFounded fun w' w : World => Step x w w' := by
  refine Subrelation.wf ?_ (measure fun w : World => remainingOf w.workers).wf
  intro w' w h
  cases h with
  | worker hk hs => exact remainingOf_set_lt hk (Phase.remaining_step hs)

/-- **No run is stuck**: a world that is not finished has a worker that can step. -/
theorem exists_step (x : Executor) {w : World} (h : ¬ w.Finished) : ∃ w', Step x w w' := by
  simp only [Finished, not_forall, Bool.not_eq_true, Option.isSome_eq_false_iff,
    Option.isNone_iff_eq_none] at h
  obtain ⟨k, hk, hnone⟩ := h
  obtain ⟨i, hi⟩ := List.mem_iff_getElem?.1 hk
  obtain ⟨⟨ph, raised⟩, hs⟩ := Option.isSome_iff_exists.1
    (Phase.step_isSome x k.pipeline w.raised hnone)
  exact ⟨_, .worker hi hs⟩

theorem Reachable.steps (h : w.Reachable x ps) (hs : Relation.ReflTransGen (Step x) w w') :
    w'.Reachable x ps := by
  induction hs with
  | refl => exact h
  | tail _ hst ih => exact .step ih hst

theorem step_between (pre post : List Worker) (p : Pipeline) {raised raised' : Bool}
    {ph ph' : Phase} (h : ph.step x p raised = some (ph', raised')) :
    Step x ⟨raised, pre ++ ⟨p, ph⟩ :: post⟩ ⟨raised', pre ++ ⟨p, ph'⟩ :: post⟩ := by
  have hstep := Step.worker (x := x) (w := ⟨raised, pre ++ ⟨p, ph⟩ :: post⟩)
    (i := pre.length) (k := ⟨p, ph⟩) (by simp) h
  simpa using hstep

/-- **A running worker alone**: with the flag down, it runs the rest of its stages as the
isolated run does. -/
theorem steps_running (pre post : List Worker) (p : Pipeline) (rest : List Stage) (g : Graph) :
    Relation.ReflTransGen (Step x) ⟨false, pre ++ ⟨p, .running rest g⟩ :: post⟩
      ⟨false, pre ++ ⟨p, .returned
        ((x.runStages (fun _ => false) 0 rest g).map (Executor.artifactOf p))⟩ :: post⟩ := by
  -- one step of the worker for each stage, the flag never read as raised
  induction rest generalizing g with
  | nil => exact .single (step_between pre post p rfl)
  | cons s rest ih =>
    cases hs : x.apply s g with
    | error m =>
      have hrun : x.runStages (fun _ => false) 0 (s :: rest) g = .error (.error m) := by
        simp [Executor.runStages, hs]
      rw [hrun]
      exact .single (step_between pre post p (by simp [Phase.step, hs, Except.map]))
    | ok g' =>
      have hrun : x.runStages (fun _ => false) 0 (s :: rest) g =
          x.runStages (fun _ => false) 0 rest g' := by
        simp only [Executor.runStages, Bool.false_eq_true, ↓reduceIte, hs]
        exact Executor.runStages_never_index x 1 0 rest g'
      rw [hrun]
      exact .head (step_between pre post p (by simp [Phase.step, hs])) (ih g')

/-- **A worker run to its end alone** finishes as the sequential run has it: cancelled under
a raised flag, else with its isolated result, raising the flag on a failure. -/
theorem steps_worker (pre post : List Worker) (p : Pipeline) (raised : Bool)
    (rest : List Pipeline) :
    ∃ r raised', Relation.ReflTransGen (Step x) ⟨raised, pre ++ ⟨p, .pending⟩ :: post⟩
        ⟨raised', pre ++ ⟨p, .done r⟩ :: post⟩ ∧
      x.runAll (p :: rest) raised = (p.target, r) :: x.runAll rest raised' := by
  cases raised with
  -- under a raised flag the worker stops before its first stage
  | true => exact ⟨.error .cancelled, true, .single (step_between pre post p rfl), rfl⟩
  | false =>
    have hrun := steps_running (x := x) pre post p p.stages (Executor.startGraph p)
    rw [← Executor.runPipeline_eq_map] at hrun
    have hstart : Step x ⟨false, pre ++ ⟨p, .pending⟩ :: post⟩
        ⟨false, pre ++ ⟨p, .running p.stages (Executor.startGraph p)⟩ :: post⟩ :=
      step_between pre post p rfl
    cases hr : x.runPipeline p with
    | ok a =>
      rw [hr] at hrun
      refine ⟨.ok a, false, .head hstart (hrun.tail (step_between pre post p rfl)), ?_⟩
      simp [Executor.runAll, hr]
    | error f =>
      rw [hr] at hrun
      refine ⟨.error f, true, .head hstart (hrun.tail (step_between pre post p rfl)), ?_⟩
      simp [Executor.runAll, hr]

/-- **The sequential schedule**: running the pending workers after `pre` one after another
reaches a world whose new workers are done, with the results of `runAll`. -/
theorem steps_serial (pre : List Worker) (ps : List Pipeline) (raised : Bool) :
    ∃ w', Relation.ReflTransGen (Step x)
        ⟨raised, pre ++ ps.map fun p => ⟨p, .pending⟩⟩ w' ∧
      ∃ ks, w'.workers = pre ++ ks ∧ (∀ k ∈ ks, k.phase.result?.isSome) ∧
        (World.mk w'.raised ks).results = x.runAll ps raised := by
  induction ps generalizing pre raised with
  | nil => exact ⟨⟨raised, pre⟩, by simpa using .refl, [], by simp, by simp, rfl⟩
  | cons p rest ih =>
    -- the first pending worker runs to its end, and the rest follow it
    obtain ⟨r, raised', hsteps, hrun⟩ :=
      steps_worker (x := x) pre (rest.map fun p => ⟨p, .pending⟩) p raised rest
    obtain ⟨w', hsteps', ks, hws, hdone, hres⟩ := ih (pre ++ [⟨p, .done r⟩]) raised'
    refine ⟨w', ?_, ⟨p, .done r⟩ :: ks, by simp [hws], ?_, ?_⟩
    · simp only [List.append_assoc, List.cons_append, List.nil_append] at hsteps'
      exact hsteps.trans hsteps'
    · intro k hk
      rcases List.mem_cons.1 hk with rfl | hk
      · rfl
      · exact hdone k hk
    · rw [results_cons, hrun]
      simp [Phase.result?, hres]

/-- **The sequential run is one of the interleavings**: some reachable world is finished
with the results of `runAll`. -/
theorem reachable_serial (x : Executor) (ps : List Pipeline) :
    ∃ w : World, w.Reachable x ps ∧ w.Finished ∧ w.results = x.runAll ps false := by
  obtain ⟨w, hsteps, ks, hws, hdone, hres⟩ := steps_serial (x := x) [] ps false
  refine ⟨w, Reachable.start.steps (by simpa [start] using hsteps), ?_, ?_⟩
  · rw [Finished, hws]
    simpa using hdone
  · rw [← hres]
    simp [results, hws]

end World

end Bundling
