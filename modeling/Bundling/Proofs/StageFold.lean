import Bundling.Proofs.Workers

/-!
# Running a pipeline as a fold

An executor made by registering transforms one after another holds, for each stage, the
transform registered last for it. Running a pipeline under a signal that is never raised folds
the pipeline's stages, in order, over the graph of the entry's input, each stage through its
transform; the fold stops at the first stage that has no transform or whose transform fails,
and that failure is the outcome whatever stages follow. Under a signal that is raised before
the check of some stage, the run is cancelled there, whatever that stage and the later ones
are.

## Main statements

- `Executor.transforms_ofRegistrations` — the last registration of a stage wins
- `Executor.runStages_never` — under a signal never raised, running stages is a fold
- `Executor.runStages_raised` — a run is cancelled at a raised signal it reaches
- `Executor.runPipeline_folds_registered` — what running a pipeline gives
-/

namespace Bundling

namespace Executor

/-- **The transform registered last** for a stage, among registrations in call order. -/
def lastRegistered (regs : List (StageId × Transform)) (id : StageId) : Option Transform :=
  (regs.reverse.find? fun r => r.1 == id).map Prod.snd

/-- The executor made by registering transforms one after another, starting from none. -/
def ofRegistrations (regs : List (StageId × Transform)) : Executor :=
  regs.foldl (fun x r => x.register r.1 r.2) empty

/-- **One stage of the fold by a list of registrations**: the stage through the transform
registered last for it, or the error that none is. -/
def stageBy (regs : List (StageId × Transform)) (g : Graph) (s : Stage) : Except String Graph :=
  ((lastRegistered regs s.id).map fun f => f s g).getD
    (.error ("no transform registered for stage " ++ s.id.key))

theorem lastRegistered_cons (r : StageId × Transform) (regs : List (StageId × Transform))
    (id : StageId) :
    lastRegistered (r :: regs) id =
      (lastRegistered regs id).or (if r.1 = id then some r.2 else none) := by
  by_cases h : r.1 = id <;> simp [lastRegistered, List.find?_append, h]

/-- Registering transforms over an executor: a stage registered in the list has its last
transform, any other keeps the executor's. -/
theorem transforms_foldl_register (regs : List (StageId × Transform)) (x : Executor)
    (id : StageId) :
    (regs.foldl (fun x r => x.register r.1 r.2) x).transforms id =
      (lastRegistered regs id).or (x.transforms id) := by
  induction regs generalizing x with
  | nil => simp [lastRegistered]
  | cons r rest ih =>
    rw [List.foldl_cons, ih, lastRegistered_cons, Option.or_assoc]
    by_cases h : r.1 = id
    · simp [register, h]
    · simp [register, h, Ne.symm h]

theorem transforms_ofRegistrations (regs : List (StageId × Transform)) (id : StageId) :
    (ofRegistrations regs).transforms id = lastRegistered regs id := by
  rw [ofRegistrations, transforms_foldl_register]
  simp [empty]

theorem apply_ofRegistrations (regs : List (StageId × Transform)) (s : Stage) (g : Graph) :
    (ofRegistrations regs).apply s g = stageBy regs g s := by
  rw [apply, stageBy, transforms_ofRegistrations]
  cases lastRegistered regs s.id <;> rfl

variable (x : Executor)

/-- **Under a signal that is never raised, running stages is a fold** of their transforms;
the fold stops at the first error. -/
theorem runStages_never (i : Nat) (stages : List Stage) (g : Graph) :
    x.runStages (fun _ => false) i stages g =
      (stages.foldlM (fun g s => x.apply s g) g).mapError .error := by
  induction stages generalizing i g with
  | nil => rfl
  | cons s rest ih =>
    simp only [runStages, Bool.false_eq_true, ↓reduceIte, List.foldlM_cons]
    cases x.apply s g with
    | error m => rfl
    | ok g' => exact ih _ _

/-- **A run is cancelled at a raised signal it reaches**: when the first `k` stages succeed and
the signal is raised at the check of stage `k` and after, the run is cancelled. -/
theorem runStages_raised (signal : Nat → Bool) (i : Nat) (stages : List Stage) (g g' : Graph)
    (k : Nat) (hk : k < stages.length) (hsig : ∀ j, i + k ≤ j → signal j = true)
    (hpre : (stages.take k).foldlM (fun g s => x.apply s g) g = .ok g') :
    x.runStages signal i stages g = .error .cancelled := by
  induction stages generalizing i k g with
  | nil => simp at hk
  | cons s rest ih =>
    rw [runStages]
    cases k with
    | zero => rw [if_pos (hsig i (by omega))]
    | succ k =>
      split
      · rfl
      · -- stage `i` ran before the signal was raised, so it succeeded and the rest continue
        rw [List.take_succ_cons, List.foldlM_cons] at hpre
        cases hs : x.apply s g with
        | error m => rw [hs] at hpre; cases hpre
        | ok g₁ =>
          rw [hs] at hpre
          exact ih (i + 1) g₁ k (by simpa using hk) (fun j hj => hsig j (by omega)) hpre

/-- **Running a pipeline.** For an executor made by registrations, under a signal never raised,
a pipeline whose stages fold, each through the transform registered last for its stage, from
the graph of the entry's input gives the artifact of its target with the entry's output name
and the folded graph. A pipeline whose stages up to some stage fold and whose next stage has
no transform or fails gives that stage's error, whatever stages follow. Under a signal raised
from the check of some stage on, a pipeline whose earlier stages fold is cancelled, whatever
that stage and the later ones are. -/
theorem runPipeline_folds_registered (regs : List (StageId × Transform)) (p : Pipeline) :
    let x := ofRegistrations regs
    let g₀ : Graph := ⟨(p.entry.map Entry.input).getD "", TextMap.empty⟩
    (∀ g, p.stages.foldlM (stageBy regs) g₀ = .ok g →
      x.runPipeline p = .ok ⟨p.target, p.entry.map Entry.output, g⟩) ∧
    (∀ pre s rest g m, p.stages = pre ++ s :: rest → pre.foldlM (stageBy regs) g₀ = .ok g →
      stageBy regs g s = .error m → x.runPipeline p = .error (.error m)) ∧
    (∀ (signal : Nat → Bool) (i : Nat) g, i < p.stages.length →
      (∀ j, i ≤ j → signal j = true) →
      (p.stages.take i).foldlM (stageBy regs) g₀ = .ok g →
      x.runPipeline p signal = .error .cancelled) := by
  intro x g₀
  -- the executor's stage step is the fold's step
  have hstep : (fun g s => x.apply s g) = stageBy regs := by
    funext g s
    exact apply_ofRegistrations regs s g
  -- under a signal never raised, the run is the fold of the registered transforms
  have hrun : x.runPipeline p =
      ((p.stages.foldlM (stageBy regs) g₀).mapError Failure.error).map (artifactOf p) := by
    rw [runPipeline_eq_map, runStages_never, hstep]
    rfl
  refine ⟨fun g hfold => ?_, fun pre s rest g m hsplit hpre hfail => ?_,
    fun signal i g hi hsig hpre => ?_⟩
  · rw [hrun, hfold]
    rfl
  · -- the fold reaches stage `s` with `g` and stops there
    rw [hrun, hsplit, List.foldlM_append, hpre]
    show ((stageBy regs g s >>= fun g' => rest.foldlM (stageBy regs) g').mapError
      Failure.error).map (artifactOf p) = _
    rw [hfail]
    rfl
  · rw [runPipeline_eq_map, runStages_raised x signal 0 p.stages (startGraph p) g i hi
      (fun j hj => hsig j (by omega)) (by rw [hstep]; exact hpre)]
    rfl

/-- With alias resolution alone registered, as the identity, a client pipeline of alias
resolution gives the artifact of its entry's graph; one that goes on to minification fails
for want of a transform; and a signal raised from the start cancels it. -/
theorem runPipeline_folds_alias_only :
    let regs : List (StageId × Transform) := [(.aliasResolution, fun _ g => .ok g)]
    let resolveAliases : Stage := ⟨.aliasResolution, 1, .aliasResolution [] []⟩
    let minify : Stage := ⟨.minification, 2, .minification true⟩
    let p₁ : Pipeline :=
      { target := .client, entry := some ⟨"src/main.js", "main"⟩, stages := [resolveAliases],
        diagnostics := ⟨circularDependency, defaultNamespace⟩ }
    let p₂ : Pipeline := { p₁ with stages := [resolveAliases, minify] }
    (ofRegistrations regs).runPipeline p₁ =
      .ok ⟨.client, some "main", ⟨"src/main.js", TextMap.empty⟩⟩ ∧
    (ofRegistrations regs).runPipeline p₂ =
      .error (.error ("no transform registered for stage " ++ StageId.minification.key)) ∧
    (ofRegistrations regs).runPipeline p₂ (fun _ => true) = .error .cancelled := by
  intro regs resolveAliases minify p₁ p₂
  refine ⟨(runPipeline_folds_registered regs p₁).1 _ rfl,
    (runPipeline_folds_registered regs p₂).2.1 [resolveAliases] minify [] _ _ rfl rfl rfl,
    (runPipeline_folds_registered regs p₂).2.2 (fun _ => true) 0 _ (by decide) (fun _ _ => rfl)
      rfl⟩

end Executor

end Bundling
