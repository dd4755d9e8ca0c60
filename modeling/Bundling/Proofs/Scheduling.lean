import Bundling.Proofs.Build

/-!
# Numbering the stages of a pipeline

Planning a target keeps, in order, the stages of the planner whose rule holds for the target
under the environment as the target sees it, and numbers them from one. So the numbers of a
pipeline count its stages and nothing else: a stage left out takes no number, and planning two
lists one after the other numbers the second where the first stopped. The built-in planner
lists every stage once, in the order stages are declared, so its pipelines follow that order,
and the two stages that always apply come first.

## Main statements

- `Planner.plan_stages_getElem?` — the stage at each position of a pipeline
- `Planner.plan_ordinals` — ordinals count from one, with no gap
- `Planner.plan_stages_append` — planning two lists one after the other
- `Planner.pairwise_rank_builtin` — the built-in pipelines follow the declaration order
- `Planner.plan_numbers_applicable_stages` — what a pipeline holds
-/

namespace Bundling

namespace StageId

/-- The position of a stage in the order the stages are declared. -/
def rank : StageId → Nat
  | aliasResolution => 0
  | envSubstitution => 1
  | componentCompilation => 2
  | moduleResolution => 3
  | interopNormalization => 4
  | typedSource => 5
  | legacyDownlevel => 6
  | minification => 7

theorem pairwise_rank_all : all.Pairwise fun a b => a.rank < b.rank := by
  decide

end StageId

namespace Planner

variable (t : Target) (ctx : PlanContext)

/-- **The stage at position `i`** of a pipeline is the `i`-th applicable stage, numbered
`i + 1`, with the options it derives for the target. -/
theorem plan_stages_getElem? (p : Planner) (i : Nat) :
    (p.plan t ctx).stages[i]? =
      (kept p.stages t (ctx.env.forTarget t))[i]?.map fun id =>
        ⟨id, (i + 1).toUInt32, id.optionsFor t { ctx with env := ctx.env.forTarget t }⟩ := by
  simp [plan, List.getElem?_mapIdx, Stage.ofOptions]

theorem length_plan_stages (p : Planner) :
    (p.plan t ctx).stages.length = (kept p.stages t (ctx.env.forTarget t)).length := by
  simp [plan]

/-- The number `i + 1` of a position below a count that fits in 32 bits reads back as itself. -/
theorem toNat_succ_toUInt32 {i n : Nat} (hi : i < n) (hsize : n < UInt32.size) :
    (i + 1).toUInt32.toNat = i + 1 :=
  UInt32.toNat_ofNat_of_lt' (Nat.lt_of_le_of_lt hi hsize)

/-- **Ordinals count from one**, with no gap, as long as they fit in 32 bits. -/
theorem plan_ordinals (p : Planner)
    (hsize : (kept p.stages t (ctx.env.forTarget t)).length < UInt32.size) :
    (p.plan t ctx).stages.map (fun st => st.ordinal.toNat) =
      List.range' 1 (kept p.stages t (ctx.env.forTarget t)).length := by
  refine List.ext_getElem? fun i => ?_
  rw [List.getElem?_map, plan_stages_getElem?]
  by_cases hi : i < (kept p.stages t (ctx.env.forTarget t)).length
  · rw [List.getElem?_eq_getElem hi, List.getElem?_range' hi]
    simp only [Option.map_some, toNat_succ_toUInt32 hi hsize, Option.some.injEq]
    omega
  · rw [List.getElem?_eq_none (by omega), List.getElem?_eq_none (by simp; omega)]
    rfl

/-- A number of stages shifts a numbered stage by that many places, in 32-bit arithmetic. -/
def shift (n : Nat) (st : Stage) : Stage :=
  { st with ordinal := st.ordinal + n.toUInt32 }

/-- **Planning two lists one after the other** numbers the stages of the second where those
of the first stopped. -/
theorem plan_stages_append (L₁ L₂ : List StageId) :
    (plan ⟨L₁ ++ L₂⟩ t ctx).stages =
      (plan ⟨L₁⟩ t ctx).stages ++
        (plan ⟨L₂⟩ t ctx).stages.map (shift (plan ⟨L₁⟩ t ctx).stages.length) := by
  rw [length_plan_stages]
  simp only [plan, kept, List.filter_append, List.mapIdx_append, List.append_cancel_left_eq]
  refine List.ext_getElem? fun i => ?_
  rw [List.getElem?_map, List.getElem?_mapIdx, List.getElem?_mapIdx, Option.map_map]
  -- the two numberings of the `i`-th stage of the second list differ by the shift
  have hnum (n : Nat) : (i + n + 1).toUInt32 = (i + 1).toUInt32 + n.toUInt32 := by
    rw [show i + n + 1 = i + 1 + n by omega]
    exact UInt32.ofNat_add _ _
  cases (L₂.filter fun id => id.appliesTo t (ctx.env.forTarget t))[i]? with
  | none => rfl
  | some id => simp [Stage.ofOptions, shift, hnum]

/-- **The built-in pipelines follow the declaration order**, whatever the target and the
context. -/
theorem pairwise_rank_builtin :
    (builtin.plan t ctx).stageIds.Pairwise fun a b => a.rank < b.rank := by
  rw [stageIds_plan]
  exact StageId.pairwise_rank_all.sublist List.filter_sublist

/-- Alias resolution comes first and environment substitution second in every built-in
pipeline. -/
theorem take_two_builtin :
    (builtin.plan t ctx).stageIds.take 2 = [.aliasResolution, .envSubstitution] := by
  rw [stageIds_plan]
  rfl

/-- **What a pipeline holds.** Planning a target with any list of stages gives a pipeline of
that target with no entry, no externals and the context's diagnostics policy. Its stages are
the listed stages whose rule holds under the environment as the target sees it, in order,
numbered from one with no gap, each with the options it derives for the target under that
environment. Planning two lists one after the other numbers the second where the first
stopped, and the built-in pipelines follow the declaration order with alias resolution and
environment substitution first. -/
theorem plan_numbers_applicable_stages (L : List StageId) (t : Target) (ctx : PlanContext)
    (hsize : (L.filter fun d => d.appliesTo t (ctx.env.forTarget t)).length < UInt32.size) :
    let tctx : PlanContext := { ctx with env := ctx.env.forTarget t }
    let ds := L.filter fun d => d.appliesTo t tctx.env
    let q := (Planner.mk L).plan t ctx
    (q.target = t ∧ q.entry = none ∧ q.externals = TextSet.empty ∧
      q.diagnostics = ctx.diagnostics) ∧
    q.stages.length = ds.length ∧
    (∀ i (hi : i < ds.length), ∃ st, q.stages[i]? = some st ∧
      st.ordinal.toNat = i + 1 ∧ st.id = ds[i] ∧ st.options = ds[i].optionsFor t tctx) ∧
    q.stages.map (fun st => st.ordinal.toNat) = List.range' 1 ds.length ∧
    (∀ L₁ L₂ : List StageId, (plan ⟨L₁ ++ L₂⟩ t ctx).stages =
      (plan ⟨L₁⟩ t ctx).stages ++
        (plan ⟨L₂⟩ t ctx).stages.map (shift (plan ⟨L₁⟩ t ctx).stages.length)) ∧
    (∀ (t' : Target) (ctx' : PlanContext),
      (builtin.plan t' ctx').stageIds.Pairwise (fun a b => a.rank < b.rank) ∧
      (builtin.plan t' ctx').stageIds.take 2 = [.aliasResolution, .envSubstitution]) := by
  intro tctx ds q
  refine ⟨⟨rfl, rfl, rfl, rfl⟩, length_plan_stages t ctx _, fun i hi => ?_,
    plan_ordinals t ctx _ hsize, plan_stages_append t ctx,
    fun t' ctx' => ⟨pairwise_rank_builtin t' ctx', take_two_builtin t' ctx'⟩⟩
  refine ⟨⟨ds[i], (i + 1).toUInt32, ds[i].optionsFor t tctx⟩,
    (plan_stages_getElem? t ctx _ i).trans ?_, ?_, rfl, rfl⟩
  · rw [show (kept L t (ctx.env.forTarget t))[i]? = some ds[i] from List.getElem?_eq_getElem hi]
    rfl
  · exact toNat_succ_toUInt32 hi hsize

/-- The built-in planner, for the client of a production build: six stages, numbered one to
six. -/
theorem plan_numbers_client_production :
    let ctx : PlanContext := ⟨⟨.production, false, true, false⟩, AliasTable.empty [],
      some "svelte", ⟨circularDependency, defaultNamespace⟩⟩
    (StageId.all.filter fun d => d.appliesTo .client (ctx.env.forTarget .client)).length <
        UInt32.size ∧
      ((Planner.mk StageId.all).plan .client ctx).stages.map (fun st => st.ordinal.toNat) =
        [1, 2, 3, 4, 5, 6] := by
  intro ctx
  have hsize :
      (StageId.all.filter fun d => d.appliesTo .client (ctx.env.forTarget .client)).length <
        UInt32.size := by
    decide
  exact ⟨hsize, (plan_numbers_applicable_stages StageId.all .client ctx hsize).2.2.2.1⟩

end Planner

end Bundling
