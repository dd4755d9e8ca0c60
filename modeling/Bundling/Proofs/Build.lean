import Bundling.Settings
import Bundling.Proofs.Registration

/-!
# Planning a build

What planning a set of targets does with the settings. The alias table is made first and the
diagnostic filter next; a refusal of either is the whole outcome, and no other
field of the settings, the environment or the requested targets can cause or change it. A
plan records the environment as given and the aliases as listed, and holds for each requested
target its pipeline: the planner's stages under the environment as that target sees it, the
target's entry point and its external modules, and the diagnostics policy as written.

## Main statements

- `Settings.buildTargets_eq_error_iff`, `Settings.buildTargets_eq_ok_iff` — the two outcomes
- `ByTarget.get_ofList_map` — the pipelines of a plan, target by target
- `Planner.mem_plan_stages` — every planned stage carries its stage's options for the target
- `DiagnosticFilter.make_eq_error_iff` — a filter is refused for a blank namespace or a
  pattern the library refuses
- `Settings.buildTargets_refusals` — when and how planning is refused
- `Settings.buildAll_plan` — what a plan of every target holds
-/

namespace Bundling

namespace DiagnosticFilter

variable {rx : RegexLib}

/-- A filter is fixed by its policy: the pattern is the library's compilation of it. -/
theorem ext {f f' : DiagnosticFilter rx} (h : f.policy = f'.policy) : f = f' := by
  obtain ⟨p, hp, r, hr⟩ := f
  obtain ⟨p', hp', r', hr'⟩ := f'
  subst h
  have hpattern : r = r' := Except.ok.inj (hr.symm.trans hr')
  subst hpattern
  rfl

/-- The library compiles the segment pattern of a filter's namespace to the filter's
pattern. -/
theorem compile_eq_pattern {f : DiagnosticFilter rx} {code ns : String}
    (h : f.policy = ⟨code, ns⟩) : rx.compile (rx.segmentPattern ns) = .ok f.pattern := by
  have hcompiled := f.compiled
  rw [h] at hcompiled
  exact hcompiled

/-- **A filter is refused** for a namespace that trims to nothing, and otherwise when the
library refuses the namespace's segment pattern, with the library's message. -/
theorem make_eq_error_iff (code ns : String) (e : BuildError) :
    make rx code ns = .error e ↔
      (Text.trim ns = "" ∧ e = .emptyNamespace) ∨
      (Text.trim ns ≠ "" ∧ ∃ msg, rx.compile (rx.segmentPattern ns) = .error msg ∧
        e = .namespacePattern msg) := by
  unfold make
  split
  · rename_i hblank
    simp only [Except.error.injEq, hblank, true_and, ne_eq, not_true_eq_false, false_and,
      or_false]
    exact eq_comm
  · rename_i hblank
    split
    · rename_i msg hc
      simp only [Except.error.injEq, hblank, false_and, ne_eq, not_false_eq_true, hc,
        true_and, false_or]
      constructor
      · rintro rfl
        exact ⟨msg, rfl, rfl⟩
      · rintro ⟨msg', hmsg, rfl⟩
        cases hmsg
        rfl
    · rename_i r hc
      simp [hblank, hc]

/-- **A filter is made** for every other namespace, and keeps code and namespace as given. -/
theorem make_eq_ok_iff (code ns : String) (f : DiagnosticFilter rx) :
    make rx code ns = .ok f ↔ Text.trim ns ≠ "" ∧ f.policy = ⟨code, ns⟩ := by
  unfold make
  split
  · rename_i hblank
    simp [hblank]
  · rename_i hblank
    split
    · -- a filter of this policy would hold the compiled pattern the library refused
      rename_i msg hc
      simp only [reduceCtorEq, false_iff, not_and]
      intro _ hpolicy
      rw [compile_eq_pattern hpolicy] at hc
      cases hc
    · rename_i r hc
      simp only [Except.ok.injEq, ne_eq, hblank, not_false_eq_true, true_and]
      exact ⟨fun hf => hf ▸ rfl, fun hf => ext hf.symm⟩

/-- **A filter is made** exactly when the namespace is not blank and the library compiles its
segment pattern. -/
theorem exists_make_iff (code ns : String) :
    (∃ f, make rx code ns = .ok f) ↔
      Text.trim ns ≠ "" ∧ ∃ r, rx.compile (rx.segmentPattern ns) = .ok r := by
  constructor
  · rintro ⟨f, hf⟩
    obtain ⟨hblank, hpolicy⟩ := (make_eq_ok_iff code ns f).1 hf
    exact ⟨hblank, f.pattern, compile_eq_pattern hpolicy⟩
  · rintro ⟨hblank, r, hr⟩
    exact ⟨⟨⟨code, ns⟩, hblank, r, hr⟩, (make_eq_ok_iff code ns _).2 ⟨hblank, rfl⟩⟩

end DiagnosticFilter

namespace ByTarget

variable {α : Type}

/-- Setting the values of a list of targets over a map: a listed target has its value, the
others keep theirs. -/
theorem get_foldl_set (ts : List Target) (f : Target → α) (m : ByTarget α) (t : Target) :
    ((ts.map fun t => (t, f t)).foldl (fun m p => m.set p.1 p.2) m).get t =
      if t ∈ ts then some (f t) else m.get t := by
  induction ts generalizing m with
  | nil => simp
  | cons u rest ih =>
    simp only [List.map_cons, List.foldl_cons, ih, List.mem_cons]
    by_cases ht : t ∈ rest
    · simp [ht]
    · by_cases hu : t = u
      · subst hu
        simp
      · simp [ht, hu, get_set_ne _ _ hu]

/-- **The map of a list of targets with their values** holds exactly the listed targets. -/
theorem get_ofList_map (ts : List Target) (f : Target → α) (t : Target) :
    (ofList (ts.map fun t => (t, f t))).get t = if t ∈ ts then some (f t) else none := by
  rw [ofList, get_foldl_set]
  simp

end ByTarget

theorem Target.mem_all (t : Target) : t ∈ Target.all := by
  cases t <;> simp [Target.all]

/-- **The environment as a target sees it**: the browser flag is set for every target but the
server, and the other flags are kept. -/
theorem Env.forTarget_eq (env : Env) (t : Target) :
    env.forTarget t = { env with browser := decide (t ≠ .server) } := by
  cases t <;> rfl

theorem TextSet.mem_union (xs ys : TextSet) (x : String) :
    x ∈ (xs.union ys).toList ↔ x ∈ xs.toList ∨ x ∈ ys.toList := by
  unfold TextSet.union
  -- inserting the texts of `ys` one after another, over any set
  generalize ys.toList = l
  induction l generalizing xs with
  | nil => simp
  | cons y rest ih =>
    rw [List.foldl_cons, ih, TextSet.mem_insert, List.mem_cons, or_assoc, or_left_comm]

theorem HostRuntime.externalsFor_eq (h : HostRuntime) (t : Target) (declared : TextSet) :
    h.externalsFor t declared =
      if t = .server then declared.union h.names else TextSet.empty := by
  cases t <;> rfl

namespace Planner

variable (planner : Planner) (t : Target) (ctx : PlanContext)

/-- **A planned stage carries its stage's options** for the target, derived under the
environment as the target sees it. -/
theorem mem_plan_stages {st : Stage} (h : st ∈ (planner.plan t ctx).stages) :
    st.options = st.id.optionsFor t { ctx with env := ctx.env.forTarget t } := by
  simp only [plan, List.mem_mapIdx] at h
  obtain ⟨i, hi, rfl⟩ := h
  simp [Stage.ofOptions]

/-- The stages of a plan are the planner's stages that apply to the target, in order. -/
theorem stageIds_plan :
    (planner.plan t ctx).stageIds = kept planner.stages t (ctx.env.forTarget t) := by
  refine List.ext_getElem? fun i => ?_
  simp [Pipeline.stageIds, plan, Stage.ofOptions, Function.comp_def]

end Planner

namespace Settings

variable (s : Settings) (rx : RegexLib) (planner : Planner) (env : Env) (ts : List Target)

/-- The context every target of the settings is planned under, given the alias table and
the filter. -/
def planContext (env : Env) (table : AliasTable) (filter : DiagnosticFilter rx) : PlanContext :=
  { env := env, aliases := table, dedupe := s.dedupe, diagnostics := filter.policy }

/-- **Planning fails** with the alias table's refusal, or, the table made, with the filter's. -/
theorem buildTargets_eq_error_iff (e : BuildError) :
    s.buildTargets rx planner env ts = .error e ↔
      s.aliasTable = .error e ∨
        (∃ table, s.aliasTable = .ok table ∧ s.diagnosticFilter rx = .error e) := by
  unfold buildTargets
  cases s.aliasTable with
  | error e' => simp [bind, Except.bind]
  | ok table =>
    cases s.diagnosticFilter rx with
    | error e' => simp [bind, Except.bind]
    | ok filter => simp [bind, Except.bind, pure, Except.pure]

/-- **Planning succeeds** once both are made, with the plan of the requested targets. -/
theorem buildTargets_eq_ok_iff (plan : Plan) :
    s.buildTargets rx planner env ts = .ok plan ↔
      ∃ table filter, s.aliasTable = .ok table ∧ s.diagnosticFilter rx = .ok filter ∧
        plan = { env := env, aliases := table.entries,
                 pipelines := ByTarget.ofList (ts.map fun t =>
                   (t, s.planTarget planner (s.planContext rx env table filter) t)) } := by
  unfold buildTargets
  cases s.aliasTable with
  | error e' => simp [bind, Except.bind]
  | ok table =>
    cases s.diagnosticFilter rx with
    | error e' => simp [bind, Except.bind]
    | ok filter =>
      simp only [bind, Except.bind, pure, Except.pure, Except.ok.injEq, exists_and_left,
        exists_eq_left']
      exact eq_comm

theorem aliasTable_eq_error_iff (e : BuildError) :
    s.aliasTable = .error e ↔
      ∃ before a after, s.aliases = before ++ a :: after ∧ AliasesValid before ∧
        a.RefusedAfter before ∧ e = a.refusal :=
  AliasTable.ofEntries_eq_error_iff _ _ _

theorem aliasTable_eq_ok_iff (table : AliasTable) :
    s.aliasTable = .ok table ↔
      AliasesValid s.aliases ∧ table.entries = s.aliases ∧ table.extensions = s.extensions :=
  AliasTable.ofEntries_eq_ok_iff _ _ _

theorem exists_aliasTable_iff :
    (∃ table, s.aliasTable = .ok table) ↔ AliasesValid s.aliases := by
  constructor
  · rintro ⟨table, h⟩
    exact ((s.aliasTable_eq_ok_iff table).1 h).1
  · intro h
    exact ⟨⟨s.aliases, s.extensions, h⟩, (s.aliasTable_eq_ok_iff _).2 ⟨h, rfl, rfl⟩⟩

theorem diagnosticFilter_eq_error_iff (e : BuildError) :
    s.diagnosticFilter rx = .error e ↔
      (Text.trim s.frameworkNamespace = "" ∧ e = .emptyNamespace) ∨
      (Text.trim s.frameworkNamespace ≠ "" ∧
        ∃ msg, rx.compile (rx.segmentPattern s.frameworkNamespace) = .error msg ∧
          e = .namespacePattern msg) :=
  DiagnosticFilter.make_eq_error_iff _ _ _

theorem exists_diagnosticFilter_iff :
    (∃ filter, s.diagnosticFilter rx = .ok filter) ↔
      Text.trim s.frameworkNamespace ≠ "" ∧
        ∃ r, rx.compile (rx.segmentPattern s.frameworkNamespace) = .ok r :=
  DiagnosticFilter.exists_make_iff _ _

/-- **The refusals of planning**, in the words of the settings: the first alias refused after
the aliases before it, else a blank namespace, else a namespace whose pattern the library
refuses. -/
theorem buildTargets_eq_error_iff_refused (e : BuildError) :
    s.buildTargets rx planner env ts = .error e ↔
      (∃ before a after, s.aliases = before ++ a :: after ∧ AliasesValid before ∧
        a.RefusedAfter before ∧ e = a.refusal) ∨
      (AliasesValid s.aliases ∧ Text.trim s.frameworkNamespace = "" ∧ e = .emptyNamespace) ∨
      (AliasesValid s.aliases ∧ Text.trim s.frameworkNamespace ≠ "" ∧
        ∃ msg, rx.compile (rx.segmentPattern s.frameworkNamespace) = .error msg ∧
          e = .namespacePattern msg) := by
  rw [buildTargets_eq_error_iff, aliasTable_eq_error_iff]
  -- the namespace is checked only once the table is made, that is for valid aliases
  have hnamespace : (∃ table, s.aliasTable = .ok table ∧ s.diagnosticFilter rx = .error e) ↔
      AliasesValid s.aliases ∧ s.diagnosticFilter rx = .error e := by
    rw [← exists_aliasTable_iff]
    constructor
    · rintro ⟨table, htable, hfilter⟩
      exact ⟨⟨table, htable⟩, hfilter⟩
    · rintro ⟨⟨table, htable⟩, hfilter⟩
      exact ⟨table, htable, hfilter⟩
  rw [hnamespace, diagnosticFilter_eq_error_iff, and_or_left]

/-- **Planning succeeds** exactly for valid aliases and a namespace that is not blank and whose
pattern the library compiles. -/
theorem exists_buildTargets_iff :
    (∃ plan, s.buildTargets rx planner env ts = .ok plan) ↔
      AliasesValid s.aliases ∧ Text.trim s.frameworkNamespace ≠ "" ∧
        ∃ r, rx.compile (rx.segmentPattern s.frameworkNamespace) = .ok r := by
  rw [← exists_aliasTable_iff, ← exists_diagnosticFilter_iff]
  constructor
  · rintro ⟨plan, h⟩
    obtain ⟨table, filter, htable, hfilter, -⟩ :=
      (s.buildTargets_eq_ok_iff rx planner env ts plan).1 h
    exact ⟨⟨table, htable⟩, ⟨filter, hfilter⟩⟩
  · rintro ⟨⟨table, htable⟩, ⟨filter, hfilter⟩⟩
    exact ⟨_, (s.buildTargets_eq_ok_iff rx planner env ts _).2
      ⟨table, filter, htable, hfilter, rfl⟩⟩

/-- **When and how planning is refused**, for a library that compiles the namespace's
pattern. Planning a set of targets fails exactly when some alias has an empty name or the name
of an alias before it — and then with the error of the first such alias: the empty name, else
the duplicate — or when the aliases are valid and the framework namespace trims to nothing.
Aliases are checked before the namespace. The outcome depends on nothing but the aliases and
the namespace: not on the environment, the requested targets, the planner, the entries, the
deduplicated package, the extensions, the declared dependencies or the host runtime. -/
theorem buildTargets_refusals
    (hcompile : ∃ r, rx.compile (rx.segmentPattern s.frameworkNamespace) = .ok r)
    (e : BuildError) :
    (s.buildTargets rx planner env ts = .error e ↔
      (∃ before a after, s.aliases = before ++ a :: after ∧ AliasesValid before ∧
        (a.name = "" ∨ a.name ∈ before.map Alias.name) ∧
        e = if a.name = "" then .emptyAliasName else .duplicateAlias a.name) ∨
      (AliasesValid s.aliases ∧ Text.trim s.frameworkNamespace = "" ∧ e = .emptyNamespace)) ∧
    ((∃ plan, s.buildTargets rx planner env ts = .ok plan) ↔
      AliasesValid s.aliases ∧ Text.trim s.frameworkNamespace ≠ "") ∧
    (∀ (s' : Settings) (planner' : Planner) (env' : Env) (ts' : List Target),
      s'.aliases = s.aliases → s'.frameworkNamespace = s.frameworkNamespace →
      (s'.buildTargets rx planner' env' ts' = .error e ↔
        s.buildTargets rx planner env ts = .error e)) ∧
    BuildError.emptyAliasName.message =
      "configuration error: alias symbolic name must not be empty" ∧
    BuildError.emptyNamespace.message =
      "configuration error: diagnostic framework namespace must not be empty" ∧
    BuildError.emptyAliasName.token = "configuration" ∧
    BuildError.emptyNamespace.token = "configuration" := by
  obtain ⟨r, hr⟩ := hcompile
  -- the library compiles the pattern, so its refusal is never the outcome
  have hcompiled : ¬ (AliasesValid s.aliases ∧ Text.trim s.frameworkNamespace ≠ "" ∧
      ∃ msg, rx.compile (rx.segmentPattern s.frameworkNamespace) = .error msg ∧
        e = .namespacePattern msg) := by
    rintro ⟨-, -, msg, hmsg, -⟩
    rw [hr] at hmsg
    cases hmsg
  refine ⟨?_, ?_, ?_, rfl, rfl, rfl, rfl⟩
  · rw [s.buildTargets_eq_error_iff_refused, or_iff_left hcompiled]
    exact Iff.rfl
  · rw [s.exists_buildTargets_iff]
    exact ⟨fun ⟨hvalid, hblank, _⟩ => ⟨hvalid, hblank⟩,
      fun ⟨hvalid, hblank⟩ => ⟨hvalid, hblank, r, hr⟩⟩
  · intro s' planner' env' ts' haliases hnamespace
    rw [s.buildTargets_eq_error_iff_refused, s'.buildTargets_eq_error_iff_refused, haliases,
      hnamespace]

/-- The settings of a project listing the component alias twice are refused for the repeated
name, the program's library compiling the default namespace's pattern. -/
theorem buildTargets_refuses_repeated_alias :
    let a : Alias := ⟨"components", "/app/src/components/"⟩
    let s : Settings := { Settings.forRoot "/app" with aliases := [a, a] }
    (∃ r, RegexLib.literal.compile (RegexLib.literal.segmentPattern s.frameworkNamespace) =
      .ok r) ∧
    s.buildTargets .literal Planner.builtin ⟨.production, false, true, false⟩ Target.all =
      .error (.duplicateAlias "components") := by
  intro a s
  have hnamespace : s.frameworkNamespace = defaultNamespace := rfl
  have hcompile :
      ∃ r, RegexLib.literal.compile (RegexLib.literal.segmentPattern s.frameworkNamespace) =
        .ok r := by
    rw [hnamespace]
    exact ⟨_, rfl⟩
  have hvalid : AliasesValid [a] := by simp [AliasesValid, a]
  refine ⟨hcompile, (buildTargets_refusals s .literal _ _ _ hcompile _).1.2
    (.inl ⟨[a], a, [], rfl, hvalid, .inr (by simp), ?_⟩)⟩
  simp [a]

/-- **A plan of every target**, when planning succeeds: it records the schema, the
environment as given and the aliases as listed, and holds a pipeline for each of the three
targets, keyed by its own target. A target's pipeline has the target's entry point, the
diagnostics policy as written, the union of the declared dependencies and the host's builtins
as external modules for the server and none for the others, and the planner's stages under the
environment as the target sees it — the browser flag set for every target but the server,
the other flags kept. So every alias-resolution stage carries the aliases and extensions of
the settings, every environment substitution the target's own flags, and every module
resolution the deduplicated package for client and server and none for the service worker. -/
theorem buildAll_plan (plan : Plan) (h : s.buildAll rx planner env = .ok plan) :
    plan.schema = planSchema ∧ plan.env = env ∧ plan.aliases = s.aliases ∧
    ∃ table : AliasTable, table.entries = s.aliases ∧ table.extensions = s.extensions ∧
      ∀ t : Target, ∃ q, plan.pipelines.get t = some q ∧ q.target = t ∧
        q.entry = s.entries.get t ∧
        q.diagnostics = ⟨s.diagnosticCode, s.frameworkNamespace⟩ ∧
        q.externals = (if t = .server then s.declared.union s.host.names else TextSet.empty) ∧
        (∀ x, x ∈ q.externals.toList ↔
          t = .server ∧ (x ∈ s.declared.toList ∨ x ∈ s.host.names.toList)) ∧
        q.stages = (planner.plan t
          ⟨env, table, s.dedupe, ⟨s.diagnosticCode, s.frameworkNamespace⟩⟩).stages ∧
        env.forTarget t = { env with browser := decide (t ≠ .server) } ∧
        q.stageIds = Planner.kept planner.stages t (env.forTarget t) ∧
        ∀ st ∈ q.stages,
          (st.id = .aliasResolution → st.options = .aliasResolution s.aliases s.extensions) ∧
          (st.id = .envSubstitution →
            st.options = .envSubstitution (StageId.replacementsFor (env.forTarget t))) ∧
          (st.id = .moduleResolution →
            st.options = .moduleResolution (t == .client)
              (if t = .serviceworker then none else s.dedupe)) := by
  obtain ⟨table, filter, htable, hfilter, rfl⟩ :=
    (s.buildTargets_eq_ok_iff rx planner env Target.all plan).1 h
  obtain ⟨-, hentries, hextensions⟩ := (s.aliasTable_eq_ok_iff table).1 htable
  have hpolicy : filter.policy = ⟨s.diagnosticCode, s.frameworkNamespace⟩ :=
    ((DiagnosticFilter.make_eq_ok_iff _ _ filter).1 hfilter).2
  -- every target is planned under the same context, whose policy is the one written
  have hctx : s.planContext rx env table filter =
      ⟨env, table, s.dedupe, ⟨s.diagnosticCode, s.frameworkNamespace⟩⟩ := by
    rw [planContext, hpolicy]
  refine ⟨rfl, rfl, hentries, table, hentries, hextensions, fun t => ?_⟩
  refine ⟨s.planTarget planner (s.planContext rx env table filter) t, ?_, rfl, rfl, ?_, ?_, ?_, ?_,
    Env.forTarget_eq env t, ?_, ?_⟩
  · rw [ByTarget.get_ofList_map, if_pos (Target.mem_all t)]
  · simp only [planTarget, Planner.plan, hctx]
  · exact HostRuntime.externalsFor_eq _ _ _
  · intro x
    simp only [planTarget, HostRuntime.externalsFor_eq]
    by_cases ht : t = .server
    · simp [ht, TextSet.mem_union]
    · simp [ht, TextSet.empty]
  · rw [hctx]
    rfl
  · exact Planner.stageIds_plan planner t _
  · intro st hst
    have hoptions := Planner.mem_plan_stages planner t _ hst
    rw [hctx] at hoptions
    refine ⟨fun hid => ?_, fun hid => ?_, fun hid => ?_⟩
    · rw [hoptions, hid, ← hentries, ← hextensions]
      rfl
    · rw [hoptions, hid]
      rfl
    · rw [hoptions, hid]
      cases t <;> rfl

/-- A planner of alias and module resolution, settings with one alias and one declared
dependency, and a production browser build: the server keeps the dependency external, and
the service worker resolves modules without deduplication. -/
theorem buildAll_plan_two_stages :
    let s : Settings := ⟨"/app", [⟨"components", "/app/src/components/"⟩], [".js"],
      some "svelte", "CIRCULAR_DEPENDENCY", "@sapper", TextSet.empty.insert "left-pad",
      ⟨"node", "20", TextSet.empty⟩, {}⟩
    let planner : Planner := ⟨[.aliasResolution, .moduleResolution]⟩
    let env : Env := ⟨.production, false, true, false⟩
    let pipeline (t : Target) (externals : TextSet) (dedupe : Option String) : Pipeline :=
      ⟨t, none, [⟨.aliasResolution, 1, .aliasResolution s.aliases s.extensions⟩,
        ⟨.moduleResolution, 2, .moduleResolution (t == .client) dedupe⟩], externals,
        ⟨"CIRCULAR_DEPENDENCY", "@sapper"⟩⟩
    let plan : Plan :=
      { env := env
        aliases := s.aliases
        pipelines := ⟨some (pipeline .client TextSet.empty (some "svelte")),
          some (pipeline .server s.declared (some "svelte")),
          some (pipeline .serviceworker TextSet.empty none)⟩ }
    s.buildAll .literal planner env = .ok plan ∧ plan.aliases = s.aliases ∧
      (plan.pipelines.get .server).map Pipeline.externals = some s.declared := by
  intro s planner env pipeline plan
  have h : s.buildAll .literal planner env = .ok plan := by
    simp only [s, planner, env, plan, pipeline]
    rfl
  obtain ⟨-, -, haliases, table, -, -, hpipelines⟩ := buildAll_plan s .literal planner env plan h
  obtain ⟨q, hq, -, -, -, hexternals, -, -⟩ := hpipelines .server
  refine ⟨h, haliases, ?_⟩
  rw [hq, Option.map_some, hexternals]
  rfl

end Settings

end Bundling
