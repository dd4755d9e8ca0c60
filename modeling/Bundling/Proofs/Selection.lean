import Bundling.Proofs.Build

/-!
# Planning named targets

Planning the targets named by a list reads each name trimmed of blank characters and stops at
the first name that is no target, before the aliases or the namespace are looked at.
Otherwise it gives exactly what planning every target gives — the same refusal, or the same
plan with only the named targets' pipelines kept. A target's pipeline does not depend on the
targets planned with it, so the outcome depends only on the set of named targets: not on
their order, their repetitions or the blanks around them.

## Main definitions

- `ByTarget.restrict`, `Plan.restrict` — keep the values of the targets that pass a test

## Main statements

- `Settings.buildTargets_eq_restrict` — planning some targets is planning all, restricted
- `Settings.parseNames_eq_error`, `Settings.parseNames_eq_ok` — reading the names
- `Settings.buildSelected_restricts` — planning named targets
-/

namespace Bundling

namespace ByTarget

variable {α : Type}

/-- The values of the targets that pass `keep`. -/
def restrict (m : ByTarget α) (keep : Target → Bool) : ByTarget α :=
  ⟨if keep .client then m.client else none, if keep .server then m.server else none,
    if keep .serviceworker then m.serviceworker else none⟩

@[simp] theorem get_restrict (m : ByTarget α) (keep : Target → Bool) (t : Target) :
    (m.restrict keep).get t = if keep t then m.get t else none := by
  cases t <;> rfl

theorem ext_get {m m' : ByTarget α} (h : ∀ t, m.get t = m'.get t) : m = m' := by
  cases m
  cases m'
  have hc := h .client
  have hs := h .server
  have hw := h .serviceworker
  simp only [get] at hc hs hw
  rw [hc, hs, hw]

end ByTarget

/-- A plan with only the pipelines of the targets that pass `keep`. -/
def Plan.restrict (p : Plan) (keep : Target → Bool) : Plan :=
  { p with pipelines := p.pipelines.restrict keep }

theorem Target.parse_eq_ok_iff (s : String) (t : Target) :
    Target.parse s = .ok t ↔ t.name = s := by
  constructor
  · intro h
    unfold parse at h
    split at h
    · rename_i t' hfind
      cases h
      simpa using List.find?_some hfind
    · cases h
  · rintro rfl
    exact parse_name t

theorem Target.parse_of_forall_ne {s : String} (h : ∀ t : Target, t.name ≠ s) :
    Target.parse s = .error (.unknownTarget s) := by
  have hnone : ofName? s = none := by
    simp only [ofName?, List.find?_eq_none, beq_iff_eq]
    exact fun t _ => h t
  simp [parse, hnone]

namespace Settings

variable (s : Settings) (rx : RegexLib) (planner : Planner) (env : Env)

/-- **Planning some targets is planning every target, restricted to them**: the same refusal,
or the same plan with only their pipelines. -/
theorem buildTargets_eq_restrict (ts : List Target) :
    s.buildTargets rx planner env ts =
      (s.buildAll rx planner env).map fun plan => plan.restrict fun t => decide (t ∈ ts) := by
  unfold buildAll buildTargets
  cases s.aliasTable with
  | error e => rfl
  | ok table =>
    cases s.diagnosticFilter rx with
    | error e => rfl
    | ok filter =>
      -- both plan each target under the same context; only the set of targets differs
      simp only [bind, Except.bind, pure, Except.pure, Except.map, Plan.restrict,
        Except.ok.injEq, Plan.mk.injEq, true_and]
      refine ByTarget.ext_get fun t => ?_
      rw [ByTarget.get_restrict, ByTarget.get_ofList_map, ByTarget.get_ofList_map,
        if_pos (Target.mem_all t)]
      by_cases ht : t ∈ ts <;> simp [ht]

theorem mem_targetSet (ts : List Target) (t : Target) : t ∈ targetSet ts ↔ t ∈ ts := by
  simp [targetSet, Target.mem_all]

/-- The target names of a list, read after trimming. -/
abbrev readNames (names : List String) : Except BuildError (List Target) :=
  names.mapM fun n => Target.parse (Text.trim n)

theorem parseNames_eq_error {names before after : List String} {n : String}
    (hnames : names = before ++ n :: after)
    (hbefore : ∀ m ∈ before, ∃ t : Target, t.name = Text.trim m)
    (hn : ∀ t : Target, t.name ≠ Text.trim n) :
    readNames names = .error (.unknownTarget (Text.trim n)) := by
  subst hnames
  induction before with
  | nil => simp [readNames, List.mapM_cons, Target.parse_of_forall_ne hn, bind, Except.bind]
  | cons m rest ih =>
    obtain ⟨t, ht⟩ := hbefore m List.mem_cons_self
    have hm : Target.parse (Text.trim m) = .ok t := (Target.parse_eq_ok_iff _ _).2 ht
    have hrest := ih fun m' hm' => hbefore m' (List.mem_cons_of_mem m hm')
    simp only [readNames] at hrest
    simp [readNames, List.mapM_cons, hm, hrest, bind, Except.bind]

theorem parseNames_eq_ok {names : List String}
    (hnames : ∀ n ∈ names, ∃ t : Target, t.name = Text.trim n) :
    ∃ ts, readNames names = .ok ts ∧
      ∀ t : Target, t ∈ ts ↔ ∃ n ∈ names, Text.trim n = t.name := by
  induction names with
  | nil => exact ⟨[], rfl, by simp⟩
  | cons n rest ih =>
    obtain ⟨t, ht⟩ := hnames n List.mem_cons_self
    obtain ⟨ts, hts, hmem⟩ := ih fun m hm => hnames m (List.mem_cons_of_mem n hm)
    have hn : Target.parse (Text.trim n) = .ok t := (Target.parse_eq_ok_iff _ _).2 ht
    simp only [readNames] at hts
    refine ⟨t :: ts, by simp [readNames, List.mapM_cons, hn, hts, bind, Except.bind, pure,
      Except.pure], fun u => ?_⟩
    simp only [List.mem_cons, hmem u, or_and_right, exists_or, exists_eq_left]
    constructor
    · rintro (rfl | h)
      · exact .inl ht.symm
      · exact .inr h
    · rintro (h | h)
      · exact .inl (Target.name_injective (ht.trans h)).symm
      · exact .inr h

theorem buildSelected_of_named {names : List String}
    (hnames : ∀ n ∈ names, ∃ t : Target, t.name = Text.trim n) :
    s.buildSelected rx planner env names = (s.buildAll rx planner env).map fun plan =>
      plan.restrict fun t => names.any fun n => Text.trim n == t.name := by
  obtain ⟨ts, hts, hmem⟩ := parseNames_eq_ok hnames
  -- the targets kept are those of the set the names read as
  have hkeep : (fun t => decide (t ∈ targetSet ts)) =
      fun t => names.any fun n => Text.trim n == t.name := by
    funext t
    rw [Bool.eq_iff_iff, decide_eq_true_iff, mem_targetSet, hmem t, List.any_eq_true]
    simp
  simp only [readNames] at hts
  simp only [buildSelected, hts, bind, Except.bind]
  rw [buildTargets_eq_restrict, hkeep]

theorem restrict_true (plan : Plan) : plan.restrict (fun _ => true) = plan := rfl

theorem restrict_false (plan : Plan) :
    plan.restrict (fun _ => false) = { plan with pipelines := {} } := rfl

/-- **Planning named targets.** When some name, trimmed of blank characters, is no target,
the first such name in the list is refused as an unknown target, whatever the aliases and the
namespace. Otherwise the outcome is that of planning every target — the same refusal, or the
same plan with the pipelines of the named targets only; so it depends only on the set of
named targets, the three names give the plan of every target, and no name gives a plan with
no pipelines. A target's pipeline is the same whatever targets are planned with it. -/
theorem buildSelected_restricts :
    (∀ (names before after : List String) (n : String), names = before ++ n :: after →
      (∀ m ∈ before, ∃ t : Target, t.name = Text.trim m) →
      (∀ t : Target, t.name ≠ Text.trim n) →
      s.buildSelected rx planner env names = .error (.unknownTarget (Text.trim n))) ∧
    (∀ names : List String, (∀ n ∈ names, ∃ t : Target, t.name = Text.trim n) →
      s.buildSelected rx planner env names = (s.buildAll rx planner env).map fun plan =>
        plan.restrict fun t : Target => names.any fun n => Text.trim n == t.name) ∧
    (∀ names names' : List String, (∀ n ∈ names, ∃ t : Target, t.name = Text.trim n) →
      (∀ n ∈ names', ∃ t : Target, t.name = Text.trim n) →
      (∀ t : Target,
        (∃ n ∈ names, Text.trim n = t.name) ↔ (∃ n ∈ names', Text.trim n = t.name)) →
      s.buildSelected rx planner env names = s.buildSelected rx planner env names') ∧
    s.buildSelected rx planner env ["client", "server", "serviceworker"] = s.buildAll rx planner env ∧
    s.buildSelected rx planner env [] =
      (s.buildAll rx planner env).map (fun plan => { plan with pipelines := {} }) ∧
    (∀ (ts : List Target) (t : Target), t ∈ ts →
      (s.buildTargets rx planner env ts).map (fun plan => plan.pipelines.get t) =
        (s.buildAll rx planner env).map fun plan => plan.pipelines.get t) := by
  refine ⟨?_, fun names hnames => s.buildSelected_of_named rx planner env hnames, ?_, ?_, ?_, ?_⟩
  · intro names before after n hsplit hbefore hn
    have hread := parseNames_eq_error hsplit hbefore hn
    simp only [readNames] at hread
    simp only [buildSelected, hread, bind, Except.bind]
  · intro names names' hnames hnames' hsame
    rw [s.buildSelected_of_named rx planner env hnames,
      s.buildSelected_of_named rx planner env hnames']
    -- the two lists keep the same targets
    have hkeep : (fun t : Target => names.any fun n => Text.trim n == t.name) =
        fun t : Target => names'.any fun n => Text.trim n == t.name := by
      funext t
      rw [Bool.eq_iff_iff, List.any_eq_true, List.any_eq_true]
      simpa only [beq_iff_eq] using hsame t
    rw [hkeep]
  · have hall :
        ∀ n ∈ ["client", "server", "serviceworker"], ∃ t : Target, t.name = Text.trim n := by
      simp only [List.mem_cons, List.not_mem_nil, or_false, forall_eq_or_imp, forall_eq]
      exact ⟨⟨.client, by decide⟩, ⟨.server, by decide⟩,
        ⟨.serviceworker, by decide⟩⟩
    rw [s.buildSelected_of_named rx planner env hall]
    -- every target is named
    have hkeep : (fun t : Target => ["client", "server", "serviceworker"].any
        fun n => Text.trim n == t.name) = fun _ => true := by
      funext t
      cases t <;> decide
    rw [hkeep]
    cases s.buildAll rx planner env <;> rfl
  · rw [s.buildSelected_of_named rx planner env (by simp)]
    cases s.buildAll rx planner env <;> rfl
  · intro ts t ht
    rw [buildTargets_eq_restrict]
    cases s.buildAll rx planner env with
    | error e => rfl
    | ok plan => simp [Except.map, Plan.restrict, ht]

/-- With the defaults of a project, the names ` server`, `edge` and `client` stop at `edge`;
` server ` plans the server alone, as `server, server` does; and the server's pipeline planned
with the client is the one of the plan of every target. -/
theorem buildSelected_restricts_server :
    let s := Settings.forRoot "/app"
    let env : Env := ⟨.production, false, true, false⟩
    s.buildSelected .literal Planner.builtin env [" server", "edge", "client"] =
      .error (.unknownTarget "edge") ∧
    s.buildSelected .literal Planner.builtin env [" server "] =
      (s.buildAll .literal Planner.builtin env).map (fun plan => plan.restrict (· == .server)) ∧
    s.buildSelected .literal Planner.builtin env [" server "] =
      s.buildSelected .literal Planner.builtin env ["server", "server"] ∧
    (s.buildTargets .literal Planner.builtin env [.client, .server]).map
        (fun plan => plan.pipelines.get .server) =
      (s.buildAll .literal Planner.builtin env).map (fun plan => plan.pipelines.get .server) := by
  intro s env
  obtain ⟨hunknown, hnamed, hsame, -, -, hpipeline⟩ :=
    buildSelected_restricts s .literal Planner.builtin env
  have hserver : ∀ m ∈ [" server "], ∃ t : Target, t.name = Text.trim m := by
    simp only [List.mem_singleton, forall_eq]
    exact ⟨.server, by decide⟩
  have hedge := hunknown _ [" server"] ["client"] "edge" rfl
    (by simp only [List.mem_singleton, forall_eq]; exact ⟨.server, by decide⟩)
    (by intro t; cases t <;> decide)
  rw [show Text.trim "edge" = "edge" by decide] at hedge
  -- only the server is kept
  have hkeep : (fun t : Target => [" server "].any fun n => Text.trim n == t.name) =
      (· == .server) := by
    funext t
    cases t <;> decide
  refine ⟨hedge, (hnamed _ hserver).trans (by rw [hkeep]), hsame _ _ hserver
    (by simp only [List.mem_cons, List.not_mem_nil, or_false, forall_eq_or_imp, forall_eq]
        exact ⟨⟨.server, by decide⟩, ⟨.server, by decide⟩⟩)
    (by intro t; cases t <;> decide),
    hpipeline _ _ (by simp)⟩

end Settings

end Bundling
