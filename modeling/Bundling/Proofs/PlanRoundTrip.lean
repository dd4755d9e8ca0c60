import Bundling.Plan.Json

/-!
# Reading back written plans

Writing a plan to JSON and reading it back gives the plan again. Each record is written as
an object with distinct member names, so reading its fields finds exactly what was written,
and every field reader inverts the writer of that field: texts, flags, stage keys, target and
mode names, 32-bit ordinals written in decimal, lists, sorted sets and maps of texts. The
members a pipeline leaves out, an absent entry and an empty set of externals, read back as the
defaults they stand for; `dedupe` of module resolution likewise. Stage options carry their
stage key under `type` beside the fields, no field of any stage is named `type`, and options
without fields read back from the bare tag.

## Main statements

- `StageOptions.ofJson?_toJson` — stage options of every stage read back
- `Pipeline.ofJson?_toJson` — a pipeline reads back, with or without entry and externals
- `Plan.ofJson?_toJson` — a plan reads back
- `json_round_trip` — the round trips together
-/

namespace Bundling

open Json

/-! ### Records of plain fields -/

theorem Env.ofJson?_toJson (e : Env) : Env.ofJson? e.toJson = some e := by
  rw [Env.toJson, Env.ofJson?, fields?_obj (by simp)]
  cases e with
  | mk mode legacy browser typescript => cases mode <;> rfl

theorem Alias.ofJson?_toJson (a : Alias) : Alias.ofJson? a.toJson = some a := by
  rw [Alias.toJson, Alias.ofJson?, fields?_obj (by simp)]
  rfl

theorem Entry.ofJson?_toJson (e : Entry) : Entry.ofJson? e.toJson = some e := by
  rw [Entry.toJson, Entry.ofJson?, fields?_obj (by simp)]
  rfl

theorem Entry.toJson_ne_null (e : Entry) : e.toJson ≠ .null := by
  simp [Entry.toJson]

theorem Suppression.ofJson?_toJson (p : Suppression) : Suppression.ofJson? p.toJson = some p := by
  rw [Suppression.toJson, Suppression.ofJson?, fields?_obj (by simp)]
  rfl

/-! ### Stage options -/

namespace StageOptions

theorem type_not_mem_members (o : StageOptions) : "type" ∉ o.members.map Prod.fst := by
  cases o with
  | moduleResolution browser dedupe => cases dedupe <;> simp [members]
  | _ => simp [members]

/-- The tag of written options is the stage key, and the rest is the fields. -/
theorem tagged?_toJson (o : StageOptions) :
    Json.tagged? o.toJson = some (o.id.key, .obj o.members) := by
  have hnone : o.members.filter (fun p => p.1 == "type") = [] := by
    refine List.filter_eq_nil_iff.mpr fun p hp htype => type_not_mem_members o ?_
    rw [← beq_iff_eq.mp htype]
    exact List.mem_map_of_mem hp
  have hrest : o.members.filter (fun p => p.1 != "type") = o.members := by
    refine List.filter_eq_self.mpr fun p hp => ?_
    simp only [bne_iff_ne, ne_eq]
    rintro htype
    exact type_not_mem_members o (htype ▸ List.mem_map_of_mem hp)
  simp [toJson, Json.tagged?, hnone, hrest]

theorem ofFields?_members (o : StageOptions) : ofFields? o.id (.obj o.members) = some o := by
  cases o with
  | aliasResolution entries extensions =>
    rw [id, members, ofFields?, fields?_obj (by simp)]
    simp [Json.required?, Alias.listToJson, list?_arr_map, Alias.ofJson?_toJson, list?_ofStrings]
  | envSubstitution replacements =>
    rw [id, members, ofFields?, fields?_obj (by simp)]
    simp [Json.required?, textMap?_ofStringFields]
  | componentCompilation generate dev hydratable emitCss pre =>
    rw [id, members, ofFields?, fields?_obj (by simp)]
    cases generate <;> rfl
  | moduleResolution browser dedupe =>
    -- an absent package is left out and read back as absent
    cases dedupe <;> rfl
  | interopNormalization => rfl
  | typedSource check => rfl
  | legacyDownlevel extensions helpers exclude browserslist plugins =>
    rw [id, members, ofFields?, fields?_obj (by simp)]
    simp [Json.required?, list?_ofStrings]
  | minification asModule => rfl

/-- **Stage options read back**: the stage key under `type` selects the stage, and its
fields are read from the other members. -/
theorem ofJson?_toJson (o : StageOptions) : ofJson? o.toJson = some o := by
  rw [ofJson?, tagged?_toJson]
  simp [StageId.ofKey?_key, ofFields?_members]

end StageOptions

theorem Stage.ofJson?_toJson (s : Stage) : Stage.ofJson? s.toJson = some s := by
  rw [Stage.toJson, Stage.ofJson?, fields?_obj (by simp)]
  simp [Json.required?, Json.variant?, StageId.ofKey?_key, uint32?_ofNat,
    StageOptions.ofJson?_toJson]

/-! ### Pipelines and plans -/

/-- **A pipeline reads back.** An absent entry and an empty set of externals are left out
and read back as the defaults. -/
theorem Pipeline.ofJson?_toJson (p : Pipeline) : Pipeline.ofJson? p.toJson = some p := by
  obtain ⟨target, entry, stages, externals, diagnostics⟩ := p
  have hstages : list? Stage.ofJson? (.arr (stages.map Stage.toJson)) = some stages :=
    list?_arr_map fun s _ => Stage.ofJson?_toJson s
  -- the members written depend on whether there is an entry and whether there are externals
  by_cases hext : externals.isEmpty
  · obtain rfl := TextSet.eq_empty_of_isEmpty hext
    cases entry <;>
    · simp only [Pipeline.toJson, hext, ↓reduceIte, List.nil_append, List.append_nil,
        List.cons_append]
      rw [Pipeline.ofJson?, fields?_obj (by simp)]
      simp [hstages, Json.required?, Json.withDefault?, Json.optional?, Json.variant?,
        Target.ofName?_name, Entry.toJson_ne_null, Entry.ofJson?_toJson,
        Suppression.ofJson?_toJson]
  · cases entry <;>
    · simp only [Pipeline.toJson, hext, Bool.false_eq_true, ↓reduceIte, List.nil_append,
        List.append_nil, List.cons_append]
      rw [Pipeline.ofJson?, fields?_obj (by simp)]
      simp [hstages, Json.required?, Json.withDefault?, Json.optional?, Json.variant?,
        Target.ofName?_name, Entry.toJson_ne_null, Entry.ofJson?_toJson,
        Suppression.ofJson?_toJson, textSet?_ofStrings]

/-- The pipelines written under their target names read back. -/
theorem Plan.pipelinesOfJson?_map (m : ByTarget Pipeline) {g : Target × Pipeline → String × Json}
    (hg : ∀ t q, g (t, q) = (t.name, q.toJson)) :
    Plan.pipelinesOfJson? (.obj (m.toList.map g)) = some m := by
  simp only [Plan.pipelinesOfJson?]
  rw [mapM_map_eq_some]
  · exact congrArg some (ByTarget.ofList_toList m)
  · -- each key reads back as its target and each value as its pipeline
    rintro ⟨t, q⟩ -
    simp [hg, Target.ofName?_name, Pipeline.ofJson?_toJson]

/-- **A plan reads back.** -/
theorem Plan.ofJson?_toJson (p : Plan) : Plan.ofJson? p.toJson = some p := by
  rw [Plan.toJson, Plan.ofJson?, fields?_obj (by simp)]
  simp [Json.required?, Json.withDefault?, Env.ofJson?_toJson, Alias.listToJson, list?_arr_map,
    Alias.ofJson?_toJson, Plan.pipelinesOfJson?_map]

/-- **Written plans read back**: reading the JSON form of a plan gives the plan, and so for a
pipeline on its own, for the options of every stage and for an environment with all its
flags; target names, the keys of the pipelines, read back as their targets. -/
theorem json_round_trip :
    (∀ p : Plan, Plan.ofJson? p.toJson = some p) ∧
    (∀ q : Pipeline, Pipeline.ofJson? q.toJson = some q) ∧
    (∀ o : StageOptions, StageOptions.ofJson? o.toJson = some o) ∧
    (∀ e : Env, Env.ofJson? e.toJson = some e) ∧
    (∀ t : Target, Target.ofName? t.name = some t) :=
  ⟨Plan.ofJson?_toJson, Pipeline.ofJson?_toJson, StageOptions.ofJson?_toJson,
    Env.ofJson?_toJson, Target.ofName?_name⟩

end Bundling
