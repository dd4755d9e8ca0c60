import Bundling.Plan.Render
import Bundling.Json.Decode
import Bundling.Proofs.Selection

/-!
# Reading outlines back

The outline of a plan has one line per pipeline: the target, `": "`, and the keys of its
stages joined by `" > "`. No target name or stage key holds a line break, a colon or a
blank, and no stage key is empty, so an outline can be read back: cut into lines, each line
cut at its first `": "` and what follows at every `" > "`, nothing after the `": "` standing
for no stages. Reading gives the targets with their stage sequences, in target order. So two
plans whose pipelines sit under their own targets have the same outline exactly when they
plan the same targets with the same stage sequences, whatever the sequences: empty, or with
a stage repeated.

## Main definitions

- `Text.cutAt?` — cut a text at the first occurrence of a separator
- `Text.splitOnSep` — split a text at every occurrence of a separator
- `Plan.readOutline?` — read an outline back
- `Plan.stageSequences` — the planned targets with their stage sequences

## Main statements

- `Plan.readOutline?_join` — lines of targets and stage sequences read back
- `Plan.outline_eq_join` — the outline is the lines of the plan's stage sequences
- `Plan.outline_reads_back` — the outline, its reading and when two outlines agree
-/

namespace Bundling

namespace Text

/-- **The first cut** of a text at a separator: what stands before the first occurrence of
`sep` and what follows it; `none` when `sep` does not occur. -/
def cutAt? (sep : List Char) (s : List Char) : Option (List Char × List Char) :=
  if sep.isPrefixOf s then some ([], s.drop sep.length)
  else match s with
    | [] => none
    | c :: cs => (cutAt? sep cs).map fun r => (c :: r.1, r.2)

/-- **Splitting at every occurrence** of a separator, from the left: the pieces between the
occurrences, one more than there are occurrences. An empty separator does not split. -/
def splitOnSep : List Char → List Char → List (List Char)
  | [], s => [s]
  | _ :: _, [] => [[]]
  | d :: ds, c :: cs =>
    if (d :: ds).isPrefixOf (c :: cs) then [] :: splitOnSep (d :: ds) (cs.drop ds.length)
    else (splitOnSep (d :: ds) cs).modifyHead (c :: ·)
termination_by _ s => s.length

variable {d : Char} {ds : List Char}

theorem isPrefixOf_cons_append (b : List Char) : (d :: ds).isPrefixOf (d :: (ds ++ b)) = true :=
  List.isPrefixOf_iff_prefix.mpr (List.prefix_append (d :: ds) b)

theorem isPrefixOf_cons_of_ne {c : Char} (cs : List Char) (h : c ≠ d) :
    (d :: ds).isPrefixOf (c :: cs) = false := by
  simp [List.isPrefixOf, Ne.symm h]

/-- A separator whose first character does not occur in `a` is first found right after `a`. -/
theorem cutAt?_append_of_not_mem {a : List Char} (b : List Char) (h : d ∉ a) :
    cutAt? (d :: ds) (a ++ d :: (ds ++ b)) = some (a, b) := by
  induction a with
  | nil => simp [cutAt?]
  | cons c a ih =>
    simp only [List.mem_cons, not_or] at h
    rw [List.cons_append, cutAt?, isPrefixOf_cons_of_ne _ (Ne.symm h.1), ih h.2]
    rfl

/-- A text without the separator's first character is one piece. -/
theorem splitOnSep_of_not_mem {a : List Char} (h : d ∉ a) : splitOnSep (d :: ds) a = [a] := by
  induction a with
  | nil => simp [splitOnSep]
  | cons c a ih =>
    simp only [List.mem_cons, not_or] at h
    rw [splitOnSep, isPrefixOf_cons_of_ne _ (Ne.symm h.1), if_neg Bool.false_ne_true, ih h.2]
    rfl

/-- The first piece ends where the separator first occurs. -/
theorem splitOnSep_append_of_not_mem {a : List Char} (b : List Char) (h : d ∉ a) :
    splitOnSep (d :: ds) (a ++ d :: (ds ++ b)) = a :: splitOnSep (d :: ds) b := by
  induction a with
  | nil =>
    rw [List.nil_append, splitOnSep, if_pos (isPrefixOf_cons_append b)]
    simp
  | cons c a ih =>
    simp only [List.mem_cons, not_or] at h
    rw [List.cons_append, splitOnSep, isPrefixOf_cons_of_ne _ (Ne.symm h.1),
      if_neg Bool.false_ne_true, ih h.2]
    rfl

/-- **Splitting what was joined**: pieces without the separator's first character come back. -/
theorem splitOnSep_intercalate {ls : List (List Char)} (hne : ls ≠ []) (h : ∀ l ∈ ls, d ∉ l) :
    splitOnSep (d :: ds) ((d :: ds).intercalate ls) = ls := by
  induction ls with
  | nil => exact absurd rfl hne
  | cons l ls ih =>
    simp only [List.mem_cons, forall_eq_or_imp] at h
    cases ls with
    | nil => simpa using splitOnSep_of_not_mem h.1
    | cons l' ls =>
      rw [List.intercalate_cons_cons, List.append_assoc, List.cons_append,
        splitOnSep_append_of_not_mem _ h.1, ih (List.cons_ne_nil _ _) h.2]

theorem not_mem_intercalate {c : Char} {sep : List Char} {ls : List (List Char)} (hsep : c ∉ sep)
    (h : ∀ l ∈ ls, c ∉ l) : c ∉ sep.intercalate ls := by
  induction ls with
  | nil => simp
  | cons l ls ih =>
    simp only [List.mem_cons, forall_eq_or_imp] at h
    cases ls with
    | nil => simpa using h.1
    | cons l' ls =>
      rw [List.intercalate_cons_cons]
      simp only [List.mem_append, not_or]
      exact ⟨⟨h.1, hsep⟩, ih h.2⟩

end Text

/-! ### Names and keys in outlines -/

theorem Target.colon_not_mem_name (t : Target) : ':' ∉ t.name.toList := by
  cases t <;> decide

theorem Target.newline_not_mem_name (t : Target) : '\n' ∉ t.name.toList := by
  cases t <;> decide

theorem StageId.space_not_mem_key (id : StageId) : ' ' ∉ id.key.toList := by
  cases id <;> decide

theorem StageId.newline_not_mem_key (id : StageId) : '\n' ∉ id.key.toList := by
  cases id <;> decide

theorem StageId.key_toList_ne_nil (id : StageId) : id.key.toList ≠ [] := by
  cases id <;> decide

/-! ### Maps by target -/

namespace ByTarget

variable {α β : Type}

/-- The map with `f` applied to every value. -/
def map (f : α → β) (m : ByTarget α) : ByTarget β :=
  ⟨m.client.map f, m.server.map f, m.serviceworker.map f⟩

@[simp] theorem get_map (f : α → β) (m : ByTarget α) (t : Target) :
    (m.map f).get t = (m.get t).map f := by
  cases t <;> rfl

theorem mem_toList {m : ByTarget α} {e : Target × α} : e ∈ m.toList ↔ m.get e.1 = some e.2 := by
  obtain ⟨t, v⟩ := e
  simp [toList, Target.mem_all]

theorem toList_map (f : α → β) (m : ByTarget α) :
    (m.map f).toList = m.toList.map fun e => (e.1, f e.2) := by
  simp only [toList, get_map, List.map_filterMap]
  congr
  funext t
  cases m.get t <;> rfl

theorem toList_injective {m m' : ByTarget α} (h : m.toList = m'.toList) : m = m' := by
  rw [← ofList_toList m, h, ofList_toList]

end ByTarget

namespace Plan

/-- The line of a target and its stage sequence: the target's name, `": "`, the stage keys
joined by `" > "`, and a line break. -/
def sequenceLine (e : Target × List StageId) : String :=
  e.1.name ++ ": " ++ " > ".intercalate (e.2.map StageId.key) ++ "\n"

/-- Reads one outline line without its line break: the target name before the first `": "`,
and the stage keys after it, separated by `" > "`; nothing after the `": "` is no stages. -/
def readOutlineLine? (line : List Char) : Option (Target × List StageId) := do
  let parts ← Text.cutAt? [':', ' '] line
  let target ← Target.ofName? (String.ofList parts.1)
  let keys := if parts.2 = [] then [] else Text.splitOnSep [' ', '>', ' '] parts.2
  let stages ← keys.mapM fun k => StageId.ofKey? (String.ofList k)
  return (target, stages)

/-- **Reading an outline back**: its lines, each ended by a line break, read one by one. -/
def readOutline? (s : String) : Option (List (Target × List StageId)) :=
  (s.toList.splitOn '\n').dropLast.mapM readOutlineLine?

/-- The characters of an outline line: the line without its break, then the break. -/
theorem toList_sequenceLine (t : Target) (ids : List StageId) :
    (sequenceLine (t, ids)).toList =
      t.name.toList ++ ':' :: ' ' :: [' ', '>', ' '].intercalate (ids.map fun id => id.key.toList) ++
        ['\n'] := by
  simp [sequenceLine, List.map_map, Function.comp_def]

theorem readOutlineLine?_sequenceLine (t : Target) (ids : List StageId) :
    readOutlineLine? (t.name.toList ++ ':' :: ' ' ::
      [' ', '>', ' '].intercalate (ids.map fun id => id.key.toList)) = some (t, ids) := by
  have hcut : ∀ rest, Text.cutAt? [':', ' '] (t.name.toList ++ ':' :: ' ' :: rest) =
      some (t.name.toList, rest) :=
    fun rest => Text.cutAt?_append_of_not_mem rest (Target.colon_not_mem_name t)
  cases ids with
  | nil => simp [readOutlineLine?, hcut, Target.ofName?_name]
  | cons id ids =>
    -- the keys follow the `": "`: a first key that is not empty, then the others
    have hne : [' ', '>', ' '].intercalate ((id :: ids).map fun id => id.key.toList) ≠ [] := by
      obtain ⟨c, cs, hc⟩ := List.exists_cons_of_ne_nil (StageId.key_toList_ne_nil id)
      rw [List.map_cons, hc, List.intercalate_cons_cons_left]
      exact List.cons_ne_nil _ _
    have hkeys : ∀ l ∈ (id :: ids).map (fun id => id.key.toList), ' ' ∉ l :=
      List.forall_mem_map.mpr fun id' _ => StageId.space_not_mem_key id'
    simp only [readOutlineLine?, hcut, String.ofList_toList, Target.ofName?_name, Option.bind_eq_bind,
      Option.bind_some, if_neg hne]
    rw [Text.splitOnSep_intercalate (by simp) hkeys,
      Json.mapM_map_eq_some fun id' _ => by rw [String.ofList_toList, StageId.ofKey?_key]]
    rfl

/-- **Outlines read back**: the lines of any targets with any stage sequences read back as
those targets and sequences. -/
theorem readOutline?_join (xs : List (Target × List StageId)) :
    readOutline? (String.join (xs.map sequenceLine)) = some xs := by
  induction xs with
  | nil => rfl
  | cons e xs ih =>
    obtain ⟨t, ids⟩ := e
    -- the line of `t` holds no line break, so the first line is exactly that line
    have hbreak : '\n' ∉ t.name.toList ++ ':' :: ' ' ::
        [' ', '>', ' '].intercalate (ids.map fun id => id.key.toList) := by
      simp only [List.mem_append, List.mem_cons, not_or]
      refine ⟨Target.newline_not_mem_name t, by decide, by decide, ?_⟩
      exact Text.not_mem_intercalate (by decide)
        (List.forall_mem_map.mpr fun id _ => StageId.newline_not_mem_key id)
    rw [readOutline?] at ih ⊢
    rw [List.map_cons, String.join_cons, String.toList_append, toList_sequenceLine,
      List.append_assoc, List.singleton_append, List.splitOn_append_cons_self_of_not_mem hbreak,
      List.dropLast_cons_of_ne_nil (List.splitOn_ne_nil _ _), List.mapM_cons,
      readOutlineLine?_sequenceLine, ih]
    rfl

/-- **The stage sequences of a plan**: each planned target with the stages of its pipeline, in
target order. -/
def stageSequences (p : Plan) : List (Target × List StageId) :=
  (p.pipelines.map Pipeline.stageIds).toList

/-- Every pipeline of the plan sits under its own target. -/
def KeyedByTarget (p : Plan) : Prop :=
  ∀ t q, p.pipeline? t = some q → q.target = t

/-- **The outline of a plan** whose pipelines sit under their own targets is the lines of its
stage sequences. -/
theorem outline_eq_join {p : Plan} (hp : p.KeyedByTarget) :
    p.outline = String.join (p.stageSequences.map sequenceLine) := by
  rw [outline, stageSequences, ByTarget.toList_map, ByTarget.values, List.map_map, List.map_map]
  congr 1
  refine List.map_congr_left fun e he => ?_
  -- the line of a pipeline names its own target, which is the key it sits under
  have htarget : e.2.target = e.1 := hp e.1 e.2 (ByTarget.mem_toList.mp he)
  simp only [Function.comp_apply, outlineLine, sequenceLine, htarget]

/-- Two plans have the same stage sequences exactly when they plan the same targets with the
same stages. -/
theorem stageSequences_eq_iff (p q : Plan) :
    p.stageSequences = q.stageSequences ↔
      ∀ t, (p.pipeline? t).map Pipeline.stageIds = (q.pipeline? t).map Pipeline.stageIds := by
  constructor
  · intro h t
    have hmap := ByTarget.toList_injective h
    simpa [pipeline?] using congrArg (fun m => m.get t) hmap
  · intro h
    exact congrArg ByTarget.toList (ByTarget.ext_get fun t => by simpa [pipeline?] using h t)

/-- **Outlines of plans**: the outline of a plan whose pipelines sit under their own targets is
one line per planned target, in target order, giving the target, `": "` and the stage keys
joined by `" > "`; reading it back gives the plan's targets with their stage sequences; so two
such plans have the same outline exactly when they plan the same targets with the same
stages. -/
theorem outline_reads_back (p q : Plan) (hp : p.KeyedByTarget) (hq : q.KeyedByTarget) :
    p.outline = String.join (p.stageSequences.map sequenceLine) ∧
    readOutline? p.outline = some p.stageSequences ∧
    (p.outline = q.outline ↔
      ∀ t, (p.pipeline? t).map Pipeline.stageIds = (q.pipeline? t).map Pipeline.stageIds) := by
  have hread : ∀ r : Plan, r.KeyedByTarget → readOutline? r.outline = some r.stageSequences :=
    fun r hr => by rw [outline_eq_join hr, readOutline?_join]
  refine ⟨outline_eq_join hp, hread p hp, ?_⟩
  rw [← stageSequences_eq_iff]
  constructor
  · intro h
    have hsome := hread p hp
    rw [h, hread q hq] at hsome
    exact (Option.some.inj hsome).symm
  · intro h
    rw [outline_eq_join hp, outline_eq_join hq, h]

/-- The renderer's sample plan — interop normalization then minification for the client,
module resolution for the server — and the same stages planned for development with other
options: each pipeline sits under its own target, the outline reads back, and the two outlines
agree. -/
theorem outline_reads_back_sample :
    let policy : Suppression := ⟨circularDependency, defaultNamespace⟩
    let client : Pipeline := ⟨.client, none,
      [Stage.ofOptions 1 .interopNormalization, Stage.ofOptions 2 (.minification true)], {}, policy⟩
    let server : Pipeline :=
      ⟨.server, none, [Stage.ofOptions 1 (.moduleResolution false (some "svelte"))], {}, policy⟩
    let p : Plan := { env := ⟨.production, false, true, false⟩
                      pipelines := (ByTarget.empty.set .client client).set .server server }
    let q : Plan := { env := ⟨.development, false, true, false⟩
                      pipelines := (ByTarget.empty.set .client
                        { client with stages := [Stage.ofOptions 1 .interopNormalization,
                                                 Stage.ofOptions 2 (.minification false)] }).set
                        .server server }
    p.KeyedByTarget ∧ q.KeyedByTarget ∧
      (p.outline = String.join (p.stageSequences.map sequenceLine) ∧
        readOutline? p.outline = some p.stageSequences ∧
        (p.outline = q.outline ↔
          ∀ t, (p.pipeline? t).map Pipeline.stageIds = (q.pipeline? t).map Pipeline.stageIds)) := by
  intro policy client server p q
  have hp : p.KeyedByTarget := by
    intro t r h
    cases t <;> cases h <;> rfl
  have hq : q.KeyedByTarget := by
    intro t r h
    cases t <;> cases h <;> rfl
  exact ⟨hp, hq, outline_reads_back p q hp hq⟩

example : Plan.outline
    { env := ⟨.production, false, true, false⟩
      pipelines := (ByTarget.empty.set .client ⟨.client, none,
          [Stage.ofOptions 1 .interopNormalization, Stage.ofOptions 2 (.minification true)], {},
          ⟨circularDependency, defaultNamespace⟩⟩).set .server ⟨.server, none,
          [Stage.ofOptions 1 (.moduleResolution false (some "svelte"))], {},
          ⟨circularDependency, defaultNamespace⟩⟩ } =
    "client: interop_normalization > minification\nserver: module_resolution\n" := by
  decide

end Plan

end Bundling
