import Bundling.Config
import Bundling.Proofs.Outline

/-!
# Settings from the configuration file

The settings of a configuration over a project root are the defaults of that root with what
the file sets put in their place. The entry points are the one step that can fail: their
names are read in increasing order, and the first that is no target's name — which, the
names being sorted, is the least such name — is reported. Otherwise every entry stands under
the target it names.

An alias replacement that is not absolute is joined to the root. The join ends with the
replacement, so a closing slash of the replacement survives it and no slash is ever added.

## Main definitions

- `ByTarget.ofFn` — the map of a function on targets
- `Config.addEntry` — an entry put under the target it names

## Main statements

- `foldlM_eq_error_iff_first`, `foldlM_eq_ok_iff` — a fold whose step checks each element
- `Config.entryTargets_eq_iff` — reading the entries
- `Config.foldl_addEntry_eq_ofFn` — each target gets the entry of its name
- `Config.absolutize_eq` — a replacement made absolute
- `Config.toSettings_overrides` — the settings of a configuration
-/

namespace Bundling

/-! ### Folds that check each element -/

section CheckedFold

variable {α β ε : Type} {F : β → α → Except ε β} (good : α → Prop) (next : β → α → β)
  (err : α → ε)

/-- A fold whose step accepts the good elements and refuses the others fails exactly at the
first element it refuses, with that element's error. -/
theorem foldlM_eq_error_iff_first (hgood : ∀ acc x, good x → F acc x = .ok (next acc x))
    (hbad : ∀ acc x, ¬ good x → F acc x = .error (err x)) (l : List α) (acc : β) (e : ε) :
    l.foldlM F acc = .error e ↔
      ∃ pre x post, l = pre ++ x :: post ∧ (∀ y ∈ pre, good y) ∧ ¬ good x ∧ e = err x := by
  induction l generalizing acc with
  | nil => simp [pure, Except.pure]
  | cons x l ih =>
    rw [List.foldlM_cons]
    by_cases hx : good x
    · rw [hgood acc x hx]
      refine (ih (next acc x)).trans ⟨?_, ?_⟩
      · rintro ⟨pre, y, post, rfl, hpre, hy, rfl⟩
        exact ⟨x :: pre, y, post, rfl, List.forall_mem_cons.mpr ⟨hx, hpre⟩, hy, rfl⟩
      · rintro ⟨pre, y, post, hl, hpre, hy, rfl⟩
        cases pre with
        | nil =>
          -- the refused element cannot be the accepted head
          cases hl
          exact absurd hx hy
        | cons _ pre =>
          cases hl
          exact ⟨pre, y, post, rfl, (List.forall_mem_cons.mp hpre).2, hy, rfl⟩
    · rw [hbad acc x hx]
      constructor
      · rintro ⟨⟩
        exact ⟨[], x, l, rfl, by simp, hx, rfl⟩
      · rintro ⟨pre, y, post, hl, hpre, hy, rfl⟩
        cases pre with
        | nil =>
          cases hl
          rfl
        | cons _ pre =>
          -- the refused head would be among the accepted ones
          cases hl
          exact absurd (List.forall_mem_cons.mp hpre).1 hx

/-- A fold whose step checks each element succeeds exactly when every element is accepted, with
the plain fold of the accepting step. -/
theorem foldlM_eq_ok_iff (hgood : ∀ acc x, good x → F acc x = .ok (next acc x))
    (hbad : ∀ acc x, ¬ good x → F acc x = .error (err x)) (l : List α) (acc r : β) :
    l.foldlM F acc = .ok r ↔ (∀ x ∈ l, good x) ∧ r = l.foldl next acc := by
  induction l generalizing acc with
  | nil => simp [pure, Except.pure, eq_comm]
  | cons x l ih =>
    rw [List.foldlM_cons, List.forall_mem_cons, List.foldl_cons]
    by_cases hx : good x
    · rw [hgood acc x hx]
      exact (ih (next acc x)).trans (and_congr_left' (iff_and_self.mpr fun _ => hx))
    · rw [hbad acc x hx]
      simp [bind, Except.bind, hx]

end CheckedFold

/-! ### Entries by target -/

namespace ByTarget

variable {α : Type}

/-- The map of a function on targets. -/
def ofFn (f : Target → Option α) : ByTarget α :=
  ⟨f .client, f .server, f .serviceworker⟩

@[simp] theorem get_ofFn (f : Target → Option α) (t : Target) : (ofFn f).get t = f t := by
  cases t <;> rfl

end ByTarget

/-- Among keys listed in increasing order, the first key refused after accepted ones is the
least refused key. -/
theorem exists_split_iff_least {α : Type} {l : List (String × α)}
    (hsorted : (l.map Prod.fst).Pairwise (· < ·)) (good : String → Prop) (k : String) :
    (∃ pre v post, l = pre ++ (k, v) :: post ∧ ∀ q ∈ pre, good q.1) ↔
      k ∈ l.map Prod.fst ∧ ∀ k' ∈ l.map Prod.fst, k' < k → good k' := by
  constructor
  · rintro ⟨pre, v, post, rfl, hpre⟩
    refine ⟨by simp, fun k' hk' hlt => ?_⟩
    -- a key below `k` stands before it: `k` itself and the keys after it are not below it
    simp only [List.map_append, List.map_cons, List.pairwise_append, List.pairwise_cons,
      List.mem_cons] at hsorted
    simp only [List.map_append, List.map_cons, List.mem_append, List.mem_cons] at hk'
    rcases hk' with hpre' | rfl | hpost
    · obtain ⟨q, hq, rfl⟩ := List.mem_map.mp hpre'
      exact hpre q hq
    · exact absurd hlt (String.lt_irrefl _)
    · exact absurd (String.lt_trans (hsorted.2.1.1 k' hpost) hlt) (String.lt_irrefl _)
  · rintro ⟨hk, hlt⟩
    obtain ⟨⟨k₀, v⟩, hmem, rfl⟩ := List.mem_map.mp hk
    obtain ⟨pre, post, rfl⟩ := List.append_of_mem hmem
    refine ⟨pre, v, post, rfl,
      fun q hq => hlt q.1 (List.mem_map_of_mem (List.mem_append_left _ hq)) ?_⟩
    -- every key before `k` is below it
    simp only [List.map_append, List.map_cons, List.pairwise_append] at hsorted
    exact hsorted.2.2 q.1 (List.mem_map_of_mem hq) _ List.mem_cons_self

namespace Config

/-- An entry of the file put under the target it names; one naming no target changes nothing. -/
def addEntry (acc : ByTarget Entry) (p : String × Entry) : ByTarget Entry :=
  ((Target.ofName? p.1).map fun t => acc.set t p.2).getD acc

theorem addEntry_name (acc : ByTarget Entry) (t : Target) (v : Entry) :
    addEntry acc (t.name, v) = acc.set t v := by
  simp [addEntry, Target.ofName?_name]

/-- **Reading the entries**: it fails at the first entry that names no target, and otherwise
puts each entry under the target it names. -/
theorem entryTargets_eq_iff (l : List (String × Entry)) :
    (∀ err, entryTargets l = .error err ↔
      ∃ pre p post, l = pre ++ p :: post ∧ (∀ q ∈ pre, ∃ t : Target, t.name = q.1) ∧
        ¬ (∃ t : Target, t.name = p.1) ∧ err = .entry p.1 (.unknownTarget p.1)) ∧
    (∀ m, entryTargets l = .ok m ↔
      (∀ p ∈ l, ∃ t : Target, t.name = p.1) ∧ m = l.foldl addEntry {}) := by
  unfold entryTargets
  refine ⟨foldlM_eq_error_iff_first (fun p : String × Entry => ∃ t : Target, t.name = p.1)
      addEntry (fun p => ConfigError.entry p.1 (.unknownTarget p.1)) ?accept ?refuse l {},
    foldlM_eq_ok_iff (fun p : String × Entry => ∃ t : Target, t.name = p.1)
      addEntry (fun p => ConfigError.entry p.1 (.unknownTarget p.1)) ?accept ?refuse l {}⟩
  case accept =>
    -- an entry named after a target is put under it
    rintro acc ⟨k, v⟩ ⟨t, rfl⟩
    simp only [Target.parse_name, addEntry_name]
  case refuse =>
    -- any other is refused with its name
    rintro acc ⟨k, v⟩ hk
    simp only [not_exists] at hk
    simp only [Target.parse_of_forall_ne hk]

/-- With distinct names each naming a target, the entry under a target is the one of its name. -/
theorem get_foldl_addEntry {l : List (String × Entry)} (hnodup : (l.map Prod.fst).Nodup)
    (hgood : ∀ p ∈ l, ∃ t : Target, t.name = p.1) (acc : ByTarget Entry) (t : Target) :
    (l.foldl addEntry acc).get t =
      ((l.find? fun p => p.1 == t.name).map Prod.snd).or (acc.get t) := by
  induction l generalizing acc with
  | nil => simp
  | cons p l ih =>
    obtain ⟨k, v⟩ := p
    obtain ⟨⟨t₀, rfl⟩, hrest⟩ := List.forall_mem_cons.mp hgood
    rw [List.map_cons, List.nodup_cons] at hnodup
    rw [List.foldl_cons, addEntry_name, ih hnodup.2 hrest]
    by_cases ht : t = t₀
    · subst ht
      -- no later entry has the name of `t`
      have hnone : l.find? (fun p => p.1 == t.name) = none := by
        rw [List.find?_eq_none]
        intro q hq hname
        apply hnodup.1
        rw [← beq_iff_eq.mp hname]
        exact List.mem_map.mpr ⟨q, hq, rfl⟩
      simp [hnone]
    · have hname : (t₀.name == t.name) = false :=
        beq_eq_false_iff_ne.mpr fun h => ht (Target.name_injective h).symm
      rw [ByTarget.get_set_ne _ _ ht, List.find?_cons_of_neg (by simp [hname])]

/-- Each target gets the entry of its name, when every entry names a target. -/
theorem foldl_addEntry_eq_ofFn (m : TextMap Entry)
    (hgood : ∀ p ∈ m.toList, ∃ t : Target, t.name = p.1) :
    m.toList.foldl addEntry {} = ByTarget.ofFn fun t => m.get? t.name := by
  -- the names of a map are distinct, being increasing
  have hnodup : (m.toList.map Prod.fst).Nodup :=
    m.sorted.imp fun hlt heq => by
      subst heq
      exact String.lt_irrefl _ hlt
  refine ByTarget.ext_get fun t => ?_
  have hnone : ({} : ByTarget Entry).get t = none := by
    cases t <;> rfl
  rw [get_foldl_addEntry hnodup hgood, ByTarget.get_ofFn, hnone, Option.or_none]
  rfl

/-! ### Alias replacements -/

theorem endsWith_slash_iff (s : String) : s.endsWith "/" = true ↔ ['/'] <:+ s.toList := by
  simp [← String.endsWith_toSlice, String.Slice.endsWith_string_iff]

/-- A relative path joined to a directory ends the join, so a closing slash of it survives. -/
theorem join_endsWith_slash {base rel : String} (hrel : Path.isAbsolute rel = false)
    (h : rel.endsWith "/" = true) : (Path.join base rel).endsWith "/" = true := by
  rw [endsWith_slash_iff] at h ⊢
  rw [Path.join, if_neg (by simp [hrel])]
  split
  · rw [String.toList_append]
    exact h.trans (List.suffix_append _ _)
  · rw [String.toList_append, String.toList_append]
    exact h.trans (List.suffix_append _ _)

/-- **A replacement made absolute**: an absolute one stays as written, and a relative one is
joined to the root; the slash that would close the join is never missing. -/
theorem absolutize_eq (root r : String) :
    absolutize root r = if Path.isAbsolute r then r else Path.join root r := by
  unfold absolutize
  split
  · rfl
  · rename_i hrel
    by_cases hr : r.endsWith "/" = true
    · simp [hr, join_endsWith_slash (by simpa using hrel) hr]
    · simp [hr]

/-! ### The settings of a configuration -/

theorem toSettings_eq_error_iff (c : Config) (root : String) (e : ConfigError) :
    c.toSettings root = .error e ↔ entryTargets c.entries.toList = .error e := by
  unfold toSettings
  cases entryTargets c.entries.toList <;> simp [bind, Except.bind, pure, Except.pure]

/-- **The settings of a configuration** over a project root. They fail exactly when an entry
name is not exactly a target's name, and then name the least such entry name. Otherwise they
are the defaults of the root with what the file sets in their place: its aliases, each
replacement made absolute under the root, unless it has none; its extensions; its `dedupe`
trimmed, off when blank and `svelte` when absent; its namespace, diagnostic code and runtime;
and each entry under the target it names. A relative replacement joined to the root keeps
its closing slash, so none is ever added. -/
theorem toSettings_overrides (c : Config) (root : String) :
    (∀ e, c.toSettings root = .error e ↔
      ∃ k ∈ c.entries.keys, (∀ t : Target, t.name ≠ k) ∧
        (∀ k' ∈ c.entries.keys, k' < k → ∃ t : Target, t.name = k') ∧
        e = .entry k (.unknownTarget k)) ∧
    (∀ s, c.toSettings root = .ok s ↔
      (∀ k ∈ c.entries.keys, ∃ t : Target, t.name = k) ∧
      s = { Settings.forRoot root with
        aliases := if c.aliases = [] then Alias.standard root
          else c.aliases.map fun a => ⟨a.find, absolutize root a.replacement⟩
        extensions := c.extensions.getD defaultExtensions
        dedupe := c.dedupe.elim (some "svelte") fun d =>
          if Text.trim d = "" then none else some (Text.trim d)
        frameworkNamespace := c.frameworkNamespace.getD defaultNamespace
        diagnosticCode := c.circularCode.getD circularDependency
        host := c.runtime.elim HostRuntime.node20 fun r =>
          ⟨r.name, r.version, TextSet.ofList r.builtins⟩
        entries := ByTarget.ofFn fun t => c.entries.get? t.name }) ∧
    (∀ r, absolutize root r = (if Path.isAbsolute r then r else Path.join root r) ∧
      (Path.isAbsolute r = false → r.endsWith "/" = true →
        (Path.join root r).endsWith "/" = true)) := by
  have hsorted := c.entries.sorted
  -- the entries are read in increasing order of their names
  have hleast := exists_split_iff_least hsorted fun k => ∃ t : Target, t.name = k
  obtain ⟨herror, hok⟩ := entryTargets_eq_iff c.entries.toList
  refine ⟨fun e => ?_, fun s => ?_, fun r => ⟨absolutize_eq root r, join_endsWith_slash⟩⟩
  · -- the first entry refused is the least name refused
    rw [toSettings_eq_error_iff, herror]
    constructor
    · rintro ⟨pre, ⟨k, v⟩, post, hl, hpre, hk, rfl⟩
      obtain ⟨hmem, hlt⟩ := (hleast k).mp ⟨pre, v, post, hl, hpre⟩
      exact ⟨k, hmem, fun t ht => hk ⟨t, ht⟩, hlt, rfl⟩
    · rintro ⟨k, hmem, hk, hlt, rfl⟩
      obtain ⟨pre, v, post, hl, hpre⟩ := (hleast k).mpr ⟨hmem, hlt⟩
      exact ⟨pre, (k, v), post, hl, hpre, fun ⟨t, ht⟩ => hk t ht, rfl⟩
  · have hkeys : (∀ k ∈ c.entries.keys, ∃ t : Target, t.name = k) ↔
        ∀ p ∈ c.entries.toList, ∃ t : Target, t.name = p.1 := List.forall_mem_map
    rw [hkeys]
    unfold toSettings
    cases h : entryTargets c.entries.toList with
    | error e =>
      -- an entry is refused, so not every entry names a target
      simp only [bind, Except.bind, reduceCtorEq, false_iff, not_and]
      intro hall
      exact absurd ((hok _).mpr ⟨hall, rfl⟩) (by simp [h])
    | ok m =>
      obtain ⟨hgood, rfl⟩ := (hok m).mp h
      simp only [bind, Except.bind, pure, Except.pure, Except.ok.injEq]
      rw [and_iff_right hgood, @eq_comm _ s]
      apply Iff.of_eq
      -- field by field, the defaults of the root and what the file sets
      congr 2
      · simp only [List.isEmpty_iff]
        rfl
      · cases c.dedupe <;> simp [String.isEmpty_iff, Option.elim]
        rfl
      · cases c.runtime <;> rfl
      · exact foldl_addEntry_eq_ofFn c.entries hgood

end Config

end Bundling
