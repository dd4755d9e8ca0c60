import Bundling.Alias
import Mathlib.Data.List.DropRight

/-!
# Resolving specifiers through an alias table

An alias applies to a specifier that is its name, or its name followed by a separator and
more. The first alias of the table that applies is used, however long the names of the
aliases after it. The rest of the specifier after its name is put behind the alias
directory, separators at the end are trimmed off, and the result is the base of the
candidates: the base itself and the base with each extension when there is a rest, then the
index file of the base with each extension. Resolving takes the first candidate that is a
file.

The candidates stay strictly inside the alias directory exactly when the rest is empty or
holds a character other than a separator. A rest made of separators alone trims back to the
directory itself, which is then the first candidate, followed by its siblings with an
extension.

## Main definitions

- `Alias.Applies` — an alias applies to a specifier
- `Path.StrictlyInside` — a path lies below a directory, not at it

## Main statements

- `AliasTable.matching?_eq_some_iff` — the alias used is the first one that applies
- `AliasTable.candidates_of_first_applying` — the candidates and the resolved path
- `AliasTable.candidates_strictlyInside_iff` — when every candidate lies inside the directory
- `AliasTable.candidates_separator_rest_leaves_directory` — a rest of one separator does not
-/

namespace Bundling

/-! ### Trailing separators -/

theorem rdropWhile_append_of_forall {p : Char → Bool} (l₁ : List Char) {l₂ : List Char}
    (h : ∀ x ∈ l₂, p x) : (l₁ ++ l₂).rdropWhile p = l₁.rdropWhile p := by
  induction l₂ using List.reverseRecOn with
  | nil => simp
  | append_singleton l x ih =>
    rw [← List.append_assoc, List.rdropWhile_concat_pos _ _ _ (h x (by simp))]
    exact ih fun y hy => h y (by simp [hy])

theorem rdropWhile_append_of_exists {p : Char → Bool} (l₁ : List Char) {l₂ : List Char}
    (h : ∃ x ∈ l₂, p x = false) : (l₁ ++ l₂).rdropWhile p = l₁ ++ l₂.rdropWhile p := by
  induction l₂ using List.reverseRecOn with
  | nil => simp at h
  | append_singleton l x ih =>
    by_cases hx : p x
    · -- `x` is dropped on both sides, and the character that stops the drop lies in `l`
      have hl : ∃ y ∈ l, p y = false := by
        obtain ⟨y, hy, hpy⟩ := h
        rcases List.mem_append.mp hy with hy | hy
        · exact ⟨y, hy, hpy⟩
        · simp only [List.mem_singleton] at hy
          subst hy
          simp [hpy] at hx
      rw [← List.append_assoc, List.rdropWhile_concat_pos _ _ _ hx,
        List.rdropWhile_concat_pos _ _ _ hx, ih hl]
    · rw [← List.append_assoc, List.rdropWhile_concat_neg _ _ _ hx,
        List.rdropWhile_concat_neg _ _ _ hx, List.append_assoc]

namespace AliasTable

theorem toList_trimSlashes (s : String) :
    (trimSlashes s).toList = s.toList.rdropWhile (· == '/') := by
  simp [trimSlashes, List.rdropWhile]

theorem trimSlashes_append_of_forall (s : String) {t : String} (h : ∀ c ∈ t.toList, c = '/') :
    trimSlashes (s ++ t) = trimSlashes s := by
  rw [String.ext_iff, toList_trimSlashes, toList_trimSlashes, String.toList_append,
    rdropWhile_append_of_forall _ (by simpa using h)]

theorem trimSlashes_append_of_exists (s : String) {t : String} (h : ∃ c ∈ t.toList, c ≠ '/') :
    trimSlashes (s ++ t) = s ++ trimSlashes t := by
  rw [String.ext_iff, toList_trimSlashes, String.toList_append, String.toList_append,
    toList_trimSlashes, rdropWhile_append_of_exists _ (by simpa using h)]

theorem trimSlashes_trimSlashes (s : String) : trimSlashes (trimSlashes s) = trimSlashes s := by
  rw [String.ext_iff, toList_trimSlashes, toList_trimSlashes, List.rdropWhile_idempotent]

theorem trimSlashes_ne_empty {t : String} (h : ∃ c ∈ t.toList, c ≠ '/') : trimSlashes t ≠ "" := by
  rw [ne_eq, String.ext_iff, toList_trimSlashes, String.toList_empty, List.rdropWhile_eq_nil_iff]
  simpa using h

end AliasTable

/-! ### Which alias applies -/

/-- **An alias applies to a specifier** that is its name, or its name followed by a separator
and anything after it. -/
def Alias.Applies (a : Alias) (s : String) : Prop :=
  s = a.name ∨ ∃ r, s = a.name ++ "/" ++ r

theorem empty_or_separator_iff {rest : String} :
    (rest = "" ∨ ∃ r, rest = "/" ++ r) ↔
      (rest.toList.isEmpty || rest.toList.head? == some '/') = true := by
  constructor
  · rintro (rfl | ⟨r, rfl⟩)
    · simp
    · simp
  · intro h
    cases hr : rest.toList with
    | nil => exact .inl (String.toList_inj.mp (by simpa using hr))
    | cons c cs =>
      simp only [hr, List.isEmpty_cons, List.head?_cons, Bool.false_or, beq_iff_eq,
        Option.some.injEq] at h
      subst h
      exact .inr ⟨String.ofList cs, String.toList_inj.mp (by simp [hr])⟩

theorem Alias.applies_iff {a : Alias} {s : String} :
    a.Applies s ↔ ∃ rest, s = a.name ++ rest ∧ (rest = "" ∨ ∃ r, rest = "/" ++ r) := by
  constructor
  · rintro (rfl | ⟨r, rfl⟩)
    · exact ⟨"", by simp, .inl rfl⟩
    · exact ⟨"/" ++ r, String.append_assoc, .inr ⟨r, rfl⟩⟩
  · rintro ⟨rest, rfl, rfl | ⟨r, rfl⟩⟩
    · exact .inl (by simp)
    · exact .inr ⟨r, String.append_assoc.symm⟩

/-- The rest after the name of an alias that applies is empty or starts with a separator. -/
theorem Alias.Applies.rest_cases {a : Alias} {s rest : String} (h : a.Applies s)
    (hs : s = a.name ++ rest) : rest = "" ∨ ∃ r, rest = "/" ++ r := by
  obtain ⟨rest', hs', hrest'⟩ := Alias.applies_iff.mp h
  have : rest = rest' := by
    rw [hs] at hs'
    simpa using hs'
  exact this ▸ hrest'

namespace AliasTable

theorem remainder?_eq_some_iff {name spec rest : String} :
    remainder? name spec = some rest ↔
      spec = name ++ rest ∧ (rest = "" ∨ ∃ r, rest = "/" ++ r) := by
  unfold remainder?
  split
  · rename_i hpre
    obtain ⟨t, ht⟩ := List.isPrefixOf_iff_prefix.mp hpre
    have hdrop : spec.toList.drop name.length = t := by
      rw [← ht, ← String.length_toList]
      simp
    have hspec : spec = name ++ rest ↔ t = rest.toList := by
      rw [String.ext_iff, String.toList_append, ← ht]
      simp
    rw [hspec, empty_or_separator_iff, hdrop]
    simp only [Option.ite_none_right_eq_some, Option.some.injEq]
    constructor
    · rintro ⟨hc, rfl⟩
      simpa using hc
    · rintro ⟨rfl, hc⟩
      simpa using hc
  · rename_i hpre
    simp only [reduceCtorEq, false_iff, not_and]
    rintro rfl
    simp at hpre

theorem remainder?_eq_none_iff {a : Alias} {s : String} :
    remainder? a.name s = none ↔ ¬ a.Applies s := by
  simp only [Option.eq_none_iff_forall_ne_some, ne_eq, remainder?_eq_some_iff,
    Alias.applies_iff, not_exists]

/-- **The alias used for a specifier** is the first alias of the table that applies to it,
with the rest of the specifier after its name. -/
theorem matching?_eq_some_iff {t : AliasTable} {s : String} {a : Alias} {rest : String} :
    t.matching? s = some (a, rest) ↔
      ∃ pre post, t.entries = pre ++ a :: post ∧ (∀ b ∈ pre, ¬ b.Applies s) ∧
        s = a.name ++ rest ∧ (rest = "" ∨ ∃ r, rest = "/" ++ r) := by
  simp only [matching?, List.findSome?_eq_some_iff, Option.map_eq_some_iff, Prod.mk.injEq,
    Option.map_eq_none_iff, remainder?_eq_none_iff]
  constructor
  · rintro ⟨pre, b, post, hentries, ⟨r, hr, rfl, rfl⟩, hpre⟩
    exact ⟨pre, post, hentries, hpre, remainder?_eq_some_iff.mp hr⟩
  · rintro ⟨pre, post, hentries, hpre, hrest⟩
    exact ⟨pre, a, post, hentries, ⟨rest, remainder?_eq_some_iff.mpr hrest, rfl, rfl⟩, hpre⟩

/-- No alias is used for a specifier exactly when none applies to it. -/
theorem matching?_eq_none_iff {t : AliasTable} {s : String} :
    t.matching? s = none ↔ ∀ a ∈ t.entries, ¬ a.Applies s := by
  simp only [matching?, List.findSome?_eq_none_iff, Option.map_eq_none_iff,
    remainder?_eq_none_iff]

/-! ### Candidates and resolution -/

theorem candidates_of_matching? {t : AliasTable} {s : String} {a : Alias} {rest : String}
    (h : t.matching? s = some (a, rest)) :
    t.candidates s =
      (if rest = "" then [] else
        trimSlashes (trimSlashes a.path ++ rest) ::
          t.extensions.map (trimSlashes (trimSlashes a.path ++ rest) ++ ·)) ++
      t.extensions.map fun x => trimSlashes (trimSlashes a.path ++ rest) ++ "/index" ++ x := by
  simp only [candidates, h, ← String.isEmpty_iff]

theorem resolve_eq_some_iff {t : AliasTable} {s : String} {isFile : String → Bool}
    {c : String} :
    t.resolve s isFile = some c ↔
      ∃ l₁ l₂, t.candidates s = l₁ ++ c :: l₂ ∧ isFile c = true ∧
        ∀ d ∈ l₁, isFile d = false := by
  simp only [resolve, List.find?_eq_some_iff_append, Bool.not_eq_true']
  constructor
  · rintro ⟨hc, l₁, l₂, hl, hpre⟩
    exact ⟨l₁, l₂, hl, hc, hpre⟩
  · rintro ⟨l₁, l₂, hl, hc, hpre⟩
    exact ⟨hc, l₁, l₂, hl, hpre⟩

theorem resolve_eq_none_iff {t : AliasTable} {s : String} {isFile : String → Bool} :
    t.resolve s isFile = none ↔ ∀ c ∈ t.candidates s, isFile c = false := by
  simp [resolve, List.find?_eq_none]

/-- **Candidates and resolution.** With no alias that applies there is nothing to probe.
Otherwise the first alias that applies gives the base: its directory followed by the rest of
the specifier, trimmed of separators at the end. The candidates are the base and the base
with each extension when there is a rest, then the index file of the base with each
extension; resolving gives the first candidate that is a file. -/
theorem candidates_of_first_applying (t : AliasTable) (s : String) (isFile : String → Bool) :
    ((∀ a ∈ t.entries, ¬ a.Applies s) → t.candidates s = [] ∧ t.resolve s isFile = none) ∧
    ∀ (pre post : List Alias) (a : Alias) (rest : String), t.entries = pre ++ a :: post →
      (∀ b ∈ pre, ¬ b.Applies s) → a.Applies s → s = a.name ++ rest →
      let base := trimSlashes (trimSlashes a.path ++ rest)
      let probes := (if rest = "" then [] else base :: t.extensions.map (base ++ ·)) ++
        t.extensions.map fun x => base ++ "/index" ++ x
      t.candidates s = probes ∧
      probes.length =
        t.extensions.length + (if rest = "" then 0 else t.extensions.length + 1) ∧
      (∀ c, t.resolve s isFile = some c ↔
        ∃ l₁ l₂, probes = l₁ ++ c :: l₂ ∧ isFile c = true ∧ ∀ d ∈ l₁, isFile d = false) ∧
      (t.resolve s isFile = none ↔ ∀ c ∈ probes, isFile c = false) := by
  refine ⟨fun hnone => ?_, fun pre post a rest hentries hfirst happlies hs => ?_⟩
  · have hm : t.matching? s = none := matching?_eq_none_iff.mpr hnone
    have hc : t.candidates s = [] := by simp [candidates, hm]
    exact ⟨hc, resolve_eq_none_iff.mpr (by simp [hc])⟩
  · have hm : t.matching? s = some (a, rest) :=
      matching?_eq_some_iff.mpr ⟨pre, post, hentries, hfirst, hs, happlies.rest_cases hs⟩
    have hc := candidates_of_matching? hm
    refine ⟨hc, ?_, fun c => hc ▸ resolve_eq_some_iff, hc ▸ resolve_eq_none_iff⟩
    split
    · simp
    · simp
      omega

/-- With the component and store directories, `components/Button` probes the button, the button
with each extension, then its index files, and resolves to the first that exists; `lodash`
names no alias and probes nothing. -/
theorem candidates_of_first_applying_button :
    let t : AliasTable := ⟨[⟨"components", "/src/components/"⟩, ⟨"store", "/src/store/"⟩],
      [".js", ".svelte"], ⟨by decide, by decide⟩⟩
    let isFile : String → Bool := fun p => p == "/src/components/Button.svelte"
    t.candidates "lodash" = [] ∧
    t.candidates "components/Button" =
      ["/src/components/Button", "/src/components/Button.js", "/src/components/Button.svelte",
        "/src/components/Button/index.js", "/src/components/Button/index.svelte"] ∧
    t.resolve "components/Button" isFile = some "/src/components/Button.svelte" := by
  intro t isFile
  have hlodash := (candidates_of_first_applying t "lodash" isFile).1
    (matching?_eq_none_iff.1 rfl)
  obtain ⟨hcandidates, -, hresolve, -⟩ :=
    (candidates_of_first_applying t "components/Button" isFile).2 [] [⟨"store", "/src/store/"⟩]
      ⟨"components", "/src/components/"⟩ "/Button" rfl (by simp) (.inr ⟨"Button", by decide⟩)
      (by decide)
  refine ⟨hlodash.1, hcandidates.trans (by decide), (hresolve _).2
    ⟨["/src/components/Button", "/src/components/Button.js"],
      ["/src/components/Button/index.js", "/src/components/Button/index.svelte"],
      by decide, rfl, by decide⟩⟩

end AliasTable

/-! ### Staying inside the alias directory -/

namespace Path

/-- **A path strictly inside a directory**: the directory, a separator, and at least one
more character. -/
def StrictlyInside (dir path : String) : Prop :=
  ∃ u, u ≠ "" ∧ path = dir ++ "/" ++ u

theorem StrictlyInside.append {dir path : String} (h : StrictlyInside dir path) (x : String) :
    StrictlyInside dir (path ++ x) := by
  obtain ⟨u, hu, rfl⟩ := h
  refine ⟨u ++ x, ?_, by simp only [String.append_assoc]⟩
  intro hux
  apply hu
  rw [String.ext_iff, String.toList_append] at hux
  exact String.ext_iff.mpr (List.append_eq_nil_iff.mp hux).1

theorem not_strictlyInside_self (dir : String) : ¬ StrictlyInside dir dir := by
  rintro ⟨u, -, h⟩
  have hlen := congrArg String.length h
  simp only [String.length_append, show "/".length = 1 from rfl] at hlen
  omega

end Path

namespace AliasTable

/-- **Candidates inside the alias directory**: when the rest of the specifier is empty or
holds a character other than a separator, every candidate lies strictly inside the
directory of the alias, trimmed of its separators at the end. -/
theorem strictlyInside_of_mem_candidates {t : AliasTable} {s : String} {a : Alias}
    {rest : String} (h : t.matching? s = some (a, rest))
    (hrest : rest = "" ∨ ∃ ch ∈ rest.toList, ch ≠ '/') {c : String}
    (hc : c ∈ t.candidates s) : Path.StrictlyInside (trimSlashes a.path) c := by
  rw [candidates_of_matching? h] at hc
  rcases hrest with rfl | ⟨ch, hch, hne⟩
  · -- no rest: only the index files of the directory itself
    simp only [↓reduceIte, String.append_empty, trimSlashes_trimSlashes, List.nil_append,
      List.mem_map] at hc
    obtain ⟨x, -, rfl⟩ := hc
    have hindex : "/index" ++ x = "/" ++ ("index" ++ x) := by
      rw [← String.append_assoc]
      rfl
    exact ⟨"index" ++ x, by simp, by simp only [String.append_assoc, hindex]⟩
  · -- a separator, then a text that does not trim away
    obtain ⟨-, -, -, -, -, hcases⟩ := matching?_eq_some_iff.mp h
    obtain ⟨r, rfl⟩ : ∃ r, rest = "/" ++ r := by
      rcases hcases with rfl | hr
      · simp [String.toList_empty] at hch
      · exact hr
    have hr : ∃ ch ∈ r.toList, ch ≠ '/' := by
      simp only [String.toList_append, show "/".toList = ['/'] from rfl, List.singleton_append,
        List.mem_cons] at hch
      rcases hch with rfl | hch
      · exact absurd rfl hne
      · exact ⟨ch, hch, hne⟩
    have hbase : trimSlashes (trimSlashes a.path ++ ("/" ++ r)) =
        trimSlashes a.path ++ "/" ++ trimSlashes r := by
      rw [← String.append_assoc, trimSlashes_append_of_exists _ hr]
    have hin : Path.StrictlyInside (trimSlashes a.path)
        (trimSlashes a.path ++ "/" ++ trimSlashes r) :=
      ⟨_, trimSlashes_ne_empty hr, rfl⟩
    rw [hbase, if_neg (by simp)] at hc
    simp only [List.cons_append, List.mem_cons, List.mem_append, List.mem_map] at hc
    rcases hc with rfl | ⟨x, -, rfl⟩ | ⟨x, -, rfl⟩
    · exact hin
    · exact hin.append x
    · exact (hin.append "/index").append x

/-- **A rest of separators leaves the directory**: the base trims back to the alias
directory, which is then the first candidate. -/
theorem trimSlashes_path_mem_candidates {t : AliasTable} {s : String} {a : Alias}
    {rest : String} (h : t.matching? s = some (a, rest)) (hne : rest ≠ "")
    (hsep : ∀ ch ∈ rest.toList, ch = '/') : trimSlashes a.path ∈ t.candidates s := by
  rw [candidates_of_matching? h, if_neg hne, trimSlashes_append_of_forall _ hsep,
    trimSlashes_trimSlashes]
  exact List.mem_append_left _ List.mem_cons_self

/-- **When candidates stay inside the alias directory**: for the first alias that applies
to a specifier, every candidate lies strictly inside its directory exactly when the rest of
the specifier after the alias name is empty or holds a character other than a separator. A
rest of separators only trims back to the directory itself: the directory is the first
candidate, then the directory with each extension, then its index files. -/
theorem candidates_strictlyInside_iff (t : AliasTable) (s : String) (pre post : List Alias)
    (a : Alias) (rest : String) (hentries : t.entries = pre ++ a :: post)
    (hfirst : ∀ b ∈ pre, ¬ b.Applies s) (happlies : a.Applies s) (hs : s = a.name ++ rest) :
    ((∀ c ∈ t.candidates s, Path.StrictlyInside (trimSlashes a.path) c) ↔
      rest = "" ∨ ∃ ch ∈ rest.toList, ch ≠ '/') ∧
    (rest ≠ "" → (∀ ch ∈ rest.toList, ch = '/') →
      t.candidates s = trimSlashes a.path :: (t.extensions.map (trimSlashes a.path ++ ·) ++
        t.extensions.map fun x => trimSlashes a.path ++ "/index" ++ x)) := by
  have hm : t.matching? s = some (a, rest) :=
    matching?_eq_some_iff.mpr ⟨pre, post, hentries, hfirst, hs, happlies.rest_cases hs⟩
  refine ⟨⟨fun hall => ?_, fun hrest c hc => strictlyInside_of_mem_candidates hm hrest hc⟩,
    fun hne hseparators => ?_⟩
  · by_contra hout
    push Not at hout
    exact Path.not_strictlyInside_self _
      (hall _ (trimSlashes_path_mem_candidates hm hout.1 hout.2))
  · -- the base is the directory with separators appended, which trim away again
    rw [candidates_of_matching? hm, if_neg hne, trimSlashes_append_of_forall _ hseparators,
      trimSlashes_trimSlashes]
    rfl

/-- With the component and store directories of the tests, nothing probed for
`components/Foo` lies outside the component directory, while `components/` probes the
component directory itself before its files. -/
theorem candidates_strictlyInside_components :
    (∀ b ∈ ([] : List Alias), ¬ b.Applies "components/Foo") ∧
    Alias.Applies ⟨"components", "/src/components/"⟩ "components/Foo" ∧
    ((∀ c ∈ (⟨[⟨"components", "/src/components/"⟩, ⟨"store", "/src/store/"⟩],
        defaultExtensions, ⟨by decide, by decide⟩⟩ : AliasTable).candidates "components/Foo",
        Path.StrictlyInside (trimSlashes "/src/components/") c) ↔
      ("/Foo" = "" ∨ ∃ ch ∈ "/Foo".toList, ch ≠ '/')) ∧
    (⟨[⟨"components", "/src/components/"⟩], [".js"], ⟨by decide, by decide⟩⟩ :
        AliasTable).candidates "components/" =
      ["/src/components", "/src/components.js", "/src/components/index.js"] := by
  refine ⟨by simp, .inr ⟨"Foo", by decide⟩,
    (candidates_strictlyInside_iff _ "components/Foo" [] [⟨"store", "/src/store/"⟩]
      ⟨"components", "/src/components/"⟩ "/Foo" rfl (by simp) (.inr ⟨"Foo", by decide⟩)
      (by decide)).1, ?_⟩
  rw [(candidates_strictlyInside_iff _ "components/" [] [] ⟨"components", "/src/components/"⟩
    "/" rfl (by simp) (.inr ⟨"", by decide⟩) (by decide)).2 (by decide) (by simp)]
  decide

/-- **A rest of one separator leaves the directory**: with `components` standing for
`/src/components/`, the specifier `components/` probes `/src/components` itself. -/
theorem candidates_separator_rest_leaves_directory :
    ¬ ∀ (t : AliasTable) (s : String) (pre post : List Alias) (a : Alias),
      t.entries = pre ++ a :: post → (∀ b ∈ pre, ¬ b.Applies s) → a.Applies s →
      ∀ c ∈ t.candidates s, Path.StrictlyInside (trimSlashes a.path) c := by
  intro hall
  have hout := hall ⟨[⟨"components", "/src/components/"⟩], defaultExtensions,
      ⟨by decide, by decide⟩⟩ "components/" [] [] ⟨"components", "/src/components/"⟩ rfl
    (by simp) (.inr ⟨"", by decide⟩) "/src/components" (by decide)
  rw [show trimSlashes "/src/components/" = "/src/components" by decide] at hout
  exact Path.not_strictlyInside_self _ hout

end AliasTable

end Bundling
