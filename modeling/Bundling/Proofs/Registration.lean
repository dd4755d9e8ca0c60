import Bundling.Alias

/-!
# Registering aliases

Registration refuses an empty name first, and then a name the table already holds; a refused
registration leaves nothing behind. Registering a list stops at the first refusal. So a list
of aliases makes a table exactly when its names are non-empty and pairwise distinct, and the
table then holds the list as given, in order; otherwise the refusal is that of the first
alias whose name is empty or taken by an alias before it.

Registering in place goes on past a refusal with the table as it was, so any run of
registrations from an empty table holds exactly the accepted calls, in call order.

## Main definitions

- `Alias.RefusedAfter` — an alias that registration refuses after a list of aliases
- `Alias.refusal` — the error it is refused with

## Main statements

- `AliasesValid.exists_first_refused` — a list that is not valid has a first refused alias
- `AliasTable.registerAll_eq_ok_iff` — registering a list succeeds exactly on valid lists
- `AliasTable.registerAll_of_refused` — and otherwise fails with the first refusal
- `AliasTable.ofEntries_eq_ok_iff`, `AliasTable.ofEntries_eq_error_iff` — the same from an
  empty table
- `AliasTable.registerEach_entries` — a run in place keeps the accepted calls, in order
- `AliasTable.registrations_from_empty` — every run in place from an empty table, call by call
-/

namespace Bundling

namespace Alias

/-- **An alias refused after `pre`**: its name is empty, or the name of an alias of `pre`. -/
def RefusedAfter (pre : List Alias) (a : Alias) : Prop :=
  a.name = "" ∨ a.name ∈ pre.map Alias.name

/-- **The error an alias is refused with**: the empty name, else the duplicate. -/
def refusal (a : Alias) : BuildError :=
  if a.name = "" then .emptyAliasName else .duplicateAlias a.name

end Alias

namespace AliasesValid

theorem nil : AliasesValid [] :=
  ⟨List.nodup_nil, fun _ h => absurd h List.not_mem_nil⟩

theorem of_append {front back : List Alias} (h : AliasesValid (front ++ back)) :
    AliasesValid front := by
  refine ⟨?_, fun a ha => h.2 a (List.mem_append_left _ ha)⟩
  have hnodup := h.1
  rw [List.map_append, List.nodup_append] at hnodup
  exact hnodup.1

/-- A valid list stays valid with one more alias exactly when that alias is not refused. -/
theorem append_singleton_iff {pre : List Alias} (h : AliasesValid pre) {a : Alias} :
    AliasesValid (pre ++ [a]) ↔ ¬ a.RefusedAfter pre := by
  constructor
  · rintro ⟨hnodup, hname⟩ (hempty | htaken)
    · exact hname a (by simp) hempty
    · rw [List.map_append, List.nodup_append] at hnodup
      exact hnodup.2.2 a.name htaken a.name (by simp) rfl
  · intro hr
    exact AliasTable.valid_append h (fun he => hr (.inl he)) (fun ht => hr (.inr ht))

/-- **The first refused alias**: when `pre ++ es` is not valid though `pre` is, some alias
of `es` is refused after a valid part before it. -/
theorem exists_first_refused {pre : List Alias} (h : AliasesValid pre) {es : List Alias}
    (hbad : ¬ AliasesValid (pre ++ es)) :
    ∃ before a after, es = before ++ a :: after ∧ AliasesValid (pre ++ before) ∧
      a.RefusedAfter (pre ++ before) := by
  induction es generalizing pre with
  | nil => exact absurd (by simpa using h) hbad
  | cons a rest ih =>
    by_cases hr : a.RefusedAfter pre
    · exact ⟨[], a, rest, rfl, by simpa using h, by simpa using hr⟩
    -- `a` is kept, and the first refusal lies further on
    have ha : AliasesValid (pre ++ [a]) := (append_singleton_iff h).2 hr
    obtain ⟨before, b, after, hrest, hvalid, hb⟩ :=
      ih ha (by simpa using hbad)
    refine ⟨a :: before, b, after, by rw [hrest]; rfl, ?_, ?_⟩
    · simpa using hvalid
    · simpa using hb

end AliasesValid

namespace AliasTable

theorem ext {t t' : AliasTable} (hentries : t.entries = t'.entries)
    (hextensions : t.extensions = t'.extensions) : t = t' := by
  cases t
  cases t'
  simp_all

theorem register_eq_ok_iff (t : AliasTable) (name path : String) (t' : AliasTable) :
    t.register name path = .ok t' ↔
      ¬ (Alias.mk name path).RefusedAfter t.entries ∧
        t'.entries = t.entries ++ [⟨name, path⟩] ∧ t'.extensions = t.extensions := by
  unfold register
  split
  · rename_i hname
    simp [Alias.RefusedAfter, hname]
  · split
    · rename_i hname htaken
      simp [Alias.RefusedAfter, htaken]
    · rename_i hname htaken
      simp only [Except.ok.injEq, Alias.RefusedAfter, hname, htaken, or_self,
        not_false_eq_true, true_and]
      constructor
      · rintro rfl
        exact ⟨rfl, rfl⟩
      · rintro ⟨hentries, hextensions⟩
        exact ext hentries.symm hextensions.symm

theorem register_eq_error_iff (t : AliasTable) (name path : String) (e : BuildError) :
    t.register name path = .error e ↔
      (Alias.mk name path).RefusedAfter t.entries ∧ e = (Alias.mk name path).refusal := by
  unfold register
  split
  · rename_i hname
    simp only [Except.error.injEq, Alias.RefusedAfter, Alias.refusal, hname, true_or,
      ↓reduceIte, true_and]
    exact eq_comm
  · split
    · rename_i hname htaken
      simp only [Except.error.injEq, Alias.RefusedAfter, Alias.refusal, hname, htaken, or_true,
        ↓reduceIte, true_and]
      exact eq_comm
    · rename_i hname htaken
      simp [Alias.RefusedAfter, hname, htaken]

/-- An alias that is not refused is registered. -/
theorem exists_register_eq_ok (t : AliasTable) {a : Alias} (h : ¬ a.RefusedAfter t.entries) :
    ∃ t', t.register a.name a.path = .ok t' := by
  unfold register
  simp only [Alias.RefusedAfter, not_or] at h
  simp [h]

/-- **Registering a list succeeds exactly on valid lists**, and appends the list as given. -/
theorem registerAll_eq_ok_iff (t : AliasTable) (es : List Alias) (t' : AliasTable) :
    t.registerAll es = .ok t' ↔
      AliasesValid (t.entries ++ es) ∧ t'.entries = t.entries ++ es ∧
        t'.extensions = t.extensions := by
  induction es generalizing t with
  | nil =>
    simp only [registerAll, Except.ok.injEq, List.append_nil, t.valid, true_and]
    exact ⟨fun h => h ▸ ⟨rfl, rfl⟩, fun h => (ext h.1 h.2).symm⟩
  | cons a rest ih =>
    cases hreg : t.register a.name a.path with
    | error e =>
      obtain ⟨hr, -⟩ := (register_eq_error_iff t _ _ e).1 hreg
      simp only [registerAll, hreg, bind, Except.bind, reduceCtorEq, false_iff, not_and]
      intro hvalid
      -- the refused alias makes the prefix up to it invalid
      have hpre : AliasesValid (t.entries ++ [a]) :=
        AliasesValid.of_append
          (show AliasesValid ((t.entries ++ [a]) ++ rest) by simpa using hvalid)
      exact absurd hr ((AliasesValid.append_singleton_iff t.valid).1 hpre)
    | ok t₁ =>
      obtain ⟨-, hentries, hextensions⟩ := (register_eq_ok_iff t _ _ t₁).1 hreg
      simp only [registerAll, hreg, bind, Except.bind]
      rw [ih t₁, hentries, hextensions]
      simp

/-- **Registering a list fails with the first refusal**: the first alias refused after the
aliases before it. -/
theorem registerAll_of_refused (t : AliasTable) {es before after : List Alias} {a : Alias}
    (hes : es = before ++ a :: after) (hvalid : AliasesValid (t.entries ++ before))
    (hr : a.RefusedAfter (t.entries ++ before)) : t.registerAll es = .error a.refusal := by
  subst hes
  induction before generalizing t with
  | nil =>
    have hreg : t.register a.name a.path = .error a.refusal :=
      (register_eq_error_iff t _ _ _).2 ⟨by simpa using hr, rfl⟩
    simp [registerAll, hreg, bind, Except.bind]
  | cons b rest ih =>
    -- `b` is registered, and the refusal comes from the rest
    have hb : ¬ b.RefusedAfter t.entries :=
      (AliasesValid.append_singleton_iff t.valid).1 <| AliasesValid.of_append
        (show AliasesValid ((t.entries ++ [b]) ++ rest) by simpa using hvalid)
    obtain ⟨t₁, hreg⟩ := exists_register_eq_ok t hb
    obtain ⟨-, hentries, -⟩ := (register_eq_ok_iff t _ _ t₁).1 hreg
    simp only [List.cons_append, registerAll, hreg, bind, Except.bind]
    exact ih t₁ (by rw [hentries]; simpa using hvalid) (by rw [hentries]; simpa using hr)

/-- **The table of a list of aliases** exists exactly for a valid list, and holds it. -/
theorem ofEntries_eq_ok_iff (es : List Alias) (extensions : List String) (t : AliasTable) :
    ofEntries es extensions = .ok t ↔
      AliasesValid es ∧ t.entries = es ∧ t.extensions = extensions := by
  simpa [ofEntries, empty] using registerAll_eq_ok_iff (empty extensions) es t

/-- **The refusal of a list of aliases** is that of its first refused alias. -/
theorem ofEntries_eq_error_iff (es : List Alias) (extensions : List String) (e : BuildError) :
    ofEntries es extensions = .error e ↔
      ∃ before a after, es = before ++ a :: after ∧ AliasesValid before ∧
        a.RefusedAfter before ∧ e = a.refusal := by
  constructor
  · intro h
    have hbad : ¬ AliasesValid ([] ++ es) := by
      intro hvalid
      obtain ⟨t, ht⟩ : ∃ t, ofEntries es extensions = .ok t :=
        ⟨⟨es, extensions, by simpa using hvalid⟩,
          (ofEntries_eq_ok_iff es extensions _).2 ⟨by simpa using hvalid, rfl, rfl⟩⟩
      rw [ht] at h
      cases h
    obtain ⟨before, a, after, hes, hvalid, hr⟩ := AliasesValid.exists_first_refused .nil hbad
    have href := registerAll_of_refused (empty extensions) hes hvalid hr
    rw [ofEntries, href] at h
    exact ⟨before, a, after, hes, by simpa using hvalid, by simpa using hr,
      (Except.error.inj h).symm⟩
  · rintro ⟨before, a, after, hes, hvalid, hr, rfl⟩
    exact registerAll_of_refused (empty extensions) hes (by simpa [empty] using hvalid)
      (by simpa [empty] using hr)

/-! ### Registering in place -/

/-- **A refused registration in place** answers with the refusal and leaves the table as it
was. -/
theorem registerInPlace_of_refused (t : AliasTable) {a : Alias} (h : a.RefusedAfter t.entries) :
    t.registerInPlace a.name a.path = (.error a.refusal, t) := by
  have herr : t.register a.name a.path = .error a.refusal :=
    (register_eq_error_iff t _ _ _).2 ⟨h, rfl⟩
  simp [registerInPlace, herr]

/-- **An accepted registration in place** appends the alias and keeps the extensions. -/
theorem registerInPlace_of_not_refused (t : AliasTable) {a : Alias}
    (h : ¬ a.RefusedAfter t.entries) :
    (t.registerInPlace a.name a.path).1 = .ok () ∧
      (t.registerInPlace a.name a.path).2.entries = t.entries ++ [a] ∧
      (t.registerInPlace a.name a.path).2.extensions = t.extensions := by
  obtain ⟨t', hreg⟩ := exists_register_eq_ok t h
  obtain ⟨-, hentries, hextensions⟩ := (register_eq_ok_iff t _ _ t').1 hreg
  simp [registerInPlace, hreg, hentries, hextensions]

theorem registerEach_cons (t : AliasTable) (a : Alias) (rest : List Alias) :
    t.registerEach (a :: rest) =
      ((t.registerInPlace a.name a.path).1 :: ((t.registerInPlace a.name a.path).2.registerEach rest).1,
        ((t.registerInPlace a.name a.path).2.registerEach rest).2) := rfl

/-- A run over two lists of calls is the run over the first, then over the second from the
table the first left. -/
theorem registerEach_append (t : AliasTable) (l₁ l₂ : List Alias) :
    t.registerEach (l₁ ++ l₂) =
      ((t.registerEach l₁).1 ++ ((t.registerEach l₁).2.registerEach l₂).1,
        ((t.registerEach l₁).2.registerEach l₂).2) := by
  induction l₁ generalizing t with
  | nil => rfl
  | cons a rest ih => simp [registerEach_cons, ih]

theorem length_registerEach (t : AliasTable) (calls : List Alias) :
    (t.registerEach calls).1.length = calls.length := by
  induction calls generalizing t with
  | nil => rfl
  | cons a rest ih => simp [registerEach_cons, ih]

/-- The outcome of a call in a run is that of registering it in place into the table left
by the calls before it. -/
theorem registerEach_getElem? (t : AliasTable) (pre : List Alias) (a : Alias)
    (post : List Alias) :
    (t.registerEach (pre ++ a :: post)).1[pre.length]? =
      some ((t.registerEach pre).2.registerInPlace a.name a.path).1 := by
  rw [registerEach_append]
  dsimp only
  rw [List.getElem?_append_right (Nat.le_of_eq (length_registerEach t pre)), length_registerEach,
    Nat.sub_self, registerEach_cons]
  rfl

theorem registerEach_append_singleton (t : AliasTable) (pre : List Alias) (a : Alias) :
    (t.registerEach (pre ++ [a])).2 = ((t.registerEach pre).2.registerInPlace a.name a.path).2 := by
  rw [registerEach_append, registerEach_cons]
  rfl

/-- **A run never changes the extensions.** -/
theorem registerEach_extensions (t : AliasTable) (calls : List Alias) :
    (t.registerEach calls).2.extensions = t.extensions := by
  induction calls generalizing t with
  | nil => rfl
  | cons a rest ih =>
    rw [registerEach_cons, ih]
    by_cases h : a.RefusedAfter t.entries
    · rw [registerInPlace_of_refused t h]
    · exact (registerInPlace_of_not_refused t h).2.2

/-- **The entries after a run** are those before it followed by the accepted calls, in call
order. -/
theorem registerEach_entries (t : AliasTable) (calls : List Alias) :
    (t.registerEach calls).2.entries =
      t.entries ++ ((calls.zip (t.registerEach calls).1).filter (·.2.isOk)).map (·.1) := by
  induction calls generalizing t with
  | nil => simp [registerEach]
  | cons a rest ih =>
    rw [registerEach_cons, ih]
    by_cases h : a.RefusedAfter t.entries
    · -- the table is kept, and the refused call is not among the accepted ones
      rw [registerInPlace_of_refused t h]
      simp [Except.isOk, Except.toBool]
    · obtain ⟨hok, hentries, -⟩ := registerInPlace_of_not_refused t h
      rw [hok, hentries]
      simp [Except.isOk, Except.toBool]

/-- **Registrations in place from an empty table.** Each call is refused exactly when its
name is empty or already taken by an accepted call before it, with that refusal, and then
leaves the table as it was; otherwise it appends its alias and keeps the extensions. So
after any run the entries are the accepted calls in call order, with non-empty, pairwise
distinct names, and the extensions are those the table started with. Registering a list
until the first refusal succeeds exactly on a list of non-empty, pairwise distinct names,
and holds that list; otherwise it fails with the refusal of the first offending alias. -/
theorem registrations_from_empty (x : List String) (calls : List Alias) :
    let run := (empty x).registerEach calls
    (∀ pre a post, calls = pre ++ a :: post →
      let before := ((empty x).registerEach pre).2
      let after := ((empty x).registerEach (pre ++ [a])).2
      (a.RefusedAfter before.entries →
        run.1[pre.length]? = some (.error a.refusal) ∧ after = before) ∧
      (¬ a.RefusedAfter before.entries →
        run.1[pre.length]? = some (.ok ()) ∧ after.entries = before.entries ++ [a] ∧
          after.extensions = before.extensions)) ∧
    run.2.entries = ((calls.zip run.1).filter (·.2.isOk)).map (·.1) ∧
    AliasesValid run.2.entries ∧ run.2.extensions = x ∧
    (∀ t, ofEntries calls x = .ok t ↔ AliasesValid calls ∧ t.entries = calls ∧ t.extensions = x) ∧
    (∀ e, ofEntries calls x = .error e ↔
      ∃ before a after, calls = before ++ a :: after ∧ AliasesValid before ∧
        a.RefusedAfter before ∧ e = a.refusal) := by
  refine ⟨fun pre a post hcalls => ?_,
    by rw [registerEach_entries]; exact List.nil_append _,
    ((empty x).registerEach calls).2.valid, registerEach_extensions _ calls,
    ofEntries_eq_ok_iff calls x, ofEntries_eq_error_iff calls x⟩
  subst hcalls
  rw [registerEach_getElem?, registerEach_append_singleton]
  refine ⟨fun h => ?_, fun h => ?_⟩
  · rw [registerInPlace_of_refused _ h]
    exact ⟨rfl, rfl⟩
  · obtain ⟨hok, hentries, hextensions⟩ := registerInPlace_of_not_refused _ h
    exact ⟨by rw [hok], hentries, hextensions⟩

/-- Registering the component alias, the same name again and an empty name: the first call is
accepted, the second refused as a duplicate and the third for its empty name. -/
theorem registrations_from_empty_repeated :
    let calls : List Alias :=
      [⟨"components", "/src/components/"⟩, ⟨"components", "/elsewhere/"⟩, ⟨"", "/src/"⟩]
    let run := (empty defaultExtensions).registerEach calls
    run.1[0]? = some (.ok ()) ∧
    run.1[1]? = some (.error (.duplicateAlias "components")) ∧
    run.1[2]? = some (.error .emptyAliasName) := by
  intro calls run
  obtain ⟨hcall, -⟩ := registrations_from_empty defaultExtensions calls
  have hfirst := hcall [] ⟨"components", "/src/components/"⟩
    [⟨"components", "/elsewhere/"⟩, ⟨"", "/src/"⟩] rfl
  have hsecond := hcall [⟨"components", "/src/components/"⟩] ⟨"components", "/elsewhere/"⟩
    [⟨"", "/src/"⟩] rfl
  have hthird := hcall [⟨"components", "/src/components/"⟩, ⟨"components", "/elsewhere/"⟩]
    ⟨"", "/src/"⟩ [] rfl
  have hduplicate :
      (⟨"components", "/elsewhere/"⟩ : Alias).refusal = .duplicateAlias "components" := by
    decide
  refine ⟨(hfirst.2 ?_).1, hduplicate ▸ (hsecond.1 (.inr ?_)).1, (hthird.1 (.inl rfl)).1⟩
  · -- the first name is not empty and nothing is registered before it
    simp [Alias.RefusedAfter, registerEach, empty]
  · -- the first call registered the name the second repeats
    decide

example : ((empty defaultExtensions).registerEach
    [⟨"components", "/src/components/"⟩, ⟨"components", "/elsewhere/"⟩, ⟨"", "/src/"⟩]).1 =
      [.ok (), .error (.duplicateAlias "components"), .error .emptyAliasName] := by
  rfl

end AliasTable

end Bundling
