import Bundling.Artifact
import Mathlib.Data.List.Basic

/-!
# Artifact files stay inside the output directory

Paths are read as POSIX parsing reads them, as a list of components: a root for a leading
separator, the current directory for a leading `.` on its own, the parent for a `..` part, and
a name for every other part; empty parts and other `.` parts are passed over. An artifact's file
is refused exactly when its stem has a root or a parent component. An accepted file is the
output directory joined with the stem and `.json`; its components are those of the directory,
then names only, the last one ending in `.json`. A path joined onto the empty directory is the
stem itself, so a stem that starts with `./` keeps its current-directory component there.

## Main definitions

- `Path.Component` — the components of a path
- `Path.components` — the components of a path, in order

## Main statements

- `Path.leavesBase_iff` — the check on a stem is the test for a root or a parent component
- `Path.components_join` — joining a relative path onto a directory appends its names
- `Artifact.path_stays_inside` — what the file of an artifact is
-/

namespace Bundling

namespace Path

/-- **A component of a path.** -/
inductive Component where
  | rootDir
  | curDir
  | parentDir
  | normal (name : String)
  deriving DecidableEq, Repr

/-- The component a part between separators stands for: none for an empty part or `.`, the
parent for `..`, a name for any other part. -/
def Component.ofSegment (s : String) : Option Component :=
  if s = "" ∨ s = "." then none
  else if s = ".." then some .parentDir
  else some (.normal s)

/-- A path that starts with `.` on its own: `.` alone, or `.` and a separator. -/
def startsAtCurDir (p : String) : Bool :=
  p.toList.take 2 == ['.'] || p.toList.take 2 == ['.', '/']

/-- The component a path starts from: the root, the current directory, or none. -/
def lead (p : String) : List Component :=
  if isAbsolute p then [.rootDir] else if startsAtCurDir p then [.curDir] else []

/-- **The components of a path**: the one it starts from, then the component of each part. -/
def components (p : String) : List Component :=
  lead p ++ (segments p).filterMap Component.ofSegment

example : components "./x//y/./../z/" =
    [.curDir, .normal "x", .normal "y", .parentDir, .normal "z"] := by decide

theorem ofSegment_ne_rootDir (s : String) : Component.ofSegment s ≠ some .rootDir := by
  unfold Component.ofSegment
  split_ifs <;> simp

theorem ofSegment_eq_parentDir_iff (s : String) :
    Component.ofSegment s = some .parentDir ↔ s = ".." := by
  by_cases h : s = ".."
  · subst h
    decide
  · simp only [h, iff_false]
    unfold Component.ofSegment
    split_ifs <;> simp

theorem rootDir_mem_components_iff (p : String) :
    .rootDir ∈ components p ↔ isAbsolute p = true := by
  have hbody : .rootDir ∉ (segments p).filterMap Component.ofSegment := by
    simp only [List.mem_filterMap, not_exists, not_and]
    exact fun s _ => ofSegment_ne_rootDir s
  by_cases habs : isAbsolute p = true
  · simp [components, lead, habs]
  · by_cases hcur : startsAtCurDir p = true <;> simp [components, lead, habs, hcur, hbody]

theorem parentDir_mem_components_iff (p : String) :
    .parentDir ∈ components p ↔ ".." ∈ segments p := by
  have hlead : .parentDir ∉ lead p := by
    unfold lead
    split_ifs <;> simp
  simp [components, hlead, ofSegment_eq_parentDir_iff]

/-- **The check on a stem** is the test for a root or a parent component. -/
theorem leavesBase_iff (p : String) :
    leavesBase p = true ↔ ∃ c ∈ components p, c = .rootDir ∨ c = .parentDir := by
  rw [leavesBase, Bool.or_eq_true, List.contains_iff_mem, ← rootDir_mem_components_iff,
    ← parentDir_mem_components_iff]
  constructor
  · rintro (h | h)
    · exact ⟨_, h, .inl rfl⟩
    · exact ⟨_, h, .inr rfl⟩
  · rintro ⟨c, hc, rfl | rfl⟩
    · exact .inl hc
    · exact .inr hc

/-! ### Parts of joined paths -/

theorem segments_append_separator (a b : String) :
    segments (a ++ "/" ++ b) = segments a ++ segments b := by
  simp [segments, String.toList_append, List.splitOn_append_cons_self]

/-- Appending a text without separators lengthens the last part only. -/
theorem splitOn_append_of_not_mem (l m : List Char) (hm : '/' ∉ m) :
    ∃ init last, l.splitOn '/' = init ++ [last] ∧ (l ++ m).splitOn '/' = init ++ [last ++ m] := by
  induction l with
  | nil => exact ⟨[], [], rfl, by simp [List.splitOn_eq_singleton hm]⟩
  | cons c l ih =>
    obtain ⟨init, last, hl, hlm⟩ := ih
    rw [List.cons_append, List.splitOn_cons_eq_if_modifyHead,
      List.splitOn_cons_eq_if_modifyHead, hl, hlm]
    by_cases hc : c = '/'
    · exact ⟨[] :: init, last, by simp [hc], by simp [hc]⟩
    · -- `c` joins the first part, which is the last one when there is a single part
      cases init with
      | nil => exact ⟨[], c :: last, by simp [hc], by simp [hc]⟩
      | cons first rest => exact ⟨(c :: first) :: rest, last, by simp [hc], by simp [hc]⟩

/-- A path ends in a separator exactly when it is a directory followed by one. -/
theorem eq_append_separator_of_getLast? {p : String} (h : p.toList.getLast? = some '/') :
    ∃ d, p = d ++ "/" := by
  obtain ⟨l, hl⟩ := List.getLast?_eq_some_iff.mp h
  exact ⟨String.ofList l, by rw [← String.toList_inj, hl]; simp [String.toList_append]⟩

/-- The component a path starts from stays when more is appended after a separator. -/
theorem lead_append {a b : String} (ha : a ≠ "")
    (hsep : a.toList.getLast? = some '/' ∨ b.toList.head? = some '/') :
    lead (a ++ b) = lead a := by
  obtain ⟨c, t, hct⟩ := List.exists_cons_of_ne_nil (mt String.toList_eq_nil_iff.mp ha)
  have habs : isAbsolute (a ++ b) = isAbsolute a := by
    simp [isAbsolute, String.toList_append, hct]
  -- the first two characters of `a ++ b` decide, and they are those of `a` or `c` and `/`
  have hcur : startsAtCurDir (a ++ b) = startsAtCurDir a ∨ c = '/' := by
    cases t with
    | nil =>
      rcases hsep with h | h
      · right
        simpa [hct] using h
      · left
        obtain ⟨b', hb'⟩ := List.head?_eq_some_iff.mp h
        simp [startsAtCurDir, String.toList_append, hct, hb']
    | cons d t' =>
      left
      simp [startsAtCurDir, String.toList_append, hct]
  rcases hcur with hcur | hslash
  · rw [lead, lead, habs, hcur]
  · have hroot : isAbsolute a = true := by simp [isAbsolute, hct, hslash]
    rw [lead, lead, habs, if_pos hroot, if_pos hroot]

theorem lead_eq_of_not_absolute {p : String} (h : isAbsolute p = false) :
    lead p = if startsAtCurDir p then [.curDir] else [] := by
  simp [lead, h]

/-- **Joining a relative path onto a directory** appends the components of its parts to those
of the directory. -/
theorem components_join {base rel : String} (hrel : isAbsolute rel = false) (hbase : base ≠ "") :
    components (join base rel) =
      components base ++ (segments rel).filterMap Component.ofSegment := by
  have hnonempty : base.isEmpty = false := by simpa using hbase
  by_cases hend : base.toList.getLast? = some '/'
  · -- the directory already ends in a separator, which now divides it from `rel`
    obtain ⟨d, rfl⟩ := eq_append_separator_of_getLast? hend
    have hjoin : join (d ++ "/") rel = d ++ "/" ++ rel := by simp [join, hrel]
    have hdir : segments (d ++ "/") = segments d ++ [""] := by
      have h := segments_append_separator d ""
      rw [String.append_empty] at h
      rw [h]
      rfl
    rw [hjoin, components, components, lead_append hbase (.inl hend),
      segments_append_separator, hdir]
    simp [Component.ofSegment]
  · have hjoin : join base rel = base ++ ("/" ++ rel) := by
      simp [join, hrel, hend, hnonempty, String.append_assoc]
    rw [hjoin, components, components, lead_append hbase (.inr (by simp [String.toList_append])),
      ← String.append_assoc, segments_append_separator, List.filterMap_append, List.append_assoc]

theorem components_join_empty (rel : String) : components (join "" rel) = components rel := by
  unfold join
  split <;> simp

/-! ### Parts of a stem with `.json` appended -/

theorem exists_filterMap_ofSegment_eq_normal (ss : List String) (h : ".." ∉ ss) :
    ∃ names : List String, ss.filterMap Component.ofSegment = names.map .normal := by
  induction ss with
  | nil => exact ⟨[], rfl⟩
  | cons s rest ih =>
    obtain ⟨names, hnames⟩ := ih (fun hm => h (List.mem_cons_of_mem _ hm))
    have hs : s ≠ ".." := fun hs => h (hs ▸ List.mem_cons_self)
    rw [List.filterMap_cons, hnames]
    by_cases hskip : s = "" ∨ s = "."
    · exact ⟨names, by simp [Component.ofSegment, hskip]⟩
    · exact ⟨s :: names, by simp [Component.ofSegment, hskip, hs]⟩

/-- Appending `.json` lengthens the last part of a path and keeps the others. -/
theorem segments_append_json (stem : String) :
    ∃ init last, segments stem = init ++ [last] ∧
      segments (stem ++ ".json") = init ++ [last ++ ".json"] := by
  obtain ⟨init, last, h₁, h₂⟩ := splitOn_append_of_not_mem stem.toList ".json".toList (by decide)
  refine ⟨init.map String.ofList, String.ofList last, ?_, ?_⟩
  · simp [segments, h₁]
  · rw [segments, String.toList_append, h₂, List.map_append, List.map_singleton,
      String.ofList_append, String.ofList_toList]

/-- A part ending in `.json` is a name. -/
theorem ofSegment_append_json (n : String) :
    Component.ofSegment (n ++ ".json") = some (.normal (n ++ ".json")) := by
  -- the part is at least five characters long, so it is neither empty, `.` nor `..`
  have hlen (s : String) (h : n ++ ".json" = s) : n.length + 5 = s.length := by
    rw [← h, String.length_append]
    rfl
  have hdot : n ++ ".json" ≠ "" ∧ n ++ ".json" ≠ "." ∧ n ++ ".json" ≠ ".." := by
    refine ⟨fun h => ?_, fun h => ?_, fun h => ?_⟩
    · have : n.length + 5 = 0 := hlen _ h
      omega
    · have : n.length + 5 = 1 := hlen _ h
      omega
    · have : n.length + 5 = 2 := hlen _ h
      omega
  simp [Component.ofSegment, hdot]

/-- **A stem without `..` parts, with `.json` appended,** has names for parts, the last one
ending in `.json`. -/
theorem exists_names_append_json (stem : String) (h : ".." ∉ segments stem) :
    ∃ names : List String, names ≠ [] ∧ (∃ n, names.getLast? = some (n ++ ".json")) ∧
      (segments (stem ++ ".json")).filterMap Component.ofSegment = names.map .normal := by
  obtain ⟨init, last, hstem, hjson⟩ := segments_append_json stem
  have hinit : ".." ∉ init := fun hm => h (hstem ▸ List.mem_append_left _ hm)
  obtain ⟨names, hnames⟩ := exists_filterMap_ofSegment_eq_normal init hinit
  refine ⟨names ++ [last ++ ".json"], by simp, ⟨last, by simp⟩, ?_⟩
  rw [hjson, List.filterMap_append, hnames, List.filterMap_cons, ofSegment_append_json]
  simp

theorem isAbsolute_append_json {stem : String} (h : isAbsolute stem = false) :
    isAbsolute (stem ++ ".json") = false := by
  cases hs : stem.toList with
  | nil => simp [isAbsolute, String.toList_append, hs]
  | cons c t => simpa [isAbsolute, String.toList_append, hs] using h

/-- A stem with `.json` appended starts at the current directory exactly when the stem starts
with `./`. -/
theorem startsAtCurDir_append_json (stem : String) :
    startsAtCurDir (stem ++ ".json") = (stem.toList.take 2 == ['.', '/']) := by
  cases hs : stem.toList with
  | nil => simp [startsAtCurDir, String.toList_append, hs]
  | cons c t =>
    cases t with
    | nil => simp [startsAtCurDir, String.toList_append, hs]
    | cons d t' => simp [startsAtCurDir, String.toList_append, hs]

end Path

namespace Artifact

theorem path_eq_error_iff (outDir : String) (a : Artifact) :
    (∃ e, a.path outDir = .error e) ↔ Path.leavesBase a.stem = true := by
  unfold path
  split <;> simp_all

theorem path_eq_ok_iff (outDir : String) (a : Artifact) (p : String) :
    a.path outDir = .ok p ↔
      Path.leavesBase a.stem = false ∧ p = Path.join outDir (a.stem ++ ".json") := by
  unfold path
  split
  · rename_i hleaves
    simp [hleaves]
  · rename_i hleaves
    simp only [Except.ok.injEq, Bool.not_eq_true] at hleaves ⊢
    simp only [hleaves, true_and]
    exact eq_comm

/-- **The file of an artifact.** Take the stem, the output name or else the target's name. The
file is refused exactly when the stem has a root or a parent component. Otherwise it is the
output directory joined with the stem and `.json`, and its components are those of the
directory, then the current directory when the directory is empty and the stem starts with
`./`, then one or more names, the last one ending in `.json`: no root and no parent follow the
directory's own components. -/
theorem path_stays_inside (outDir : String) (a : Artifact) :
    let stem := a.output.getD a.target.name
    ((∃ e, a.path outDir = .error e) ↔
      ∃ c ∈ Path.components stem, c = .rootDir ∨ c = .parentDir) ∧
    ∀ p, a.path outDir = .ok p →
      p = Path.join outDir (stem ++ ".json") ∧
      ∃ names : List String, names ≠ [] ∧ (∃ n, names.getLast? = some (n ++ ".json")) ∧
        Path.components p = Path.components outDir ++
          (if outDir = "" ∧ stem.toList.take 2 = ['.', '/'] then [.curDir] else []) ++
            names.map .normal := by
  intro stem
  refine ⟨(path_eq_error_iff outDir a).trans (Path.leavesBase_iff _), fun p hp => ?_⟩
  obtain ⟨hstay, hp'⟩ := (path_eq_ok_iff outDir a p).mp hp
  rw [show a.stem = stem from rfl] at hstay hp'
  -- a stem that stays inside the directory is relative and has no `..` part
  obtain ⟨hrel, hparts⟩ := Bool.or_eq_false_iff.mp hstay
  have hnoparent : ".." ∉ Path.segments stem := by
    simpa using hparts
  obtain ⟨names, hne, hlast, hnames⟩ := Path.exists_names_append_json stem hnoparent
  refine ⟨hp', names, hne, hlast, ?_⟩
  rw [hp']
  by_cases hempty : outDir = ""
  · -- joined onto the empty directory, the path is the stem with `.json` itself
    subst hempty
    rw [Path.components_join_empty, Path.components,
      Path.lead_eq_of_not_absolute (Path.isAbsolute_append_json hrel),
      Path.startsAtCurDir_append_json, hnames, show Path.components "" = [] by decide]
    by_cases hcur : stem.toList.take 2 = ['.', '/'] <;> simp [hcur]
  · rw [Path.components_join (Path.isAbsolute_append_json hrel) hempty, hnames]
    simp [hempty]

/-- The client's artifact written into `out` goes to `out/client.json`, whose components are the
directory's and names; an output name `../x` is refused for its parent component. -/
theorem path_stays_inside_out :
    (⟨.client, none, ⟨"", TextMap.empty⟩⟩ : Artifact).path "out" = .ok "out/client.json" ∧
    (∃ names : List String, names ≠ [] ∧
      Path.components "out/client.json" = Path.components "out" ++ names.map .normal) ∧
    ∃ e, (⟨.client, some "../x", ⟨"", TextMap.empty⟩⟩ : Artifact).path "out" = .error e := by
  have hpath : (⟨.client, none, ⟨"", TextMap.empty⟩⟩ : Artifact).path "out" =
      .ok "out/client.json" := rfl
  obtain ⟨-, names, hne, -, hcomponents⟩ :=
    (path_stays_inside "out" ⟨.client, none, ⟨"", TextMap.empty⟩⟩).2 _ hpath
  refine ⟨hpath, ⟨names, hne, by simpa using hcomponents⟩, ?_⟩
  exact (path_stays_inside "out" ⟨.client, some "../x", ⟨"", TextMap.empty⟩⟩).1.2
    ⟨.parentDir, by decide, .inr rfl⟩

/-- An artifact whose output is `./x`, written into the empty directory, goes to `./x.json`,
whose components are the current directory and a name: not the empty directory's components
followed by names only. -/
theorem path_into_empty_dir_keeps_curDir :
    (⟨.client, some "./x", ⟨"", TextMap.empty⟩⟩ : Artifact).path "" = .ok "./x.json" ∧
      ¬ ∃ names : List String,
        Path.components "./x.json" = Path.components "" ++ names.map .normal := by
  refine ⟨rfl, ?_⟩
  rintro ⟨names, h⟩
  have hcomponents : Path.components "./x.json" = [.curDir, .normal "x.json"] := by decide
  rw [hcomponents, show Path.components "" = [] by decide] at h
  cases names <;> simp at h

end Artifact

end Bundling
