import Bundling.Proofs.Build
import Mathlib.Data.List.DropRight
import Mathlib.Data.List.TakeWhile

/-!
# Which diagnostics a filter drops

A filter drops a diagnostic of its code whose message holds the framework namespace as a
whole path segment: a separator, the namespace as written, and a separator again, anywhere in
the message, each separator `/` or `\` independently. What a filter drops is known from its
library of regular expressions: one that matches segment patterns literally makes every
character of the namespace stand for itself. Making a filter fails for a blank namespace, and
also when the library refuses the namespace's pattern — the program's library refuses one
beyond its size limit, so a long enough namespace is refused although it is not blank.

## Main statements

- `containsSegment_iff` — the scan finds a segment exactly where the message splits around it
- `RegexLib.literal_matchesSegments` — the program's library matches segment patterns
  literally
- `DiagnosticFilter.suppresses_iff` — the dropped diagnostics, said without the library
- `DiagnosticFilter.forward_eq_filter` — forwarding keeps the others, in order
- `DiagnosticFilter.make_refuses_or_drops_segments` — what making a filter gives
- `DiagnosticFilter.make_refuses_long_namespace` — a namespace too long for the library
-/

namespace Bundling

theorem isSeparator_iff (c : Char) : isSeparator c = true ↔ c = '/' ∨ c = '\\' := by
  simp [isSeparator]

theorem containsSegment_iff (seg msg : List Char) :
    containsSegment seg msg = true ↔
      ∃ u v a b, isSeparator a = true ∧ isSeparator b = true ∧
        msg = u ++ a :: (seg ++ b :: v) := by
  induction msg with
  | nil => simp [containsSegment]
  | cons c rest ih =>
    rw [containsSegment, Bool.or_eq_true, ih]
    constructor
    · rintro (hhere | ⟨u, v, a, b, ha, hb, rfl⟩)
      · -- the segment starts right after `c`
        simp only [Bool.and_eq_true] at hhere
        obtain ⟨⟨hc, hpre⟩, hafter⟩ := hhere
        obtain ⟨t, rfl⟩ := List.isPrefixOf_iff_prefix.mp hpre
        rw [List.drop_left] at hafter
        cases t with
        | nil => simp at hafter
        | cons d v => exact ⟨[], v, c, d, hc, hafter, rfl⟩
      · exact ⟨c :: u, v, a, b, ha, hb, rfl⟩
    · rintro ⟨u, v, a, b, ha, hb, h⟩
      cases u with
      | nil =>
        obtain ⟨rfl, rfl⟩ := List.cons.inj h
        left
        simp [ha, hb, List.isPrefixOf_iff_prefix]
      | cons c' u =>
        obtain ⟨rfl, rfl⟩ := List.cons.inj h
        exact .inr ⟨u, v, a, b, ha, hb, rfl⟩

theorem segmentIn_iff (seg msg : String) :
    SegmentIn seg msg ↔ containsSegment seg.toList msg.toList = true := by
  rw [containsSegment_iff]
  constructor
  · rintro ⟨u, v, a, b, ha, hb, rfl⟩
    refine ⟨u.toList, v.toList, a, b, (isSeparator_iff a).mpr ha, (isSeparator_iff b).mpr hb,
      ?_⟩
    simp [String.toList_append, Char.toString_eq_singleton]
  · rintro ⟨u, v, a, b, ha, hb, h⟩
    refine ⟨String.ofList u, String.ofList v, a, b, (isSeparator_iff a).mp ha,
      (isSeparator_iff b).mp hb, ?_⟩
    rw [← String.toList_inj, h]
    simp [String.toList_append, Char.toString_eq_singleton]

instance (seg msg : String) : Decidable (SegmentIn seg msg) :=
  decidable_of_iff _ (segmentIn_iff seg msg).symm

/-- **A text trims to nothing** exactly when all its characters are blank. -/
theorem Text.trim_eq_empty_iff (s : String) :
    Text.trim s = "" ↔ ∀ c ∈ s.toList, Text.isBlank c = true := by
  rw [Text.trim, ← String.toList_inj, String.toList_ofList, String.toList_empty,
    List.reverse_eq_nil_iff, Text.dropBlank, List.dropWhile_eq_nil_iff]
  simp only [List.mem_reverse]
  -- what is left after dropping the leading blanks is blank only when nothing is left
  rw [← List.dropWhile_eq_nil_iff, Text.dropBlank, List.dropWhile_idempotent,
    List.dropWhile_eq_nil_iff]

namespace RegexLib

/-- Reading a quoted text back gives the text. -/
theorem unquote_quote (l : List Char) :
    unquote (l.flatMap fun c => if c ∈ metaChars then ['\\', c] else [c]) = l := by
  induction l with
  | nil => rfl
  | cons c rest ih =>
    by_cases hc : c ∈ metaChars
    · simp only [List.flatMap_cons, hc, if_true, List.cons_append, List.nil_append, unquote, ih]
    · -- a character kept as it is cannot be the backslash, which is quoted
      have hback : c ≠ '\\' := fun h => hc (h ▸ by decide)
      simp only [List.flatMap_cons, hc, if_false, List.cons_append, List.nil_append]
      rw [unquote.eq_def]
      split
      · rename_i h
        exact absurd (List.cons.inj h).1 hback
      · rename_i c' rest' _ h
        obtain ⟨rfl, rfl⟩ := List.cons.inj h
        rw [ih]
      · rename_i h
        cases h

/-- A pattern made of a separator class, a body and a separator class reads back to the body,
unquoted. -/
theorem segmentLiteral?_of_toList (p : String) (body : List Char)
    (hp : p.toList = separatorClass.toList ++ (body ++ separatorClass.toList)) :
    segmentLiteral? p = some (unquote body) := by
  have hcls : separatorClass.toList.length = 5 := rfl
  have hcond : (separatorClass.toList.isPrefixOf p.toList &&
      separatorClass.toList.isSuffixOf p.toList &&
      decide (2 * separatorClass.toList.length ≤ p.toList.length)) = true := by
    rw [hp]
    simp only [Bool.and_eq_true, List.isPrefixOf_iff_prefix, List.isSuffixOf_iff_suffix,
      decide_eq_true_eq, List.length_append, hcls]
    exact ⟨⟨List.prefix_append _ _, (List.suffix_append _ _).trans (List.suffix_append _ _)⟩,
      by omega⟩
  -- between the two classes stands exactly the body
  have hlen : (separatorClass.toList ++ (body ++ separatorClass.toList)).length -
      2 * separatorClass.toList.length = body.length := by
    simp only [List.length_append]
    omega
  unfold segmentLiteral?
  simp only
  rw [if_pos hcond, hp, List.drop_left, hlen, List.take_left]

/-- The program's library reads a segment pattern back to the namespace. -/
theorem segmentLiteral?_segmentPattern (ns : String) :
    segmentLiteral? (literal.segmentPattern ns) = some ns.toList := by
  -- the pattern is the class, the quoted namespace and the class again
  have hpattern : (literal.segmentPattern ns).toList = separatorClass.toList ++
      ((ns.toList.flatMap fun c => if c ∈ metaChars then ['\\', c] else [c]) ++
        separatorClass.toList) := by
    simp [segmentPattern, literal, quote, String.toList_append]
  rw [segmentLiteral?_of_toList _ _ hpattern, unquote_quote]

/-- A text is at least as long in UTF-8 bytes as in characters. -/
theorem length_le_utf8Length (l : List Char) : l.length ≤ utf8Length l := by
  -- the count runs over an accumulator, which only grows
  have hfold : ∀ n, n + l.length ≤ l.foldl (fun n c => n + c.utf8Size) n := by
    induction l with
    | nil => simp
    | cons c rest ih =>
      intro n
      have := ih (n + c.utf8Size)
      have := c.utf8Size_pos
      simp only [List.length_cons, List.foldl_cons]
      omega
  simpa [utf8Length] using hfold 0

/-- **The program's library compiles a segment pattern** to the namespace, unless its states
exceed the size limit. -/
theorem literal_compile_segmentPattern (ns : String) :
    literal.compile (literal.segmentPattern ns) =
      if sizeLimit < stateBytes * (utf8Length ns.toList + 2) then .error tooBigMessage
      else .ok ns.toList := by
  have hliteral := segmentLiteral?_segmentPattern ns
  simp only [literal] at hliteral ⊢
  rw [hliteral]

/-- **The program's library matches segment patterns literally.** -/
theorem literal_matchesSegments : literal.MatchesSegments := by
  intro ns r hcompile msg
  rw [literal_compile_segmentPattern] at hcompile
  split at hcompile
  · cases hcompile
  · cases hcompile
    exact (segmentIn_iff ns msg).symm

end RegexLib

namespace DiagnosticFilter

variable {rx : RegexLib}

/-- **A diagnostic is dropped**, for a library that matches segment patterns literally,
exactly when it has the filter's code and its message holds the namespace as a whole
segment. -/
theorem suppresses_iff (hrx : rx.MatchesSegments) (f : DiagnosticFilter rx) (d : Diagnostic) :
    f.suppresses d = true ↔
      d.code = f.policy.code ∧ SegmentIn f.policy.frameworkNamespace d.message := by
  rw [suppresses, Bool.and_eq_true, beq_iff_eq, hrx _ _ f.compiled]

example : SegmentIn "@a.b" "/@a.b/x.js" ∧ ¬ SegmentIn "@a.b" "/@aXb/x.js" := by decide

theorem forward_eq_filter (hrx : rx.MatchesSegments) (f : DiagnosticFilter rx)
    (ds : List Diagnostic) :
    f.forward ds =
      ds.filter fun d =>
        !decide (d.code = f.policy.code ∧ SegmentIn f.policy.frameworkNamespace d.message) := by
  refine List.filter_congr fun d _ => ?_
  rw [Bool.eq_iff_iff.mpr ((suppresses_iff hrx f d).trans decide_eq_true_iff.symm)]

/-- A filter is made again, the same, from its own policy. -/
theorem ofPolicy_policy (f : DiagnosticFilter rx) : ofPolicy rx f.policy = .ok f :=
  (make_eq_ok_iff _ _ f).mpr ⟨f.notBlank, rfl⟩

/-- **Making a filter**, with a library that matches segment patterns literally. It fails,
with a configuration error, exactly when the namespace trims to nothing or the library refuses
the namespace's segment pattern — then with the library's message. Otherwise it gives a filter
that keeps code and namespace as written, drops exactly the diagnostics of its code whose
message holds the namespace as a whole segment, forwards the others in their order, and is
made again, the same, from its policy. -/
theorem make_refuses_or_drops_segments (hrx : rx.MatchesSegments) (code ns : String) :
    (∀ e, make rx code ns = .error e → e.token = "configuration") ∧
    (∀ msg, (BuildError.namespacePattern msg).message =
      "configuration error: framework namespace pattern: " ++ msg) ∧
    ((Text.trim ns = "" ∧ make rx code ns = .error .emptyNamespace) ∨
    (Text.trim ns ≠ "" ∧ ∃ msg, rx.compile (rx.segmentPattern ns) = .error msg ∧
      make rx code ns = .error (.namespacePattern msg)) ∨
    (Text.trim ns ≠ "" ∧ (∃ r, rx.compile (rx.segmentPattern ns) = .ok r) ∧
      ∃ f, make rx code ns = .ok f ∧ f.policy = ⟨code, ns⟩ ∧
        (∀ d, f.suppresses d = true ↔ d.code = code ∧ SegmentIn ns d.message) ∧
        (∀ ds, f.forward ds =
          ds.filter fun d => !decide (d.code = code ∧ SegmentIn ns d.message)) ∧
        ofPolicy rx f.policy = .ok f)) := by
  refine ⟨fun e he => ?_, fun msg => rfl, ?_⟩
  · rcases (make_eq_error_iff code ns e).1 he with ⟨-, rfl⟩ | ⟨-, msg, -, rfl⟩ <;> rfl
  by_cases hblank : Text.trim ns = ""
  · exact .inl ⟨hblank, (make_eq_error_iff _ _ _).2 (.inl ⟨hblank, rfl⟩)⟩
  cases hc : rx.compile (rx.segmentPattern ns) with
  | error msg =>
    exact .inr (.inl ⟨hblank, msg, rfl, (make_eq_error_iff _ _ _).2 (.inr ⟨hblank, msg, hc, rfl⟩)⟩)
  | ok r =>
    -- the filter keeps code and namespace as written, so its policy is `⟨code, ns⟩` itself
    let f : DiagnosticFilter rx := ⟨⟨code, ns⟩, hblank, r, hc⟩
    have hf : make rx code ns = .ok f := (make_eq_ok_iff code ns f).2 ⟨hblank, rfl⟩
    exact .inr (.inr ⟨hblank, ⟨r, rfl⟩, f, hf, rfl, suppresses_iff hrx f,
      forward_eq_filter hrx f, ofPolicy_policy f⟩)

/-- With the program's library, the filter of the namespace `@a.b` drops a cycle reported in
`src/@a.b/` and keeps one in `src/@aXb/`: the dot stands for itself. -/
theorem make_drops_dotted_namespace :
    RegexLib.literal.MatchesSegments ∧
    ∃ f, make .literal circularDependency "@a.b" = .ok f ∧
      f.suppresses ⟨circularDependency, "src/@a.b/x.js"⟩ = true ∧
      f.suppresses ⟨circularDependency, "src/@aXb/x.js"⟩ = false := by
  have hcompile : RegexLib.literal.compile (RegexLib.literal.segmentPattern "@a.b") =
      .ok ['@', 'a', '.', 'b'] := rfl
  obtain ⟨-, -, hblank | ⟨-, msg, hrefused, -⟩ | ⟨-, -, f, hf, -, hdrop, -⟩⟩ :=
    make_refuses_or_drops_segments RegexLib.literal_matchesSegments circularDependency "@a.b"
  · exact absurd hblank.1 (by decide)
  · rw [hcompile] at hrefused
    cases hrefused
  · refine ⟨RegexLib.literal_matchesSegments, f, hf, (hdrop _).2 ⟨rfl, by decide⟩, ?_⟩
    rw [Bool.eq_false_iff, ne_eq, hdrop]
    decide

/-- **A namespace too long for the library**: a million letters make a segment pattern whose
compiled states exceed the size limit, so the program's library — which matches segment
patterns literally — refuses it, and no filter is made although the namespace is not blank. -/
theorem make_refuses_long_namespace :
    RegexLib.literal.MatchesSegments ∧
    Text.trim (String.ofList (List.replicate 1000000 'a')) ≠ "" ∧
    make .literal circularDependency (String.ofList (List.replicate 1000000 'a')) =
      .error (.namespacePattern "Compiled regex exceeds size limit of 10485760 bytes.") := by
  have hblank : Text.trim (String.ofList (List.replicate 1000000 'a')) ≠ "" := by
    rw [ne_eq, Text.trim_eq_empty_iff, String.toList_ofList]
    intro hall
    exact absurd (hall 'a' (List.mem_replicate.2 ⟨by decide, rfl⟩)) (by decide)
  -- the pattern's literal alone has a million bytes, far beyond the limit's states
  have hbig : RegexLib.sizeLimit < RegexLib.stateBytes *
      (RegexLib.utf8Length (String.ofList (List.replicate 1000000 'a')).toList + 2) := by
    have hlen := RegexLib.length_le_utf8Length (List.replicate 1000000 'a')
    rw [List.length_replicate] at hlen
    rw [String.toList_ofList, RegexLib.sizeLimit, RegexLib.stateBytes]
    omega
  have hmessage :
      RegexLib.tooBigMessage = "Compiled regex exceeds size limit of 10485760 bytes." := rfl
  refine ⟨RegexLib.literal_matchesSegments, hblank, ?_⟩
  rw [make_eq_error_iff, ← hmessage]
  exact .inr ⟨hblank, _, by rw [RegexLib.literal_compile_segmentPattern, if_pos hbig], rfl⟩

end DiagnosticFilter

end Bundling
