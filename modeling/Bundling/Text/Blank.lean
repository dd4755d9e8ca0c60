/-!
# Blank characters

The characters that carry the Unicode `White_Space` property, and trimming a text by
them. Names of targets and stages, build modes and namespaces are compared after such a
trim, so a no-break space or an ideographic space around a name does not matter, while a
zero-width space or a byte-order mark does.

## Main definitions

- `Text.isBlank` — membership in the `White_Space` property
- `Text.trim` — drop blank characters at both ends

## Design notes

The property is a fixed table of 25 code points, written as ranges. `Char.isWhitespace`
of core knows only part of it, so it is not used.
-/

namespace Bundling

namespace Text

/-- **Blank characters**: the 25 code points with the Unicode `White_Space` property —
tab, line feed, line tabulation, form feed, carriage return, space, next line, no-break
space, ogham space mark, the eleven spaces from en quad to hair space, line separator,
paragraph separator, narrow no-break space, medium mathematical space and ideographic
space. -/
def isBlank (c : Char) : Bool :=
  let n := c.toNat
  (0x09 ≤ n && n ≤ 0x0D) || n == 0x20 || n == 0x85 || n == 0xA0 || n == 0x1680 ||
    (0x2000 ≤ n && n ≤ 0x200A) || n == 0x2028 || n == 0x2029 || n == 0x202F ||
    n == 0x205F || n == 0x3000

/-- Drops the blank characters at the start of a character list. -/
def dropBlank (cs : List Char) : List Char :=
  cs.dropWhile isBlank

/-- **Trimming**: the text without its leading and trailing blank characters. -/
def trim (s : String) : String :=
  String.ofList (dropBlank (dropBlank s.toList).reverse).reverse

example : trim " \u00A0name\u3000\n" = "name" := by decide

example : trim "\u200Bname\uFEFF" = "\u200Bname\uFEFF" := by decide

/-- Every character that core counts as whitespace is blank. -/
theorem isBlank_of_isWhitespace {c : Char} (h : c.isWhitespace = true) : isBlank c = true := by
  simp only [Char.isWhitespace, Bool.or_eq_true, decide_eq_true_eq] at h
  simp only [isBlank, Bool.or_eq_true, Bool.and_eq_true, decide_eq_true_eq, beq_iff_eq]
  rcases h with ((h | h) | h) | h <;> subst h <;> decide

/-- Lower-casing ASCII letters keeps every character's blankness. -/
theorem isBlank_toLower (c : Char) : isBlank c.toLower = isBlank c := by
  unfold Char.toLower
  split
  · rename_i h
    -- an upper-case letter and its lower-case form are both letters, neither blank
    have hA : 'A'.val.toNat = 65 := rfl
    have hZ : 'Z'.val.toNat = 90 := rfl
    have hshift : ('a'.val - 'A'.val).toNat = 32 := rfl
    simp only [UInt32.le_iff_toNat_le, hA, hZ] at h
    rw [Bool.eq_iff_iff]
    simp only [isBlank, Char.toNat, UInt32.toNat_add, hshift, Bool.or_eq_true,
      Bool.and_eq_true, decide_eq_true_eq, beq_iff_eq]
    omega
  · rfl

/-- Dropping blanks commutes with a map that keeps every character's blankness. -/
theorem dropBlank_map {f : Char → Char} (hf : ∀ c, isBlank (f c) = isBlank c)
    (l : List Char) : dropBlank (l.map f) = (dropBlank l).map f := by
  induction l with
  | nil => rfl
  | cons c rest ih =>
    simp only [dropBlank] at ih ⊢
    rw [List.map_cons, List.dropWhile_cons, List.dropWhile_cons, hf]
    by_cases hc : isBlank c = true
    · simp [hc, ih]
    · simp [hc]

/-- **Trimming commutes with a map** that keeps every character's blankness. -/
theorem trim_map {f : Char → Char} (hf : ∀ c, isBlank (f c) = isBlank c) (s : String) :
    trim (String.ofList (s.toList.map f)) = String.ofList ((trim s).toList.map f) := by
  simp only [trim, String.toList_ofList, dropBlank_map hf, ← List.map_reverse]

end Text

end Bundling
