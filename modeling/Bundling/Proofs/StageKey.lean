import Bundling.Stage.Catalogue
import Mathlib.Data.List.Nodup

/-!
# Reading stage keys and looking stages up

A text names a stage exactly when, trimmed of blank characters and with every `-` turned
into `_`, it is the stage's key; every key names its own stage. Looking a stage up lower-cases
the ASCII letters of the text first and returns the registry's entry of the stage it names;
the registry has one entry per stage, so the lookup finds an entry exactly when the key reads.
Only ASCII letters are lower-cased: a key that agrees with a stage's key up to the case of
ASCII letters and the choice of `-` or `_` finds the stage, one written with other letters
does not, whatever their case mapping.

## Main statements

- `StageId.parse?_eq_some_iff` — what `parse?` accepts
- `StageExplanation.lookup?_eq_some_iff` — the entry a key finds
- `StageExplanation.lookup?_congr` — keys that agree up to ASCII case and dashes find the same
- `StageExplanation.lookup?_finds_registry_entry` — reading and looking up keys, together
-/

namespace Bundling

namespace StageId

theorem ofKey?_eq_some_iff (k : String) (id : StageId) : ofKey? k = some id ↔ id.key = k := by
  constructor
  · intro h
    have hk := List.find?_some h
    simpa using hk
  · rintro rfl
    exact ofKey?_key id

theorem normalizeKey_key (id : StageId) : normalizeKey id.key = id.key := by
  cases id <;> rfl

theorem parse?_eq_some_iff (s : String) (id : StageId) :
    parse? s = some id ↔ normalizeKey s = id.key := by
  rw [parse?, ofKey?_eq_some_iff]
  exact eq_comm

/-- A character of a key as a lookup compares it: ASCII letters lower-cased, then `-` turned
into `_`. -/
def foldKeyChar (c : Char) : Char :=
  if c.toLower = '-' then '_' else c.toLower

theorem isBlank_foldKeyChar (c : Char) : Text.isBlank (foldKeyChar c) = Text.isBlank c := by
  unfold foldKeyChar
  split
  · rename_i h
    rw [← Text.isBlank_toLower c, h]
    rfl
  · exact Text.isBlank_toLower c

/-- **What a lookup reads**: the lower-cased key, normalised, is the folded key trimmed. -/
theorem normalizeKey_asciiLower (k : String) :
    normalizeKey (asciiLower k) = Text.trim (String.ofList (k.toList.map foldKeyChar)) := by
  rw [normalizeKey, asciiLower, Text.trim_map Text.isBlank_toLower,
    Text.trim_map isBlank_foldKeyChar, String.toList_ofList, List.map_map]
  rfl

end StageId

namespace StageExplanation

/-- The registry lists the stages in scheduling order, each once. -/
theorem registry_ids : registry.map StageExplanation.id = StageId.all := rfl

/-- An entry of the registry is fixed by its stage. -/
theorem eq_of_id_eq {e e' : StageExplanation} (he : e ∈ registry) (he' : e' ∈ registry)
    (h : e.id = e'.id) : e = e' := by
  have hnodup : (registry.map StageExplanation.id).Nodup := by
    rw [registry_ids]
    decide
  exact List.inj_on_of_nodup_map hnodup he he' h

/-- **Every stage has its entry** in the registry. -/
theorem exists_mem_registry (id : StageId) : ∃ e ∈ registry, e.id = id := by
  have hid : id ∈ registry.map StageExplanation.id := by
    rw [registry_ids]
    exact StageId.mem_all id
  simpa using hid

/-- Searching the registry by a stage finds the one entry of that stage. -/
theorem find?_registry {e : StageExplanation} (he : e ∈ registry) :
    registry.find? (fun e' => e'.id == e.id) = some e := by
  cases hfind : registry.find? (fun e' => e'.id == e.id) with
  | none =>
    have := List.find?_eq_none.1 hfind e he
    simp at this
  | some e' =>
    have hmem := List.mem_of_find?_eq_some hfind
    have hid := List.find?_some hfind
    rw [beq_iff_eq] at hid
    rw [eq_of_id_eq hmem he hid]

/-- **The entry a key finds**: the registry's entry of the stage that the ASCII-lower-cased
key reads as. -/
theorem lookup?_eq_some_iff (k : String) (e : StageExplanation) :
    lookup? k = some e ↔ e ∈ registry ∧ StageId.parse? (StageId.asciiLower k) = some e.id := by
  unfold lookup?
  constructor
  · intro h
    obtain ⟨id, hparse, hfind⟩ := Option.bind_eq_some_iff.1 h
    have hid := List.find?_some hfind
    rw [beq_iff_eq] at hid
    exact ⟨List.mem_of_find?_eq_some hfind, hid ▸ hparse⟩
  · rintro ⟨he, hparse⟩
    exact Option.bind_eq_some_iff.2 ⟨e.id, hparse, find?_registry he⟩

/-- A lookup finds a stage exactly when the ASCII-lower-cased key reads as one. -/
theorem map_id_lookup? (k : String) :
    (lookup? k).map StageExplanation.id = StageId.parse? (StageId.asciiLower k) := by
  cases hparse : StageId.parse? (StageId.asciiLower k) with
  | none =>
    simp [lookup?, hparse]
  | some id =>
    obtain ⟨e, he, rfl⟩ := exists_mem_registry id
    rw [(lookup?_eq_some_iff k e).2 ⟨he, hparse⟩]
    rfl

/-- **Keys that agree up to ASCII case and dashes** find the same entry. -/
theorem lookup?_congr {k k' : String}
    (h : k.toList.map StageId.foldKeyChar = k'.toList.map StageId.foldKeyChar) :
    lookup? k = lookup? k' := by
  simp only [lookup?, StageId.parse?, StageId.normalizeKey_asciiLower, h]

/-- **Reading and looking up stage keys.** `parse?` accepts exactly the texts whose trimmed,
dash-to-underscore form is a key, and gives that key's stage; every key reads as its stage.
The registry lists every stage once, in scheduling order. A lookup returns the registry's
entry of the stage its ASCII-lower-cased key reads as, and finds one exactly when that key
reads; so two keys that agree once ASCII letters are lower-cased and dashes turned into
underscores find the same entry. Other letters are not case-mapped: `mınification`, with a
dotless `ı`, finds nothing, while its upper-case form `MINIFICATION` finds minification. -/
theorem lookup?_finds_registry_entry :
    (∀ (s : String) (id : StageId), StageId.parse? s = some id ↔ StageId.normalizeKey s = id.key) ∧
    (∀ id : StageId, StageId.parse? id.key = some id) ∧
    registry.map StageExplanation.id = StageId.all ∧
    (∀ (k : String) (e : StageExplanation),
      lookup? k = some e ↔ e ∈ registry ∧ StageId.parse? (StageId.asciiLower k) = some e.id) ∧
    (∀ k : String, (lookup? k).map StageExplanation.id = StageId.parse? (StageId.asciiLower k)) ∧
    (∀ k k' : String, k.toList.map StageId.foldKeyChar = k'.toList.map StageId.foldKeyChar →
      lookup? k = lookup? k') ∧
    (lookup? "mınification").map StageExplanation.id = none ∧
    (lookup? "MINIFICATION").map StageExplanation.id = some .minification := by
  refine ⟨StageId.parse?_eq_some_iff, fun id => ?_, registry_ids, lookup?_eq_some_iff,
    map_id_lookup?, fun k k' h => lookup?_congr h, ?_, ?_⟩
  · rw [StageId.parse?_eq_some_iff, StageId.normalizeKey_key]
  · rw [map_id_lookup?]
    decide
  · rw [map_id_lookup?]
    decide

end StageExplanation

end Bundling
