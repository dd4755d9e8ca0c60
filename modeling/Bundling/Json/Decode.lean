import Bundling.Json.Value
import Bundling.Text.Sorted

/-!
# Reading values out of JSON

Decoders from JSON values to plain data, following the conventions of record formats:
a record is an object whose members are looked up by name — unknown members are skipped,
a member named twice is refused — or an array holding the fields in order; a missing field
is absent; a field with a default takes it when absent. A map takes the last of two equal
keys; a set drops repetitions.

## Main definitions

- `Json.fields?` — the fields of a record, by name or by position
- `Json.string?`, `Json.bool?`, `Json.uint32?` — scalars
- `Json.list?`, `Json.textSet?`, `Json.textMap?` — collections
- `Json.variant?` — the name of a variant without data
-/

namespace Bundling

namespace Json

/-- A string, refused when an escape in it named half a surrogate pair. -/
def string? : Json → Option String
  | .str s true => some s
  | _ => none

/-- A truth value. -/
def bool? : Json → Option Bool
  | .bool b => some b
  | _ => none

/-- **A 32-bit unsigned integer**: a number written as a non-negative integer below `2 ^ 32`. -/
def uint32? : Json → Option UInt32
  | .num n =>
    if n.integral && !n.negative && n.exponent == 0 && n.mantissa < Nat.pow 2 32 then
      some n.mantissa.toUInt32
    else none
  | _ => none

/-- Decodes every item of an array. -/
def list? {α : Type} (f : Json → Option α) : Json → Option (List α)
  | .arr items => items.mapM f
  | _ => none

/-- A set of texts from an array of strings; repetitions collapse. -/
def textSet? (j : Json) : Option TextSet :=
  (list? string? j).map TextSet.ofList

/-- A map from texts from an object; of two equal keys the later wins. -/
def textMap? {α : Type} (f : Json → Option α) : Json → Option (TextMap α)
  | .obj fields true => do
    let pairs ← fields.mapM fun (k, v) => (f v).map fun a => (k, a)
    return TextMap.ofList pairs
  | _ => none

/-- How often a key is used in a member list. -/
def keyCount (k : String) (fields : List (String × Json)) : Nat :=
  (fields.filter fun p => p.1 == k).length

/-- **The fields of a record**, by name: for an object, each name's value if present,
refusing a name used twice and skipping other members; for an array, the items in order,
absent at the end, refusing more items than names. -/
def fields? (names : List String) : Json → Option (List (Option Json))
  | .obj fields true =>
    if names.any (fun n => keyCount n fields > 1) then none
    else some (names.map fun n => (fields.find? fun p => p.1 == n).map Prod.snd)
  | .arr items =>
    if items.length > names.length then none
    else some ((List.range names.length).map fun i => items[i]?)
  | _ => none

/-- A required field: absent is refused. -/
def required? {α : Type} (f : Json → Option α) : Option Json → Option α
  | some j => f j
  | none => none

/-- A field with a default: absent gives the default. -/
def withDefault? {α : Type} (d : α) (f : Json → Option α) : Option Json → Option α
  | some j => f j
  | none => some d

/-- An optional field: absent or null gives nothing. -/
def optional? {α : Type} (f : Json → Option α) : Option Json → Option (Option α)
  | none => some none
  | some .null => some none
  | some j => (f j).map some

/-- **The name of a variant without data**: a string, or an object with that name as its
only member and null as its value. When the value was buffered with its siblings
(`buffered`), an empty object is accepted in place of null. -/
def variant? (buffered : Bool := false) : Json → Option String
  | .str s true => some s
  | .obj [(k, .null)] true => some k
  | .obj [(k, .obj [] _)] true => if buffered then some k else none
  | _ => none

/-! ### Reading back what was written -/

@[simp] theorem string?_str (s : String) : string? (.str s) = some s := rfl

@[simp] theorem bool?_bool (b : Bool) : bool? (.bool b) = some b := rfl

theorem keyCount_le_one {fields : List (String × Json)} (h : (fields.map Prod.fst).Nodup)
    (k : String) : keyCount k fields ≤ 1 := by
  induction fields with
  | nil => simp [keyCount]
  | cons p rest ih =>
    obtain ⟨hp, hrest⟩ := List.nodup_cons.mp h
    by_cases hk : p.1 = k
    · -- no later member has the name of `p`
      have hnone : keyCount k rest = 0 := by
        simp only [keyCount, List.length_eq_zero_iff, List.filter_eq_nil_iff, beq_iff_eq]
        intro q hq hqk
        exact hp (hk ▸ hqk ▸ List.mem_map_of_mem hq)
      simp only [keyCount, List.filter_cons, hk, beq_self_eq_true, ↓reduceIte,
        List.length_cons] at hnone ⊢
      omega
    · simpa [keyCount, List.filter_cons, hk] using ih hrest

/-- **The fields of an object with distinct names**: the value of each name, if present. -/
theorem fields?_obj {names : List String} {fields : List (String × Json)}
    (h : (fields.map Prod.fst).Nodup) :
    fields? names (.obj fields) =
      some (names.map fun n => (fields.find? fun p => p.1 == n).map Prod.snd) := by
  have hcount : names.any (fun n => keyCount n fields > 1) = false := by
    simpa using fun n _ => keyCount_le_one h n
  simp only [fields?, hcount]
  rfl

theorem mapM_map_eq_some {α β : Type} {f : β → Option α} {g : α → β} {xs : List α}
    (h : ∀ x ∈ xs, f (g x) = some x) : (xs.map g).mapM f = some xs := by
  induction xs with
  | nil => rfl
  | cons x rest ih =>
    rw [List.map_cons, List.mapM_cons, h x List.mem_cons_self,
      ih fun y hy => h y (List.mem_cons_of_mem _ hy)]
    rfl

/-- An array of written items reads back item by item. -/
theorem list?_arr_map {α : Type} {f : Json → Option α} {g : α → Json} {xs : List α}
    (h : ∀ x ∈ xs, f (g x) = some x) : list? f (.arr (xs.map g)) = some xs :=
  mapM_map_eq_some h

/-- A written list of texts reads back. -/
theorem list?_ofStrings (xs : List String) : list? string? (ofStrings xs) = some xs :=
  list?_arr_map fun _ _ => rfl

/-- **A written 32-bit integer reads back.** -/
theorem uint32?_ofNat (n : UInt32) : uint32? (ofNat n.toNat) = some n := by
  have hmantissa : (Number.ofNat n.toNat).mantissa = n.toNat := by
    rw [Number.mantissa, Number.ofNat, String.append_empty, digitsValue_toString]
  have hexponent : (Number.ofNat n.toNat).exponent = 0 := by
    simp [Number.exponent, Number.ofNat]
  have hlt : n.toNat < Nat.pow 2 32 := n.toNat_lt
  -- the number is written as a non-negative integer in range
  have hwritten : ((Number.ofNat n.toNat).integral && !(Number.ofNat n.toNat).negative &&
      (Number.ofNat n.toNat).exponent == 0 &&
      decide ((Number.ofNat n.toNat).mantissa < Nat.pow 2 32)) = true := by
    simp only [hexponent, hmantissa]
    simp [Number.integral, Number.ofNat, hlt]
  rw [ofNat, uint32?.eq_1, if_pos hwritten, hmantissa]
  exact congrArg some UInt32.ofNat_toNat

/-- A written set of texts reads back. -/
theorem textSet?_ofStrings (xs : TextSet) : textSet? (ofStrings xs.toList) = some xs := by
  rw [textSet?, list?_ofStrings, Option.map_some, TextSet.ofList_toList]

/-- A written map of texts reads back. -/
theorem textMap?_ofStringFields (m : TextMap String) :
    textMap? string? (ofStringFields m.toList) = some m := by
  simp only [textMap?, ofStringFields]
  rw [mapM_map_eq_some]
  · exact congrArg some (TextMap.ofList_toList m)
  · rintro ⟨k, v⟩ -
    rfl

end Json

end Bundling
