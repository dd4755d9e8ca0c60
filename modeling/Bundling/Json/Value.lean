/-!
# JSON values

Documents of the JSON format as trees. Objects keep their members in written order,
repeated keys included, because reading a record refuses a repeated field while reading a
map lets the last one win. Numbers keep the form they were written in.

## Main definitions

- `Json.Number` — a number as written: sign, digits around the point, and exponent
- `Json` — the values of the format
- `Json.ofNat`, `Json.ofStrings` — values built from plain data

## Design notes

A string read from text may hold an escape that names half of a surrogate pair alone. No
character stands for it, so such a string is kept with `valid := false` (its text then has
a replacement character in that place); likewise an object with such a key. Readers that
decode a string or a key refuse these, readers that skip a value do not.
-/

namespace Bundling

namespace Json

/-- **A number as written**: its sign, the digits before the point, the digits after it
(empty without a point) and the exponent, if one was written. -/
structure Number where
  negative : Bool
  whole : String
  fraction : String
  power : Option Int
  deriving DecidableEq, Repr

/-- The value of a text of decimal digits. -/
def digitsValue (ds : String) : Nat :=
  ds.foldl (fun n d => 10 * n + (d.toNat - '0'.toNat)) 0

/-- All written digits as one natural number. -/
def Number.mantissa (n : Number) : Nat := digitsValue (n.whole ++ n.fraction)

/-- The power of ten the mantissa is scaled by: the written exponent less the fraction's
digits. The value of the number is `± mantissa * 10 ^ exponent`. -/
def Number.exponent (n : Number) : Int := n.power.getD 0 - n.fraction.length

/-- Written as an integer: neither a fraction nor an exponent. -/
def Number.integral (n : Number) : Bool := n.fraction.isEmpty && n.power.isNone

/-- A natural number written as an integer. -/
def Number.ofNat (n : Nat) : Number := ⟨false, toString n, "", none⟩

theorem digitChar_sub_zero : ∀ d, d < 10 → (Nat.digitChar d).toNat - '0'.toNat = d := by
  decide

theorem foldl_toDigits (n : Nat) :
    (Nat.toDigits 10 n).foldl (fun n d => 10 * n + (d.toNat - '0'.toNat)) 0 = n := by
  induction n using Nat.strongRecOn with
  | ind n ih =>
    by_cases hn : n < 10
    · rw [Nat.toDigits_of_lt_base hn, List.foldl_cons, List.foldl_nil, digitChar_sub_zero n hn]
      omega
    · -- the digits of `n` are those of `n / 10` followed by its last digit
      have hsplit :
          Nat.toDigits 10 n = Nat.toDigits 10 (n / 10) ++ [Nat.digitChar (n % 10)] := by
        rw [← Nat.toDigits_of_lt_base (Nat.mod_lt n (by decide)),
          Nat.toDigits_append_toDigits (by decide) (by omega) (Nat.mod_lt n (by decide)),
          Nat.div_add_mod]
      rw [hsplit, List.foldl_append, ih (n / 10) (by omega), List.foldl_cons, List.foldl_nil,
        digitChar_sub_zero (n % 10) (Nat.mod_lt n (by decide))]
      omega

/-- **Decimal digits read back**: the digits a natural number is written with have its value. -/
theorem digitsValue_toString (n : Nat) : digitsValue (toString n) = n := by
  rw [digitsValue, String.foldl_eq_foldl_toList, Nat.toString_eq_repr,
    Nat.repr_eq_ofList_toDigits, String.toList_ofList, foldl_toDigits]

end Json

/-- **A JSON value.** -/
inductive Json where
  | null
  | bool (b : Bool)
  | num (n : Json.Number)
  | str (s : String) (valid : Bool := true)
  | arr (items : List Json)
  | obj (fields : List (String × Json)) (valid : Bool := true)
  deriving Repr

namespace Json

/-- A natural number. -/
def ofNat (n : Nat) : Json := .num (Number.ofNat n)

/-- An array of strings. -/
def ofStrings (xs : List String) : Json := .arr (xs.map fun s => .str s)

/-- An object of string members. -/
def ofStringFields (xs : List (String × String)) : Json := .obj (xs.map fun (k, v) => (k, .str v))

end Json

end Bundling
