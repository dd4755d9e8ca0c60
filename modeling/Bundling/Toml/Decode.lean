import Bundling.Toml.Value

/-!
# Reading records from TOML values

How a configuration record is read from a TOML value: from a table by key, or from an array
by position. A key the record does not know is still read through, so it must hold data
(`Value.isData`); items of an array beyond the record's fields are not read at all. A
date-time reads as a table with one member, its text, which no record field names.

## Main definitions

- `Value.fields?` — the values of a record's fields, absent ones as `none`
- `Value.string?`, `Value.bool?`, `Value.list?`, `Value.members?` — values of each shape
-/

namespace Bundling

namespace Toml

namespace Value

/-- **The fields of a record**, by name from a table and by position from an array. The
members of a table that no field names must hold data. -/
def fields? (names : List String) : Value → Option (List (Option Value))
  | .table es =>
    if es.all fun (k, v) => names.contains k || v.isData then
      some (names.map fun n => (es.find? fun e => e.1 == n).map Prod.snd)
    else none
  | .datetime _ => some (names.map fun _ => none)
  | .arr items => some (names.mapIdx fun i _ => items[i]?)
  | _ => none

/-- A string. -/
def string? : Value → Option String
  | .str s => some s
  | _ => none

/-- A boolean. -/
def bool? : Value → Option Bool
  | .bool b => some b
  | _ => none

/-- An array, each item read by `f`. -/
def list? {α : Type} (f : Value → Option α) : Value → Option (List α)
  | .arr items => items.mapM f
  | _ => none

/-- The members of a table, in written order; a date-time has one, its text. -/
def members? : Value → Option (List (String × Value))
  | .table es => some es
  | .datetime text => some [("datetime", .str text)]
  | _ => none

end Value

/-- A field that must be present. -/
def required? {α : Type} (f : Value → Option α) : Option Value → Option α
  | some v => f v
  | none => none

/-- A field that takes a default when absent. -/
def withDefault? {α : Type} (f : Value → Option α) (d : α) : Option Value → Option α
  | some v => f v
  | none => some d

/-- A field that may be absent. -/
def optional? {α : Type} (f : Value → Option α) : Option Value → Option (Option α)
  | some v => (f v).map some
  | none => some none

end Toml

end Bundling
