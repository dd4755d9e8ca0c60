/-!
# TOML values and documents

The values of the TOML format, and the document a reader builds from its lines: tables
opened by headers, arrays of tables, and keys with values.

## Main definitions

- `Toml.Value` — strings, integers, floats, booleans, date-times, arrays and tables
- `Toml.Value.isData` — every number inside a value holds a value
- `Toml.TableKind`, `Toml.Item` — a table under construction and how it came to be
- `Toml.Document` — the root table and the header of the current section
- `Document.defineTable`, `Document.appendTable`, `Document.assign` — the effect of a table
  header, an array-of-tables header and a key with its value
- `Document.toValue` — the finished document as a table value

## Design notes

A table is defined once. A header may pass through any table on its way, and may define a
table that earlier headers only passed through; dotted keys may pass through tables that
nothing defined explicitly, and a key with a dotted prefix must land in a table made by
dotted keys. Values, inline tables and arrays written in place are closed: nothing may be
added to them afterwards. Every violation makes the document invalid.
-/

namespace Bundling

namespace Toml

/-- **A TOML value.** Floats and date-times keep their text; tables keep their keys in
written order. A number that is well written but holds no value of the data model — an
integer beyond 128 bits or a radix prefix without digits, a float past the largest double —
is kept as `unrepresentable` with its text: reading it fails only when a reader takes it. -/
inductive Value where
  | str (s : String)
  | int (i : Int)
  | float (text : String)
  | bool (b : Bool)
  | datetime (text : String)
  | arr (items : List Value)
  | table (entries : List (String × Value))
  | unrepresentable (text : String)
  deriving Repr

mutual

/-- **Whether a value can be read as data** in full: no number inside it is
`unrepresentable`. -/
def Value.isData : Value → Bool
  | .unrepresentable _ => false
  | .arr items => Value.allData items
  | .table entries => Value.allDataMembers entries
  | _ => true

/-- Every item can be read as data. -/
def Value.allData : List Value → Bool
  | [] => true
  | v :: rest => v.isData && Value.allData rest

/-- Every member's value can be read as data. -/
def Value.allDataMembers : List (String × Value) → Bool
  | [] => true
  | (_, v) :: rest => v.isData && Value.allDataMembers rest

end

/-- **How a table came to be**: by a header or as an element of an array of tables
(`explicit`), by a header that passes through it (`implicit`), or by a dotted key
(`dotted`). -/
inductive TableKind where
  | explicit
  | implicit
  | dotted
  deriving DecidableEq, Repr

/-- Whether dotted keys may pass through a table of this kind. -/
def TableKind.isImplicit : TableKind → Bool
  | .explicit => false
  | .implicit => true
  | .dotted => true

/-- **A member of a table under construction**: a closed value, a table, or an array of
tables whose last element is the one still open. -/
inductive Item where
  | value (v : Value)
  | table (kind : TableKind) (entries : List (String × Item))
  | tables (items : List (List (String × Item)))

/-- The members of a table under construction, in written order. -/
abbrev Entries := List (String × Item)

/-- The member of a key. -/
def Entries.get? (es : Entries) (k : String) : Option Item :=
  (es.find? fun e => e.1 == k).map Prod.snd

/-- Replaces the member of a key, or adds it at the end. -/
def Entries.put (es : Entries) (k : String) (it : Item) : Entries :=
  if es.any (fun e => e.1 == k) then es.map fun e => if e.1 == k then (k, it) else e
  else es ++ [(k, it)]

/-- **Walking a key path** from a table of kind `kind` and applying `f` to the table at its
end. A missing table is created (of kind `dotted` for dotted keys, else `implicit`); an
array of tables is entered at its last element; a value cannot be entered, and dotted keys
cannot enter a table defined explicitly. -/
def descend (dotted : Bool) (f : TableKind → Entries → Option Entries) :
    TableKind → List String → Entries → Option Entries
  | kind, [], es => f kind es
  | _, k :: rest, es =>
    match es.get? k with
    | none =>
      let kind := if dotted then TableKind.dotted else .implicit
      (descend dotted f kind rest []).map fun sub => es.put k (.table kind sub)
    | some (.value _) => none
    | some (.tables items) =>
      match items.getLast? with
      | none => none
      | some last =>
        (descend dotted f .explicit rest last).map fun sub =>
          es.put k (.tables (items.dropLast ++ [sub]))
    | some (.table kind sub) =>
      if dotted && !kind.isImplicit then none
      else (descend dotted f kind rest sub).map fun sub' => es.put k (.table kind sub')

/-- Adds a key with a value to a table reached by a dotted prefix: the table must have been
made by dotted keys exactly when the prefix is not empty, and the key must be new. -/
def insertValue (prefixEmpty : Bool) (k : String) (v : Value) (kind : TableKind) (es : Entries) :
    Option Entries :=
  if (kind == .dotted) == prefixEmpty then none
  else if (es.get? k).isSome then none
  else some (es ++ [(k, .value v)])

/-- **A document being read**: the root table and the header path of the current section
(empty before the first header). -/
structure Document where
  root : Entries := []
  current : List String := []

namespace Document

/-- **A table header** `[a.b.c]`: the table is new, or was only passed through before. -/
def defineTable (d : Document) (path : List String) : Option Document :=
  match path.getLast? with
  | none => none
  | some last =>
    let define : TableKind → Entries → Option Entries := fun _ es =>
      match es.get? last with
      | none => some (es.put last (.table .explicit []))
      | some (.table .implicit sub) => some (es.put last (.table .explicit sub))
      | some _ => none
    (descend false define .explicit path.dropLast d.root).map fun root => ⟨root, path⟩

/-- **An array-of-tables header** `[[a.b]]`: a new table at the end of the array, which must
have been made by such headers. -/
def appendTable (d : Document) (path : List String) : Option Document :=
  match path.getLast? with
  | none => none
  | some last =>
    let append : TableKind → Entries → Option Entries := fun _ es =>
      match es.get? last with
      | none => some (es.put last (.tables [[]]))
      | some (.tables items) => some (es.put last (.tables (items ++ [[]])))
      | some _ => none
    (descend false append .explicit path.dropLast d.root).map fun root => ⟨root, path⟩

/-- **A key with a value** in the current section. -/
def assign (d : Document) (key : List String) (v : Value) : Option Document :=
  match key.getLast? with
  | none => none
  | some last =>
    let inner : TableKind → Entries → Option Entries := fun kind es =>
      descend true (insertValue key.dropLast.isEmpty last v) kind key.dropLast es
    (descend false inner .explicit d.current d.root).map fun root => { d with root := root }

end Document

/-- **An inline table** from its keys and values in order: dotted keys make tables inside it,
and every key is set once. -/
def inlineEntries : List (List String × Value) → Entries → Option Entries
  | [], es => some es
  | (key, v) :: rest, es =>
    match key.getLast? with
    | none => none
    | some last =>
      match descend true (insertValue key.dropLast.isEmpty last v) .explicit key.dropLast es with
      | none => none
      | some es' => inlineEntries rest es'

mutual

/-- The value of a finished member. -/
def Item.toValue : Item → Value
  | .value v => v
  | .table _ es => .table (entriesToValue es)
  | .tables ts => .arr (tablesToValue ts)

/-- The values of finished members. -/
def entriesToValue : List (String × Item) → List (String × Value)
  | [] => []
  | (k, it) :: rest => (k, it.toValue) :: entriesToValue rest

/-- The tables of a finished array of tables. -/
def tablesToValue : List (List (String × Item)) → List Value
  | [] => []
  | es :: rest => .table (entriesToValue es) :: tablesToValue rest

end

/-- The finished document as a table. -/
def Document.toValue (d : Document) : Value :=
  .table (entriesToValue d.root)

end Toml

end Bundling
