import Bundling.Error
import Bundling.Text.Path

/-!
# Alias tables

An alias maps a symbolic prefix of import specifiers, such as `components`, to a physical
directory. A table holds aliases in registration order together with the file extensions
tried when a specifier is resolved. The first alias whose name is the specifier or a
`/`-separated prefix of it applies; later aliases never shadow earlier ones.

## Main definitions

- `Alias` — one symbolic name and its directory
- `AliasTable` — aliases with distinct non-empty names, and extensions
- `AliasTable.register` — add an alias at the end
- `AliasTable.registerEach` — registrations in place, one after another
- `AliasTable.candidates` — the paths probed for a specifier, in order
- `AliasTable.resolve` — the first candidate that is a file
- `Alias.standard` — the five aliases of a project root

## Design notes

That names are non-empty and pairwise distinct is a proof field of `AliasTable`: every
table that registration builds has it.
-/

namespace Bundling

/-- **An alias**: a symbolic name and the directory it stands for. -/
structure Alias where
  name : String
  path : String
  deriving DecidableEq, Repr

namespace Alias

/-- The names of the standard aliases of a project. -/
def standardNames : List String := ["styles", "components", "pages", "store", "locales"]

/-- **The standard aliases** of a project root: each name maps to the directory of that
name under `src`, written with a trailing separator. -/
def standard (root : String) : List Alias :=
  standardNames.map fun n => ⟨n, Path.join (Path.join root "src") n ++ "/"⟩

end Alias

/-- The extensions tried by default, in order. -/
def defaultExtensions : List String := [".js", ".scss", ".css", ".ts", ".svelte"]

/-- The aliases of a table have non-empty, pairwise distinct names. -/
def AliasesValid (entries : List Alias) : Prop :=
  (entries.map Alias.name).Nodup ∧ ∀ a ∈ entries, a.name ≠ ""

/-- **An alias table**: aliases in registration order and the extensions to try. -/
structure AliasTable where
  entries : List Alias
  extensions : List String
  valid : AliasesValid entries

namespace AliasTable

/-- The empty table with the given extensions. -/
def empty (extensions : List String) : AliasTable :=
  ⟨[], extensions, ⟨List.nodup_nil, fun _ h => absurd h List.not_mem_nil⟩⟩

theorem valid_append {entries : List Alias} (h : AliasesValid entries) {name path : String}
    (hname : name ≠ "") (hnew : name ∉ entries.map Alias.name) :
    AliasesValid (entries ++ [⟨name, path⟩]) := by
  refine ⟨?_, ?_⟩
  · rw [List.map_append, List.nodup_append]
    refine ⟨h.1, List.nodup_cons.2 ⟨List.not_mem_nil, List.nodup_nil⟩, ?_⟩
    intro a ha b hb
    simp only [List.map_cons, List.map_nil, List.mem_singleton] at hb
    subst hb
    intro hab; subst hab; exact hnew ha
  · intro a ha
    rcases List.mem_append.mp ha with ha | ha
    · exact h.2 a ha
    · simp only [List.mem_singleton] at ha; subst ha; exact hname

/-- **Registering an alias**: an empty name is refused first, then a name already in the
table; otherwise the alias goes to the end. A refused registration changes nothing. -/
def register (t : AliasTable) (name path : String) : Except BuildError AliasTable :=
  if hname : name = "" then .error .emptyAliasName
  else if hnew : name ∈ t.entries.map Alias.name then .error (.duplicateAlias name)
  else .ok ⟨t.entries ++ [⟨name, path⟩], t.extensions, valid_append t.valid hname hnew⟩

/-- **Registering in place**: the outcome of a registration and the table after it, which a
refusal leaves as it was. -/
def registerInPlace (t : AliasTable) (name path : String) : Except BuildError Unit × AliasTable :=
  match t.register name path with
  | .ok t' => (.ok (), t')
  | .error e => (.error e, t)

/-- Registers aliases in place one after another, going on past refusals: the outcome of each
registration in order, and the final table. -/
def registerEach (t : AliasTable) : List Alias → List (Except BuildError Unit) × AliasTable
  | [] => ([], t)
  | a :: rest =>
    let (r, t₁) := t.registerInPlace a.name a.path
    let (rs, t₂) := t₁.registerEach rest
    (r :: rs, t₂)

/-- Registers aliases one after another, stopping at the first refusal. -/
def registerAll (t : AliasTable) : List Alias → Except BuildError AliasTable
  | [] => .ok t
  | a :: rest => do
    let t' ← t.register a.name a.path
    t'.registerAll rest

/-- **The table of a list of aliases**, registered in order into an empty table. -/
def ofEntries (entries : List Alias) (extensions : List String) : Except BuildError AliasTable :=
  (empty extensions).registerAll entries

/-- The rest of a specifier after an alias name, when the name is the whole specifier or is
followed by a separator. -/
def remainder? (name spec : String) : Option String :=
  if name.toList.isPrefixOf spec.toList then
    let rest := spec.toList.drop name.length
    if rest.isEmpty || rest.head? == some '/' then some (String.ofList rest) else none
  else none

/-- **The alias that applies** to a specifier, with the rest of the specifier: the first
alias in registration order whose name matches. -/
def matching? (t : AliasTable) (spec : String) : Option (Alias × String) :=
  t.entries.findSome? fun a => (remainder? a.name spec).map fun rest => (a, rest)

/-- A text without its trailing separators. -/
def trimSlashes (s : String) : String :=
  String.ofList (s.toList.reverse.dropWhile (· == '/')).reverse

/-- **The candidate paths** of a specifier. With `base` the alias directory, without
trailing separators, followed by the rest of the specifier and again without trailing
separators: when the rest is non-empty, `base` itself and `base` with each extension;
then always `base/index` with each extension. No matching alias gives no candidates. -/
def candidates (t : AliasTable) (spec : String) : List String :=
  match t.matching? spec with
  | none => []
  | some (a, rest) =>
    let base := trimSlashes (trimSlashes a.path ++ rest)
    let direct := if rest.isEmpty then [] else base :: t.extensions.map (base ++ ·)
    direct ++ t.extensions.map (fun e => base ++ "/index" ++ e)

/-- **Resolving a specifier**: the first candidate that the probe reports as a file. -/
def resolve (t : AliasTable) (spec : String) (isFile : String → Bool) : Option String :=
  (t.candidates spec).find? isFile

end AliasTable

end Bundling
