import Bundling.Settings
import Bundling.Toml.Read
import Bundling.Toml.Decode

/-!
# The configuration file

A project may hold `bundleplan.toml`. Its tables set the alias table (`[[alias]]` with
`find` and `replacement`), resolution (`[resolve]`: `extensions`, `dedupe`), diagnostics
(`[diagnostics]`: `framework_namespace`, `circular_code`), the host runtime (`[runtime]`:
`name`, `version`, `builtins`), the typed-source switch (`[build]`: `typescript`) and entry
points (`[entries.<target>]`: `input`, `output`). Every table and field may be left out.

## Main definitions

- `Config` — what the file sets
- `Config.ofToml?`, `Config.parse` — reading it from a TOML value and from text
- `Config.absolutize` — an alias replacement made absolute under the project root
- `Config.toSettings` — the file's settings over the defaults of a root
- `Config.typescript?` — the typed-source switch of the command line and the file

## Design notes

An alias table in the file replaces the standard one, unless it is empty. A `dedupe` that
is blank after trimming turns deduplication off. Entry names must be target names exactly;
they are checked in increasing order, and the first that is not one is reported.
-/

namespace Bundling

/-- The name of the configuration file in a project root. -/
def configFileName : String := "bundleplan.toml"

/-- **An alias of the configuration file**: a symbolic name and its replacement path. -/
structure AliasRule where
  find : String
  replacement : String

/-- **A host runtime of the configuration file.** -/
structure RuntimeRule where
  name : String
  version : String
  builtins : List String

/-- **What the configuration file sets**; `none` and empty leave the defaults. -/
structure Config where
  aliases : List AliasRule := []
  extensions : Option (List String) := none
  dedupe : Option String := none
  frameworkNamespace : Option String := none
  circularCode : Option String := none
  runtime : Option RuntimeRule := none
  typescript : Bool := false
  entries : TextMap Entry := TextMap.empty

/-- **Why a configuration file was refused**: it is not a TOML document of the expected
shape, or an entry names no target. -/
inductive ConfigError where
  | invalid
  | entry (name : String) (cause : BuildError)

/-- The description of a refused configuration. -/
def ConfigError.message : ConfigError → String
  | .invalid => "invalid TOML"
  | .entry name cause => "[entries." ++ name ++ "] in " ++ configFileName ++ ": " ++ cause.message

namespace Config

open Toml

/-- An alias from a table or an array. -/
def aliasOfToml? (v : Value) : Option AliasRule := do
  let [f, r] ← v.fields? ["find", "replacement"] | none
  return ⟨← required? Value.string? f, ← required? Value.string? r⟩

/-- A host runtime from a table or an array. -/
def runtimeOfToml? (v : Value) : Option RuntimeRule := do
  let [n, ver, b] ← v.fields? ["name", "version", "builtins"] | none
  return ⟨← required? Value.string? n, ← required? Value.string? ver,
    ← required? (Value.list? Value.string?) b⟩

/-- An entry point from a table or an array. -/
def entryOfToml? (v : Value) : Option Entry := do
  let [i, o] ← v.fields? ["input", "output"] | none
  return ⟨← required? Value.string? i, ← required? Value.string? o⟩

/-- The `[resolve]` table: extensions and the deduplicated package. -/
def resolveOfToml? (v : Value) : Option (Option (List String) × Option String) := do
  let [e, d] ← v.fields? ["extensions", "dedupe"] | none
  return (← optional? (Value.list? Value.string?) e, ← optional? Value.string? d)

/-- The `[diagnostics]` table: the framework namespace and the diagnostic code. -/
def diagnosticsOfToml? (v : Value) : Option (Option String × Option String) := do
  let [n, c] ← v.fields? ["framework_namespace", "circular_code"] | none
  return (← optional? Value.string? n, ← optional? Value.string? c)

/-- The `[build]` table: the typed-source switch. -/
def buildOfToml? (v : Value) : Option Bool := do
  let [t] ← v.fields? ["typescript"] | none
  withDefault? Value.bool? false t

/-- The entry points by name. -/
def entriesOfToml? (v : Value) : Option (TextMap Entry) := do
  let ms ← v.members?
  let es ← ms.mapM fun (k, e) => (entryOfToml? e).map (k, ·)
  return TextMap.ofList es

/-- **The configuration of a TOML document.** -/
def ofToml? (v : Value) : Option Config := do
  let [a, r, d, rt, b, e] ← v.fields? ["alias", "resolve", "diagnostics", "runtime", "build", "entries"]
    | none
  let (extensions, dedupe) ← withDefault? resolveOfToml? (none, none) r
  let (ns, code) ← withDefault? diagnosticsOfToml? (none, none) d
  return {
    aliases := ← withDefault? (Value.list? aliasOfToml?) [] a
    extensions := extensions
    dedupe := dedupe
    frameworkNamespace := ns
    circularCode := code
    runtime := ← optional? runtimeOfToml? rt
    typescript := ← withDefault? buildOfToml? false b
    entries := ← withDefault? entriesOfToml? TextMap.empty e }

/-- **The configuration of a file's text.** -/
def parse (text : String) : Except ConfigError Config :=
  match (Toml.parse? text).bind ofToml? with
  | some c => .ok c
  | none => .error .invalid

/-- **An alias replacement under a root**: an absolute path stays; another is joined to the
root, and keeps its closing slash. -/
def absolutize (root replacement : String) : String :=
  if Path.isAbsolute replacement then replacement
  else
    let joined := Path.join root replacement
    if replacement.endsWith "/" && !joined.endsWith "/" then joined ++ "/" else joined

/-- The entry points by target, each name checked in increasing order. -/
def entryTargets (entries : List (String × Entry)) : Except ConfigError (ByTarget Entry) :=
  entries.foldlM (fun acc (name, e) =>
    match Target.parse name with
    | .ok t => .ok (acc.set t e)
    | .error cause => .error (.entry name cause)) {}

/-- **The settings of a configuration** over the defaults of a root. -/
def toSettings (c : Config) (root : String) : Except ConfigError Settings := do
  let base := Settings.forRoot root
  let entries ← entryTargets c.entries.toList
  return { base with
    aliases := if c.aliases.isEmpty then base.aliases
      else c.aliases.map fun a => ⟨a.find, absolutize root a.replacement⟩
    extensions := c.extensions.getD base.extensions
    dedupe := match c.dedupe with
      | some d => let t := Text.trim d; if t.isEmpty then none else some t
      | none => base.dedupe
    frameworkNamespace := c.frameworkNamespace.getD base.frameworkNamespace
    diagnosticCode := c.circularCode.getD base.diagnosticCode
    host := match c.runtime with
      | some r => ⟨r.name, r.version, TextSet.ofList r.builtins⟩
      | none => base.host
    entries := entries }

/-- The typed-source switch: on when the command line or the file turns it on. -/
def typescript? (c : Config) (commandLine : Bool) : Bool :=
  commandLine || c.typescript

end Config

end Bundling
