import Bundling.Json.Decode
import Bundling.Plan.Basic

/-!
# Plans as JSON

The JSON form of plans and their parts, and reading it back. Records are written with
their fields in declaration order; a pipeline omits an absent entry and an empty set of
externals, module resolution omits an absent package. Stage options carry the stage key
in a `type` member beside their fields.

## Main definitions

- `Env.toJson`, `StageOptions.toJson`, `Pipeline.toJson`, `Plan.toJson` — writing
- `Env.ofJson?`, `StageOptions.ofJson?`, `Pipeline.ofJson?`, `Plan.ofJson?` — reading

## Design notes

Reading follows the record conventions of `Json.fields?`. Stage options are read with all
their members buffered, so that the `type` member may stand anywhere; inside them a
variant without data may also be written as an object holding an empty object.
-/

namespace Bundling

/-- The JSON form of an environment. -/
def Env.toJson (e : Env) : Json :=
  .obj [("mode", .str e.mode.name), ("legacy_build", .bool e.legacy),
    ("is_browser", .bool e.browser), ("typescript", .bool e.typescript)]

/-- The JSON form of an alias. -/
def Alias.toJson (a : Alias) : Json :=
  .obj [("symbolic_name", .str a.name), ("physical_path", .str a.path)]

/-- The JSON form of a list of aliases. -/
def Alias.listToJson (as : List Alias) : Json :=
  .arr (as.map Alias.toJson)

namespace StageOptions

/-- The members of stage options besides `type`. -/
def members : StageOptions → List (String × Json)
  | aliasResolution entries extensions =>
    [("entries", Alias.listToJson entries), ("extensions", Json.ofStrings extensions)]
  | envSubstitution replacements => [("replacements", Json.ofStringFields replacements.toList)]
  | componentCompilation generate dev hydratable emitCss preprocessTypescript =>
    [("generate", .str generate.name), ("dev", .bool dev), ("hydratable", .bool hydratable),
      ("emit_css", .bool emitCss), ("preprocess_typescript", .bool preprocessTypescript)]
  | moduleResolution browser dedupe =>
    ("browser", .bool browser) :: (match dedupe with
      | some pkg => [("dedupe", .str pkg)]
      | none => [])
  | interopNormalization => []
  | typedSource check => [("check", .bool check)]
  | legacyDownlevel extensions runtimeHelpers exclude browserslist plugins =>
    [("extensions", Json.ofStrings extensions), ("runtime_helpers", .bool runtimeHelpers),
      ("exclude", Json.ofStrings exclude), ("browserslist", .str browserslist),
      ("plugins", Json.ofStrings plugins)]
  | minification asModule => [("module", .bool asModule)]

/-- **The JSON form of stage options**: the stage key under `type`, then the fields. -/
def toJson (o : StageOptions) : Json :=
  .obj (("type", .str o.id.key) :: o.members)

end StageOptions

/-- The JSON form of a scheduled stage. -/
def Stage.toJson (s : Stage) : Json :=
  .obj [("id", .str s.id.key), ("ordinal", .ofNat s.ordinal.toNat), ("options", s.options.toJson)]

/-- The JSON form of an entry point. -/
def Entry.toJson (e : Entry) : Json :=
  .obj [("input", .str e.input), ("output", .str e.output)]

/-- The JSON form of a suppression policy. -/
def Suppression.toJson (p : Suppression) : Json :=
  .obj [("code", .str p.code), ("namespace", .str p.frameworkNamespace)]

/-- **The JSON form of a pipeline**; an absent entry and empty externals are left out. -/
def Pipeline.toJson (p : Pipeline) : Json :=
  .obj ([("target", .str p.target.name)] ++
    (match p.entry with
      | some e => [("entry", e.toJson)]
      | none => []) ++
    [("stages", .arr (p.stages.map Stage.toJson))] ++
    (if p.externals.isEmpty then [] else [("external_dependencies", Json.ofStrings p.externals.toList)]) ++
    [("diagnostics", p.diagnostics.toJson)])

/-- **The JSON form of a plan**; pipelines are keyed by target name, in target order. -/
def Plan.toJson (p : Plan) : Json :=
  .obj [("schema", .str p.schema), ("env", p.env.toJson), ("aliases", Alias.listToJson p.aliases),
    ("pipelines", .obj (p.pipelines.toList.map fun (t, q) => (t.name, q.toJson)))]

/-- Reads an environment. -/
def Env.ofJson? (j : Json) : Option Env := do
  let [mode, legacy, browser, typescript] ←
    Json.fields? ["mode", "legacy_build", "is_browser", "typescript"] j | none
  let mode ← Json.required? (fun v => (Json.variant? false v).bind Mode.ofName?) mode
  let legacy ← Json.required? Json.bool? legacy
  let browser ← Json.required? Json.bool? browser
  let typescript ← Json.withDefault? false Json.bool? typescript
  return { mode := mode, legacy := legacy, browser := browser, typescript := typescript }

/-- Reads an alias. -/
def Alias.ofJson? (j : Json) : Option Alias := do
  let [name, path] ← Json.fields? ["symbolic_name", "physical_path"] j | none
  return ⟨← Json.required? Json.string? name, ← Json.required? Json.string? path⟩

/-- Reads an entry point. -/
def Entry.ofJson? (j : Json) : Option Entry := do
  let [input, output] ← Json.fields? ["input", "output"] j | none
  return ⟨← Json.required? Json.string? input, ← Json.required? Json.string? output⟩

/-- Reads a suppression policy. -/
def Suppression.ofJson? (j : Json) : Option Suppression := do
  let [code, ns] ← Json.fields? ["code", "namespace"] j | none
  return ⟨← Json.required? Json.string? code, ← Json.required? Json.string? ns⟩

/-- The tag of a value written with a `type` member, and the value without it: from an
object the member is looked up (once only), from an array it is the first item. -/
def Json.tagged? : Json → Option (String × Json)
  | .obj fields true =>
    match fields.filter (fun p => p.1 == "type") with
    | [(_, tag)] => (Json.string? tag).map fun t => (t, .obj (fields.filter fun p => p.1 != "type"))
    | _ => none
  | .arr (tag :: rest) => (Json.string? tag).map fun t => (t, .arr rest)
  | _ => none

namespace StageOptions

/-- Reads the fields of the options of one stage from the buffered members. -/
def ofFields? (id : StageId) (body : Json) : Option StageOptions :=
  match id with
  | .aliasResolution => do
    let [entries, extensions] ← Json.fields? ["entries", "extensions"] body | none
    return .aliasResolution (← Json.required? (Json.list? Alias.ofJson?) entries)
      (← Json.required? (Json.list? Json.string?) extensions)
  | .envSubstitution => do
    let [replacements] ← Json.fields? ["replacements"] body | none
    return .envSubstitution (← Json.required? (Json.textMap? Json.string?) replacements)
  | .componentCompilation => do
    let [generate, dev, hydratable, emitCss, pre] ←
      Json.fields? ["generate", "dev", "hydratable", "emit_css", "preprocess_typescript"] body | none
    let generate ← Json.required? (fun v => (Json.variant? true v).bind fun
      | "dom" => some Codegen.dom
      | "ssr" => some Codegen.ssr
      | _ => none) generate
    return .componentCompilation generate (← Json.required? Json.bool? dev)
      (← Json.required? Json.bool? hydratable) (← Json.required? Json.bool? emitCss)
      (← Json.required? Json.bool? pre)
  | .moduleResolution => do
    let [browser, dedupe] ← Json.fields? ["browser", "dedupe"] body | none
    return .moduleResolution (← Json.required? Json.bool? browser)
      (← Json.optional? Json.string? dedupe)
  | .interopNormalization =>
    match body with
    | .obj _ _ => some .interopNormalization
    | .arr [] => some .interopNormalization
    | _ => none
  | .typedSource => do
    let [check] ← Json.fields? ["check"] body | none
    return .typedSource (← Json.required? Json.bool? check)
  | .legacyDownlevel => do
    let [extensions, helpers, exclude, browserslist, plugins] ←
      Json.fields? ["extensions", "runtime_helpers", "exclude", "browserslist", "plugins"] body
        | none
    return .legacyDownlevel (← Json.required? (Json.list? Json.string?) extensions)
      (← Json.required? Json.bool? helpers) (← Json.required? (Json.list? Json.string?) exclude)
      (← Json.required? Json.string? browserslist) (← Json.required? (Json.list? Json.string?) plugins)
  | .minification => do
    let [asModule] ← Json.fields? ["module"] body | none
    return .minification (← Json.required? Json.bool? asModule)

/-- **Reads stage options**: the `type` member names the stage, the other members are its
fields. -/
def ofJson? (j : Json) : Option StageOptions := do
  let (tag, body) ← Json.tagged? j
  let id ← StageId.ofKey? tag
  ofFields? id body

end StageOptions

/-- Reads a scheduled stage. The stage key and the options are read independently. -/
def Stage.ofJson? (j : Json) : Option Stage := do
  let [id, ordinal, options] ← Json.fields? ["id", "ordinal", "options"] j | none
  let id ← Json.required? (fun v => (Json.variant? false v).bind StageId.ofKey?) id
  let ordinal ← Json.required? Json.uint32? ordinal
  let options ← Json.required? StageOptions.ofJson? options
  return ⟨id, ordinal, options⟩

/-- Reads a pipeline. -/
def Pipeline.ofJson? (j : Json) : Option Pipeline := do
  let [target, entry, stages, externals, diagnostics] ←
    Json.fields? ["target", "entry", "stages", "external_dependencies", "diagnostics"] j | none
  let target ← Json.required? (fun v => (Json.variant? false v).bind Target.ofName?) target
  let entry ← Json.optional? Entry.ofJson? entry
  let stages ← Json.withDefault? [] (Json.list? Stage.ofJson?) stages
  let externals ← Json.withDefault? TextSet.empty Json.textSet? externals
  let diagnostics ← Json.required? Suppression.ofJson? diagnostics
  return { target := target, entry := entry, stages := stages, externals := externals,
           diagnostics := diagnostics }

/-- Reads the pipelines of a plan, keyed by target name; of two equal keys the later wins. -/
def Plan.pipelinesOfJson? : Json → Option (ByTarget Pipeline)
  | .obj fields true => do
    let pairs ← fields.mapM fun (k, v) => do
      let t ← Target.ofName? k
      let p ← Pipeline.ofJson? v
      return (t, p)
    return ByTarget.ofList pairs
  | _ => none

/-- **Reads a plan.** -/
def Plan.ofJson? (j : Json) : Option Plan := do
  let [schema, env, aliases, pipelines] ←
    Json.fields? ["schema", "env", "aliases", "pipelines"] j | none
  let schema ← Json.required? Json.string? schema
  let env ← Json.required? Env.ofJson? env
  let aliases ← Json.withDefault? [] (Json.list? Alias.ofJson?) aliases
  let pipelines ← Json.withDefault? {} Plan.pipelinesOfJson? pipelines
  return { schema := schema, env := env, aliases := aliases, pipelines := pipelines }

end Bundling
