import Bundling.Stage.Id

/-!
# The stage registry

What the command line says of every stage — a title, a description and a summary of
options — as a registry with one entry per stage in scheduling order, and the lookup of an
entry by a key typed by a user.

## Main definitions

- `StageExplanation` — an entry of the registry
- `StageExplanation.registry` — the entries, in scheduling order
- `StageExplanation.lookup?` — the entry of a key, ignoring ASCII case
-/

namespace Bundling

/-- Lower-cases the ASCII letters of a text and keeps every other character. -/
def StageId.asciiLower (s : String) : String :=
  String.ofList (s.toList.map Char.toLower)

/-- **What the command line says of a stage**: its title, what it does to a module graph and
the options the planner hands it. -/
structure StageExplanation where
  id : StageId
  title : String
  description : String
  options : String

namespace StageExplanation

/-- **The stage registry**: one entry per stage, in scheduling order. -/
def registry : List StageExplanation := [
  { id := .aliasResolution
    title := "Alias Resolution"
    description := "\n".intercalate
      ["Rewrites import specifiers that start with a symbolic source-tree prefix",
       "(styles, components, pages, store, locales) to the physical directory behind it.",
       "",
       "A specifier matches an alias when it equals the alias name or continues with '/'.",
       "Candidates are tried in order: the path itself, the path with each configured",
       "extension, then <path>/index with each extension. The first existing file wins.",
       "When nothing matches, default module resolution takes over."]
    options := "entries (symbolic_name, physical_path), extensions" },
  { id := .envSubstitution
    title := "Environment Substitution"
    description := "\n".intercalate
      ["Replaces compile-time constants in source text before anything else reads it:",
       "",
       "    process.browser       -> true | false (the runtime the target executes in)",
       "    process.env.NODE_ENV  -> \"development\" | \"production\""]
    options := "replacements (expression -> literal)" },
  { id := .componentCompilation
    title := "Component Compilation"
    description := "\n".intercalate
      ["Compiles single-file UI components into JavaScript.",
       "",
       "The client build generates DOM code that hydrates server-rendered markup and emits",
       "component CSS. The server build generates SSR code. Both run a transpile-only",
       "TypeScript preprocessor. The service worker has no components."]
    options := "generate (dom | ssr), dev, hydratable, emit_css, preprocess_typescript" },
  { id := .moduleResolution
    title := "Module Resolution"
    description := "\n".intercalate
      ["Resolves bare specifiers against installed packages.",
       "",
       "The client prefers browser-specific package entry points. Client and server keep a",
       "single copy of the UI framework package (and its subpaths) even when nested",
       "dependencies ship their own."]
    options := "browser, dedupe" },
  { id := .interopNormalization
    title := "Interop Normalization"
    description := "\n".intercalate
      ["Converts CommonJS modules into ES modules so they can be bundled alongside",
       "native ES modules."]
    options := "(none)" },
  { id := .typedSource
    title := "Typed Source"
    description := "\n".intercalate
      ["Strips type annotations from .ts modules. Runs for client and server when",
       "TypeScript support is enabled, right after interop normalization."]
    options := "check" },
  { id := .legacyDownlevel
    title := "Legacy Downleveling"
    description := "\n".intercalate
      ["Transpiles the client bundle to an older language level for legacy browsers.",
       "",
       "Covers .js .mjs .html .svelte .ts, injects runtime helpers as ES modules, supports",
       "dynamic import syntax and skips the transpiler's own helper packages."]
    options := "extensions, runtime_helpers, exclude, browserslist, plugins" },
  { id := .minification
    title := "Minification"
    description := "\n".intercalate
      ["Shrinks production output. The client is minified as an ES module, the",
       "service worker as a classic script. Server output is never minified."]
    options := "module" }]

/-- **Looking up a stage by a user's key**: ASCII letters are lower-cased, the key is read as
a stage key, and the registry's entry of that stage is returned. -/
def lookup? (key : String) : Option StageExplanation := do
  let id ← StageId.parse? (StageId.asciiLower key)
  registry.find? fun e => e.id == id

/-- The keys of the registry's stages, in its order. -/
def keys : List String :=
  registry.map fun e => e.id.key

end StageExplanation

end Bundling
