/-!
# Build errors

The ways a build invocation can be refused before anything is planned. Each error is a
cause; its text and its short token are computed from the cause in one place.

## Main definitions

- `BuildError` — the causes
- `BuildError.message` — the text shown to users
- `BuildError.token` — the machine-readable kind
-/

namespace Bundling

/-- **Why a build is refused.** The first five causes are configuration errors. -/
inductive BuildError where
  /-- The build mode is neither `development` nor `production`; carries the trimmed text. -/
  | unknownMode (text : String)
  /-- No build mode was given at all. -/
  | missingMode
  /-- An alias has an empty symbolic name. -/
  | emptyAliasName
  /-- The framework namespace of the diagnostic filter is blank. -/
  | emptyNamespace
  /-- The library of regular expressions refused the pattern of the framework namespace;
  carries the library's message. -/
  | namespacePattern (detail : String)
  /-- Two aliases share a symbolic name. -/
  | duplicateAlias (name : String)
  /-- A target name outside client, server and serviceworker. -/
  | unknownTarget (name : String)
  deriving DecidableEq, Repr

namespace BuildError

/-- The detail of a configuration error, without its common lead-in. -/
def configurationDetail : BuildError → Option String
  | unknownMode text =>
    some ("unrecognized mode '" ++ text ++ "' (expected 'development' or 'production')")
  | missingMode => some "build mode is required (pass --mode or set NODE_ENV)"
  | emptyAliasName => some "alias symbolic name must not be empty"
  | emptyNamespace => some "diagnostic framework namespace must not be empty"
  | namespacePattern detail => some ("framework namespace pattern: " ++ detail)
  | _ => none

/-- **The text of an error.** Configuration errors share the lead-in `configuration error: `;
names are quoted with backticks. -/
def message (e : BuildError) : String :=
  match e, e.configurationDetail with
  | _, some detail => "configuration error: " ++ detail
  | duplicateAlias name, none => "duplicate alias `" ++ name ++ "`"
  | unknownTarget name, none =>
    "unknown target `" ++ name ++ "` (expected one of: client, server, serviceworker)"
  | _, none => ""

/-- The kind of an error: `configuration`, `duplicate_alias` or `unknown_target`. -/
def token : BuildError → String
  | duplicateAlias _ => "duplicate_alias"
  | unknownTarget _ => "unknown_target"
  | _ => "configuration"

example : (duplicateAlias "store").message = "duplicate alias `store`" := by decide
example : emptyNamespace.message =
    "configuration error: diagnostic framework namespace must not be empty" := by decide

end BuildError

end Bundling
