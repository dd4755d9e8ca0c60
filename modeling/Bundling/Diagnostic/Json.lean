import Bundling.Diagnostic
import Bundling.Json.Decode
import Bundling.Json.Read

/-!
# Diagnostics as JSON lines

A diagnostic is written as a JSON record with a `code` and a `message`; a stream of
diagnostics has one record per line.

## Main definitions

- `Diagnostic.toJson` — the record of a diagnostic
- `Diagnostic.ofJson?` — a diagnostic from a record
- `Diagnostic.parse?` — a diagnostic from a line of text
-/

namespace Bundling

namespace Diagnostic

/-- The record of a diagnostic: code, then message. -/
def toJson (d : Diagnostic) : Json :=
  .obj [("code", .str d.code), ("message", .str d.message)]

/-- Reads a diagnostic from a record. -/
def ofJson? (j : Json) : Option Diagnostic := do
  let [code, message] ← Json.fields? ["code", "message"] j | none
  return ⟨← Json.required? Json.string? code, ← Json.required? Json.string? message⟩

/-- **Reads a diagnostic from a line** holding one JSON record. -/
def parse? (line : String) : Option Diagnostic :=
  (Json.parse? line).bind ofJson?

end Diagnostic

end Bundling
