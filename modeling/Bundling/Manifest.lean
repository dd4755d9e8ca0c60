import Bundling.Json.Decode
import Bundling.Json.Read

/-!
# Package manifests

The `dependencies` member of a `package.json` names the packages a project declares. Only
their names matter; each value must still be plain JSON, and is bounded in depth where the
rest of the manifest is not.

## Main definitions

- `Manifest.dependencies?` — the declared package names of a manifest text
-/

namespace Bundling

namespace Manifest

/-- Arrays and objects taken as data nest at most this deep, counting the record itself. -/
def nestingLimit : Nat := 127

/-- **The declared dependencies of a manifest text**: the keys of its `dependencies`
object, as a set; none when the member is absent. The text must be one JSON record whose
`dependencies`, when present, is an object of plain values; with the record and the object
itself, they nest at most `nestingLimit` deep. Other members are only read, never bounded. -/
def dependencies? (text : String) : Option TextSet := do
  let j ← Json.parse? text
  let [deps] ← Json.fields? ["dependencies"] j | none
  match deps with
  | none => some TextSet.empty
  | some (.obj fields true) =>
    if Json.allPlainMembers (nestingLimit - 2) fields then some (TextSet.ofList (fields.map Prod.fst))
    else none
  | some _ => none

end Manifest

end Bundling
