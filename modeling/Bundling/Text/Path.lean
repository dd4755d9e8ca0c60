/-!
# Slash-separated paths

Paths are texts whose parts are separated by `/`, as on POSIX systems. Joining follows
the rule of path buffers: an absolute right side replaces the left one, otherwise a
separator is put between the two unless the left side is empty or already ends in one.
Nothing is normalised: `.`, `..` and doubled separators stay as written.

## Main definitions

- `Path.isAbsolute` — the path starts at the root
- `Path.join` — append a path to a directory
- `Path.segments` — the texts between separators
- `Path.leavesBase` — the path starts at the root or climbs with `..`
- `Path.parent?` — the directory part of a path
-/

namespace Bundling

namespace Path

/-- A path is absolute when it starts with a separator. -/
def isAbsolute (p : String) : Bool :=
  p.toList.head? == some '/'

/-- **Joining**: `rel` read from the directory `base`. An absolute `rel` stands for itself;
otherwise a separator goes between the two texts unless `base` is empty or ends in one. -/
def join (base rel : String) : String :=
  if isAbsolute rel then rel
  else if base.toList.getLast? == some '/' || base.isEmpty then base ++ rel
  else base ++ "/" ++ rel

/-- The texts between separators, empty ones included. -/
def segments (p : String) : List String :=
  (p.toList.splitOn '/').map String.ofList

/-- **Leaving the base**: a path that starts at the root or has a `..` part does not stay
inside the directory it is read from. Parts equal to `.` and empty parts stay inside. -/
def leavesBase (p : String) : Bool :=
  isAbsolute p || (segments p).contains ".."

/-- Drops trailing separators and trailing `.` parts, keeping a leading root. -/
def trimTrailing (cs : List Char) (fuel : Nat) : List Char :=
  match fuel with
  | 0 => cs
  | fuel + 1 =>
    match cs.reverse with
    | '/' :: rest@(_ :: _) => trimTrailing rest.reverse fuel
    | '.' :: '/' :: rest => trimTrailing ('/' :: rest).reverse fuel
    | _ => cs

/-- **The directory part** of a path: what stands before its last part, without trailing
separators or `.` parts. The root and the empty path have none; a single relative part
has the empty path as its directory. -/
def parent? (p : String) : Option String :=
  let body := trimTrailing p.toList (p.length + 1)
  match body with
  | [] => none
  | ['/'] => none
  | _ =>
    let dir := (body.reverse.dropWhile (· != '/')).reverse
    match dir with
    | [] => some ""
    | _ => some (String.ofList (trimTrailing dir (dir.length + 1)))

theorem join_absolute (base rel : String) (h : isAbsolute rel = true) : join base rel = rel := by
  simp [join, h]

example : join "" "src" = "src" := by decide
example : join "/app/" "src" = "/app/src" := by decide
example : join "out" "" = "out/" := by decide
example : join "a" "/b" = "/b" := by decide

end Path

end Bundling
