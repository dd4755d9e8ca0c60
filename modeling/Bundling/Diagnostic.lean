import Bundling.Error
import Bundling.Regex
import Bundling.Text.Blank

/-!
# Diagnostic filtering

Bundlers warn about import cycles. Cycles inside the framework's own package are expected
and only add noise, so a filter drops the warnings of one code whose message names the
framework namespace as a whole path segment: preceded and followed by a separator, `/` or
`\`, on each side independently. The namespace is found with a library of regular
expressions, through the pattern of the quoted namespace between two separator classes.

## Main definitions

- `Diagnostic` — a code and a message
- `Suppression` — the code and namespace a filter drops
- `DiagnosticFilter.make` — a filter, refusing a blank namespace or a pattern the library
  refuses
- `DiagnosticFilter.suppresses` — whether a diagnostic is dropped
- `DiagnosticFilter.forward` — the diagnostics that are kept, in order
-/

namespace Bundling

/-- **A diagnostic** reported while building a target. -/
structure Diagnostic where
  code : String
  message : String
  deriving DecidableEq, Repr

/-- The code of import-cycle warnings. -/
def circularDependency : String := "CIRCULAR_DEPENDENCY"

/-- The default framework namespace. -/
def defaultNamespace : String := "@sapper"

/-- **What a target's reporter drops**: diagnostics of `code` inside `frameworkNamespace`. -/
structure Suppression where
  code : String
  frameworkNamespace : String
  deriving DecidableEq, Repr

/-- **A diagnostic filter**: the suppression it applies, whose namespace is not blank, and
the library's compiled pattern of that namespace. -/
structure DiagnosticFilter (rx : RegexLib) where
  policy : Suppression
  notBlank : Text.trim policy.frameworkNamespace ≠ ""
  pattern : rx.Regex
  compiled : rx.compile (rx.segmentPattern policy.frameworkNamespace) = .ok pattern

namespace DiagnosticFilter

variable {rx : RegexLib}

/-- **Making a filter**: a namespace that trims to nothing is refused, and so is one whose
segment pattern the library refuses, with the library's message. Code and namespace are kept
as given. -/
def make (rx : RegexLib) (code ns : String) : Except BuildError (DiagnosticFilter rx) :=
  if h : Text.trim ns = "" then .error .emptyNamespace
  else
    match hc : rx.compile (rx.segmentPattern ns) with
    | .error msg => .error (.namespacePattern msg)
    | .ok r => .ok ⟨⟨code, ns⟩, h, r, hc⟩

/-- The filter of a suppression policy. -/
def ofPolicy (rx : RegexLib) (p : Suppression) : Except BuildError (DiagnosticFilter rx) :=
  make rx p.code p.frameworkNamespace

/-- **Dropping a diagnostic**: its code is the filter's code and the filter's pattern matches
its message. -/
def suppresses (f : DiagnosticFilter rx) (d : Diagnostic) : Bool :=
  d.code == f.policy.code && rx.isMatch f.pattern d.message

/-- **Forwarding**: the diagnostics that are not dropped, in their order. -/
def forward (f : DiagnosticFilter rx) (ds : List Diagnostic) : List Diagnostic :=
  ds.filter fun d => !f.suppresses d

end DiagnosticFilter

end Bundling
