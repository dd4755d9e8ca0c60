import Bundling.Target
import Bundling.Text.Blank

/-!
# Build environment

The flags that shape a build: the build mode, whether a legacy build is wanted, whether
the code runs in a browser, and whether sources are typed. A value is created once per
invocation; a target sees it with the browser flag set by the target's runtime.

## Main definitions

- `Mode` — development or production
- `Env` — the four flags
- `Env.ofInputs` — read the flags from raw inputs, trimming the mode
- `Env.forTarget` — the flags as one target sees them
-/

namespace Bundling

/-- **Build mode.** -/
inductive Mode where
  | development
  | production
  deriving DecidableEq, Repr

namespace Mode

/-- The name of a mode. -/
def name : Mode → String
  | development => "development"
  | production => "production"

/-- The mode of exactly this name. -/
def ofName? (s : String) : Option Mode :=
  if s == "development" then some development
  else if s == "production" then some production
  else none

/-- **Recognising a mode**: exactly `development` or `production`, nothing trimmed. -/
def parse (s : String) : Except BuildError Mode :=
  match ofName? s with
  | some m => .ok m
  | none => .error (.unknownMode s)

theorem ofName?_name (m : Mode) : ofName? m.name = some m := by
  cases m <;> rfl

theorem parse_name (m : Mode) : parse m.name = .ok m := by
  cases m <;> rfl

end Mode

/-- **The environment of a build.** -/
structure Env where
  mode : Mode
  legacy : Bool
  browser : Bool
  typescript : Bool := false
  deriving DecidableEq, Repr

namespace Env

/-- **Reading the environment** from raw inputs: the mode text is trimmed of blank
characters before it is recognised; typed sources start switched off. -/
def ofInputs (mode : String) (legacy browser : Bool) : Except BuildError Env := do
  let m ← Mode.parse (Text.trim mode)
  return { mode := m, legacy := legacy, browser := browser }

/-- The same environment with typed sources switched on or off. -/
def withTypescript (e : Env) (typescript : Bool) : Env :=
  { e with typescript := typescript }

/-- **The environment as a target sees it**: the browser flag follows the target's runtime,
all other flags are kept. -/
def forTarget (e : Env) (t : Target) : Env :=
  { e with browser := t.runsInBrowser }

/-- Whether the build is a development build. -/
def isDev (e : Env) : Bool :=
  e.mode == .development

@[simp] theorem forTarget_mode (e : Env) (t : Target) : (e.forTarget t).mode = e.mode := rfl

@[simp] theorem forTarget_legacy (e : Env) (t : Target) : (e.forTarget t).legacy = e.legacy := rfl

@[simp] theorem forTarget_typescript (e : Env) (t : Target) :
    (e.forTarget t).typescript = e.typescript := rfl

@[simp] theorem forTarget_browser (e : Env) (t : Target) :
    (e.forTarget t).browser = t.runsInBrowser := rfl

end Env

end Bundling
