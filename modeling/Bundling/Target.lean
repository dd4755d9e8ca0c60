import Bundling.Error

/-!
# Targets

The three independently configured outputs of a build: the client bundle, the server
bundle and the service worker. Their order — client, server, serviceworker — is the order
in which plans list them and in which they are executed.

## Main definitions

- `Target` — the three outputs
- `Target.parse` — exact recognition of a target name
- `Target.runsInBrowser` — every output but the server's runs in a browser
-/

namespace Bundling

/-- **A build output.** Declared in canonical order. -/
inductive Target where
  | client
  | server
  | serviceworker
  deriving DecidableEq, Repr

namespace Target

/-- All targets in canonical order. -/
def all : List Target := [client, server, serviceworker]

/-- The name of a target as written in plans and on the command line. -/
def name : Target → String
  | client => "client"
  | server => "server"
  | serviceworker => "serviceworker"

/-- Position of a target in the canonical order. -/
def rank : Target → Nat
  | client => 0
  | server => 1
  | serviceworker => 2

/-- The target of exactly this name. -/
def ofName? (s : String) : Option Target :=
  all.find? (fun t => t.name == s)

/-- **Recognising a target name**: the name must be exactly one of the three, with no
trimming and no change of case. -/
def parse (s : String) : Except BuildError Target :=
  match ofName? s with
  | some t => .ok t
  | none => .error (.unknownTarget s)

/-- Whether the output executes in a browser runtime: all but the server. -/
def runsInBrowser : Target → Bool
  | server => false
  | _ => true

theorem ofName?_name (t : Target) : ofName? t.name = some t := by
  cases t <;> rfl

theorem parse_name (t : Target) : parse t.name = .ok t := by
  cases t <;> rfl

theorem name_injective {a b : Target} (h : a.name = b.name) : a = b := by
  cases a <;> cases b <;> first | rfl | exact absurd h (by decide)

end Target

/-- **A value per target**, each possibly absent: a map keyed by targets, listed in target
order. -/
structure ByTarget (α : Type) where
  client : Option α := none
  server : Option α := none
  serviceworker : Option α := none
  deriving DecidableEq, Repr

namespace ByTarget

variable {α : Type}

/-- No value for any target. -/
def empty : ByTarget α := {}

/-- The value of a target. -/
def get (m : ByTarget α) : Target → Option α
  | .client => m.client
  | .server => m.server
  | .serviceworker => m.serviceworker

/-- Sets the value of a target, replacing an earlier one. -/
def set (m : ByTarget α) (t : Target) (v : α) : ByTarget α :=
  match t with
  | .client => { m with client := some v }
  | .server => { m with server := some v }
  | .serviceworker => { m with serviceworker := some v }

/-- The targets with a value, and their values, in target order. -/
def toList (m : ByTarget α) : List (Target × α) :=
  Target.all.filterMap fun t => (m.get t).map fun v => (t, v)

/-- The values in target order. -/
def values (m : ByTarget α) : List α :=
  m.toList.map Prod.snd

/-- The number of targets with a value. -/
def size (m : ByTarget α) : Nat :=
  m.toList.length

/-- The map of a list of pairs; of two pairs for one target the later wins. -/
def ofList (l : List (Target × α)) : ByTarget α :=
  l.foldl (fun m p => m.set p.1 p.2) empty

@[simp] theorem get_set_self (m : ByTarget α) (t : Target) (v : α) : (m.set t v).get t = some v := by
  cases t <;> rfl

theorem get_set_ne (m : ByTarget α) {t u : Target} (v : α) (h : u ≠ t) :
    (m.set t v).get u = m.get u := by
  cases t <;> cases u <;> first | rfl | exact absurd rfl h

@[simp] theorem get_empty (t : Target) : (empty : ByTarget α).get t = none := by
  cases t <;> rfl

/-- **Listing a map and reading the list back** gives the map. -/
theorem ofList_toList (m : ByTarget α) : ofList m.toList = m := by
  obtain ⟨client, server, serviceworker⟩ := m
  cases client <;> cases server <;> cases serviceworker <;> rfl

end ByTarget

end Bundling
