import Bundling.Text.Terminal

/-!
# Command-line grammar

The grammar of a command's arguments — its options, its positional arguments, whether it
takes `-h`/`--help` — and the help text it prints, and the reading of its arguments.

## Main definitions

- `OptionSpec`, `PositionalSpec`, `CommandSpec` — what a command accepts
- `CommandSpec.help` — the help text, given the environment's values for options that
  fall back to a variable
- `Matches`, `Stop` — what the arguments set, or why reading stopped
- `CommandSpec.read` — reading the arguments of a command

## Design notes

Arguments are read from left to right, and the first request for help or the first error
ends the reading. An option takes its value after `=` or from the next argument, which must
not look like an option; an option given twice is an error unless it may repeat; a switch
takes no value. After `--` every argument is positional. A missing value or positional
argument is reported once all arguments are read.

Help texts put each option's description in a column two spaces right of the longest
option in its section, followed by `[env: NAME=value]`, `[default: value]` and
`[possible values: ...]` where these apply; a description's later lines are indented to
its column. Help is composed with styles (bold names, underlined headings) and printed
through `Terminal.strip`, so the styles, and any escape sequence an environment value
brings, are removed the way a terminal parser reads them.
-/

namespace Bundling

namespace Cli

/-- **An option**: `--long`, with a value named `valueName` unless it is a switch. -/
structure OptionSpec where
  long : String
  valueName : Option String := none
  help : String
  repeats : Bool := false
  defaultValue : Option String := none
  env : Option String := none
  choices : List String := []

/-- **A positional argument**: required and single, or optional and repeatable. -/
structure PositionalSpec where
  valueName : String
  help : String
  required : Bool := true

/-- **A command**: its name, its one-line description, its options and positional
arguments, and whether `-h`/`--help` prints its help. -/
structure CommandSpec where
  name : String
  about : String
  options : List OptionSpec := []
  positionals : List PositionalSpec := []
  helpFlag : Bool := true

/-- `n` spaces. -/
def spaces (n : Nat) : String := String.ofList (List.replicate n ' ')

/-- Indents every line of a text after the first. -/
def indentLines (indent s : String) : String :=
  s.replace "\n" ("\n" ++ indent)

/-- **A row of help**: its first cell as shown and as written with its styles, and its
description. -/
structure Row where
  shown : String
  written : String
  description : String

/-- Rows of two columns, the second starting two spaces right of the widest first cell;
later lines of a description start in the second column too. -/
def columns (rows : List Row) : String :=
  let width := rows.foldl (fun w r => max w r.shown.length) 0
  let indent := spaces (width + 4)
  String.join (rows.map fun r =>
    "  " ++ r.written ++ spaces (width - r.shown.length) ++ "  " ++
      indentLines indent r.description ++ "\n")

namespace OptionSpec

/-- The value an option takes, as written after its name. -/
def valueText (o : OptionSpec) : String :=
  match o.valueName with
  | some v => " <" ++ v ++ ">"
  | none => ""

/-- How an option is shown in help: `--long <VALUE>` after room for a short form. -/
def usageText (o : OptionSpec) : String :=
  "    --" ++ o.long ++ o.valueText

/-- The same, written with the name in bold. -/
def styledUsage (o : OptionSpec) : String :=
  "    " ++ Terminal.bold ("--" ++ o.long) ++ o.valueText

/-- The notes after an option's description. -/
def notes (o : OptionSpec) (envValue : String → Option String) : List String :=
  (match o.env with
    | some name => ["[env: " ++ name ++ "=" ++ (envValue name).getD "" ++ "]"]
    | none => []) ++
  (match o.valueName, o.defaultValue with
    | some _, some d => ["[default: " ++ d ++ "]"]
    | _, _ => []) ++
  (if o.choices.isEmpty then [] else ["[possible values: " ++ ", ".intercalate o.choices ++ "]"])

/-- The description of an option with its notes. -/
def describe (o : OptionSpec) (envValue : String → Option String) : String :=
  " ".intercalate (o.help :: o.notes envValue)

end OptionSpec

/-- How a positional argument is written: `<NAME>`, or `[NAME]...` when optional. -/
def PositionalSpec.usageText (p : PositionalSpec) : String :=
  if p.required then "<" ++ p.valueName ++ ">" else "[" ++ p.valueName ++ "]..."

namespace CommandSpec

/-- The usage line of a command run as `program name`, written with its styles. -/
def usage (c : CommandSpec) (program : String) : String :=
  Terminal.heading "Usage:" ++ " " ++ Terminal.bold (program ++ " " ++ c.name) ++
    (if c.options.isEmpty then "" else " [OPTIONS]") ++
    String.join (c.positionals.map fun p => " " ++ p.usageText)

/-- The row of the help flag. -/
def helpRow : Row :=
  ⟨"-h, --help", Terminal.bold "-h" ++ ", " ++ Terminal.bold "--help", "Print help"⟩

/-- **The help text of a command**, as printed: composed with styles, then stripped of
them. -/
def help (c : CommandSpec) (program : String) (envValue : String → Option String) : String :=
  let arguments :=
    if c.positionals.isEmpty then ""
    else "\n" ++ Terminal.heading "Arguments:" ++ "\n" ++
      columns (c.positionals.map fun p => ⟨p.usageText, p.usageText, p.help⟩)
  let optionRows := c.options.map (fun o => ⟨o.usageText, o.styledUsage, o.describe envValue⟩) ++
    (if c.helpFlag then [helpRow] else [])
  let options :=
    if optionRows.isEmpty then "" else "\n" ++ Terminal.heading "Options:" ++ "\n" ++ columns optionRows
  Terminal.strip (c.about ++ "\n\n" ++ c.usage program ++ "\n" ++ arguments ++ options)

end CommandSpec

/-- **What the arguments of a command set**: the values of each option in order, the
switches given, and the positional arguments. -/
structure Matches where
  values : List (String × String) := []
  switches : List String := []
  positionals : List String := []

namespace Matches

/-- The values given to an option, in order. -/
def valuesOf (m : Matches) (long : String) : List String :=
  (m.values.filter fun v => v.1 == long).map Prod.snd

/-- The last value given to an option. -/
def value? (m : Matches) (long : String) : Option String :=
  (m.valuesOf long).getLast?

/-- Whether a switch was given. -/
def has (m : Matches) (long : String) : Bool :=
  m.switches.contains long

end Matches

/-- **Why reading arguments stopped early**: help was asked for, or the arguments are
wrong. -/
inductive Stop where
  | help
  | error (message : String)

/-- Whether an argument looks like an option: `--name`, or `-x` other than `-` alone. -/
def looksLikeOption (t : String) : Bool :=
  t.startsWith "--" || (t.startsWith "-" && t != "-")

namespace CommandSpec

/-- The option of a long name. -/
def option? (c : CommandSpec) (long : String) : Option OptionSpec :=
  c.options.find? fun o => o.long == long

/-- Whether a positional argument may be added after `n` others. -/
def acceptsPositional (c : CommandSpec) (n : Nat) : Bool :=
  n < c.positionals.length || (c.positionals.getLast?.map (!·.required)).getD false

/-- Adds a value to an option, checking its choices and that it is not given twice. -/
def addValue (o : OptionSpec) (v : String) (m : Matches) : Except Stop Matches :=
  if !o.choices.isEmpty && !o.choices.contains v then
    .error (.error ("invalid value '" ++ v ++ "' for '--" ++ o.long ++ "'"))
  else if !o.repeats && (m.valuesOf o.long).length > 0 then
    .error (.error ("the argument '--" ++ o.long ++ "' cannot be used multiple times"))
  else .ok { m with values := m.values ++ [(o.long, v)] }

/-- A long option `--name` or `--name=value`. -/
def readLong (c : CommandSpec) (name : String) (attached : Option String) (m : Matches) :
    Except Stop (Matches × Option OptionSpec) :=
  if c.helpFlag && name == "help" then
    match attached with
    | some _ => .error (.error "unexpected value for '--help'")
    | none => .error .help
  else
    match c.option? name with
    | none => .error (.error ("unexpected argument '--" ++ name ++ "'"))
    | some o =>
      match o.valueName, attached with
      | none, some _ => .error (.error ("unexpected value for '--" ++ name ++ "'"))
      | none, none =>
        if m.has name then .error (.error ("the argument '--" ++ name ++ "' cannot be used multiple times"))
        else .ok ({ m with switches := m.switches ++ [name] }, none)
      | some _, some v => (addValue o v m).map (·, none)
      | some _, none => .ok (m, some o)

/-- **Reading the arguments of a command**, with the option still waiting for its value
and whether `--` was passed. -/
def readFrom (c : CommandSpec) : List String → Matches → Option OptionSpec → Bool → Except Stop Matches
  | [], m, pending, _ =>
    match pending with
    | some o => .error (.error ("a value is required for '--" ++ o.long ++ "'"))
    | none =>
      if m.positionals.length < (c.positionals.filter (·.required)).length then
        .error (.error "required arguments were not provided")
      else .ok m
  | t :: rest, m, some o, trailing =>
    if looksLikeOption t then .error (.error ("a value is required for '--" ++ o.long ++ "'"))
    else
      match addValue o t m with
      | .ok m' => c.readFrom rest m' none trailing
      | .error e => .error e
  | t :: rest, m, none, true =>
    if c.acceptsPositional m.positionals.length then
      c.readFrom rest { m with positionals := m.positionals ++ [t] } none true
    else .error (.error ("unexpected argument '" ++ t ++ "'"))
  | t :: rest, m, none, false =>
    if t == "--" then c.readFrom rest m none true
    else if t.startsWith "--" then
      let body := (t.drop 2).toString
      let (name, attached) := match body.splitOn "=" with
        | [n] => (n, none)
        | n :: vs => (n, some ("=".intercalate vs))
        | [] => (body, none)
      match c.readLong name attached m with
      | .ok (m', pending) => c.readFrom rest m' pending false
      | .error e => .error e
    else if looksLikeOption t then
      if c.helpFlag && (t.drop 1).startsWith "h" then .error .help
      else .error (.error ("unexpected argument '" ++ t ++ "'"))
    else if c.acceptsPositional m.positionals.length then
      c.readFrom rest { m with positionals := m.positionals ++ [t] } none false
    else .error (.error ("unexpected argument '" ++ t ++ "'"))

/-- **The arguments of a command**, read from left to right. -/
def read (c : CommandSpec) (args : List String) : Except Stop Matches :=
  c.readFrom args {} none false

end CommandSpec

end Cli

end Bundling
