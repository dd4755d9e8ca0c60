/-!
# Text written without a terminal

Help texts are composed with styles — bold option names, underlined headings — written as
escape sequences. When the output is not a terminal, the sequences are removed as the text
is written, together with any control sequence the text itself contains. This module is
that removal: a parser of escape sequences in the manner of a video terminal, run over the
characters, that keeps the printable ones.

## Main definitions

- `Terminal.Mode` — where the parser stands within an escape sequence
- `Terminal.change` — the parser's step on one byte
- `Terminal.strip` — the characters of a text a terminal would print, sequences removed
- `Terminal.bold`, `Terminal.heading` — styled text, as escape sequences around it

## Design notes

The parser has the states of the usual terminal parser: plain text, after an escape, in a
control sequence (entry, parameters, intermediates, ignored rest), in a device control
string, in an operating system command, and in the strings that run to a string end.
A byte is printed when it is printable text (not delete), begins a multi-byte character,
or is white space that the parser executes.

Removal runs in two alternating phases. While skipping, bytes move the parser until one is
printable. From there a run of text is printed, judged as if from plain text, until a byte
that is not printable; the parser's state is carried over and only bytes that move it
(such as an escape) change it. So white space inside an unfinished sequence ends the
skipping, and a multi-byte character ends any sequence. A style sequence always returns
the parser to plain text, so styled pieces separate what comes before from what follows.
-/

namespace Bundling

namespace Terminal

/-- **The state of the parser** between bytes. -/
inductive Mode where
  | ground
  | escape
  | escapeIntermediate
  | csiEntry
  | csiParam
  | csiIntermediate
  | csiIgnore
  | dcsEntry
  | dcsParam
  | dcsIntermediate
  | dcsPassthrough
  | dcsIgnore
  | oscString
  | sosPmApcString
  deriving DecidableEq, Repr

/-- What a byte does, as far as printing goes: printed text, an executed control, the
start of a multi-byte character, or anything else. -/
inductive Effect where
  | print
  | execute
  | beginMultiByte
  | other
  deriving DecidableEq, Repr

/-- The C0 controls a state executes or ignores: all below space but cancel, substitute
and escape. -/
def isC0 (b : Nat) : Bool :=
  b ≤ 0x17 || b == 0x19 || (0x1C ≤ b && b ≤ 0x1F)

/-- The step of the parameter and intermediate bytes of a control sequence or device
control string: `entry` is whether no parameter byte was read yet, `param`, `inter` and
`ignore` the states to move to, `final` the state a final byte leads to. -/
def sequenceStep (entry : Bool) (stay param inter ignore final : Mode) (b : Nat) :
    Option Mode × Effect :=
  if 0x20 ≤ b && b ≤ 0x2F then (some inter, .other)
  else if (0x30 ≤ b && b ≤ 0x39) || b == 0x3A || b == 0x3B then
    (if entry then some param else some stay, .other)
  else if 0x3C ≤ b && b ≤ 0x3F then (if entry then some param else some ignore, .other)
  else if 0x40 ≤ b && b ≤ 0x7E then (some final, .other)
  else (none, .other)

/-- **The step of the parser on one byte**: the state it moves to, if any, and the byte's
effect. Cancel and substitute return to plain text from anywhere; escape starts a sequence
from anywhere. -/
def change (m : Mode) (b : Nat) : Option Mode × Effect :=
  if b == 0x18 || b == 0x1A then (some .ground, .execute)
  else if b == 0x1B then (some .escape, .other)
  else
    match m with
    | .ground =>
      if isC0 b then (none, .execute)
      else if 0x20 ≤ b && b ≤ 0x7F then (none, .print)
      else if (0x80 ≤ b && b ≤ 0x8F) || (0x91 ≤ b && b ≤ 0x9A) || b == 0x9C then (none, .execute)
      else if 0xC2 ≤ b && b ≤ 0xF4 then (none, .beginMultiByte)
      else (none, .other)
    | .escape =>
      if isC0 b then (none, .execute)
      else if 0x20 ≤ b && b ≤ 0x2F then (some .escapeIntermediate, .other)
      else if b == 0x50 then (some .dcsEntry, .other)
      else if b == 0x5B then (some .csiEntry, .other)
      else if b == 0x5D then (some .oscString, .other)
      else if b == 0x58 || b == 0x5E || b == 0x5F then (some .sosPmApcString, .other)
      else if 0x30 ≤ b && b ≤ 0x7E then (some .ground, .other)
      else (none, .other)
    | .escapeIntermediate =>
      if isC0 b then (none, .execute)
      else if 0x30 ≤ b && b ≤ 0x7E then (some .ground, .other)
      else (none, .other)
    | .csiEntry =>
      if isC0 b then (none, .execute)
      else sequenceStep true .csiParam .csiParam .csiIntermediate .csiIgnore .ground b
    | .csiParam =>
      if isC0 b then (none, .execute)
      else sequenceStep false .csiParam .csiParam .csiIntermediate .csiIgnore .ground b
    | .csiIntermediate =>
      if isC0 b then (none, .execute)
      else if 0x20 ≤ b && b ≤ 0x2F then (none, .other)
      else if 0x30 ≤ b && b ≤ 0x3F then (some .csiIgnore, .other)
      else if 0x40 ≤ b && b ≤ 0x7E then (some .ground, .other)
      else (none, .other)
    | .csiIgnore =>
      if isC0 b then (none, .execute)
      else if 0x40 ≤ b && b ≤ 0x7E then (some .ground, .other)
      else (none, .other)
    | .dcsEntry =>
      if isC0 b then (none, .other)
      else sequenceStep true .dcsParam .dcsParam .dcsIntermediate .dcsIgnore .dcsPassthrough b
    | .dcsParam =>
      if isC0 b then (none, .other)
      else sequenceStep false .dcsParam .dcsParam .dcsIntermediate .dcsIgnore .dcsPassthrough b
    | .dcsIntermediate =>
      if isC0 b then (none, .other)
      else if 0x20 ≤ b && b ≤ 0x2F then (none, .other)
      else if 0x30 ≤ b && b ≤ 0x3F then (some .dcsIgnore, .other)
      else if 0x40 ≤ b && b ≤ 0x7E then (some .dcsPassthrough, .other)
      else (none, .other)
    | .dcsPassthrough | .dcsIgnore | .sosPmApcString =>
      if b == 0x9C then (some .ground, .other) else (none, .other)
    | .oscString =>
      if b == 0x07 then (some .ground, .other) else (none, .other)

/-- ASCII white space: space, tab, line feed, form feed, carriage return. -/
def isWhite (b : Nat) : Bool :=
  b == 0x20 || b == 0x09 || b == 0x0A || b == 0x0C || b == 0x0D

/-- **Whether a byte is printed** given its effect: printable text but delete, the start
of a multi-byte character, or executed white space. -/
def printable (e : Effect) (b : Nat) : Bool :=
  match e with
  | .print => b != 0x7F
  | .beginMultiByte => true
  | .execute => isWhite b
  | .other => false

/-- The parser's state after bytes that print nothing. -/
def skipBytes (m : Mode) (bs : List Nat) : Mode :=
  bs.foldl (fun m b => ((change m b).1).getD m) m

/-- The bytes of a character's UTF-8 encoding. -/
def utf8Bytes (c : Char) : List Nat :=
  (String.singleton c).toUTF8.toList.map UInt8.toNat

/-- **The removal**, character by character: the parser's state, whether a run of text is
being printed, the characters still to read, and those printed so far (reversed). -/
def stripFrom (m : Mode) (printing : Bool) : List Char → List Char → List Char
  | [], acc => acc.reverse
  | c :: rest, acc =>
    let b := c.toNat
    if b ≥ 0x80 then
      if printing || m == .ground then stripFrom .ground true rest (c :: acc)
      else stripFrom (skipBytes m (utf8Bytes c)) false rest acc
    else if printing then
      let (next, e) := change .ground b
      let m' := next.getD m
      if printable e b then stripFrom m' true rest (c :: acc)
      else stripFrom (((change m' b).1).getD m') false rest acc
    else
      let (next, e) := change m b
      let m' := next.getD m
      if printable e b then stripFrom m' true rest (c :: acc)
      else stripFrom m' false rest acc

/-- **The text a terminal would print**: escape sequences and non-printing controls
removed. -/
def strip (s : String) : String :=
  String.ofList (stripFrom .ground false s.toList [])

/-- Bold text, as written with its style. -/
def bold (s : String) : String :=
  "\x1b[1m" ++ s ++ "\x1b[0m"

/-- A heading: bold and underlined, as written with its style. -/
def heading (s : String) : String :=
  "\x1b[1m\x1b[4m" ++ s ++ "\x1b[0m"

end Terminal

end Bundling
