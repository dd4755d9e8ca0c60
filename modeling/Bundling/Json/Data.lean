import Bundling.Json.Read

/-!
# Reading JSON text as data

A JSON text read as data in full: every string is decoded (an escape naming half a
surrogate pair alone is refused), every number must convert to a finite double, and arrays
and objects nest at most `dataDepthLimit` deep. A refused text gets a reason and a place: the
line, and the column counted in bytes of UTF-8, where the reader stopped.

## Main definitions

- `Json.Refusal`, `Json.ReadError` — why and where a text is refused
- `Json.readData` — a text as one JSON value read as data, or the reason it is not one
- `Json.Number.unsigned?`, `Json.Number.negativeInteger?` — which numbers read as integers

## Design notes

The reader works on characters but counts bytes, since places are reported in bytes. A
refusal is reported either where the reader stands, after the bytes it consumed, or one byte
past the character it looked at without consuming it; each step below says which. Where the
reader consumes a single byte of a character it does not expect, the place is one byte on,
even inside a character of several bytes.

Numbers are read as data the way `Number.readsAsDouble` describes. A number that is refused
there is refused after its last digit, or, when its exponent does not fit in 32 bits, after
the exponent digit that overflows it.
-/

namespace Bundling

namespace Json

/-- **Why a text is not one JSON value** read as data. -/
inductive Refusal where
  | eofList
  | eofObject
  | eofString
  | eofValue
  | expectedColon
  | expectedListCommaOrEnd
  | expectedObjectCommaOrEnd
  | expectedIdent
  | expectedValue
  | invalidEscape
  | invalidNumber
  | numberOutOfRange
  | controlCharacter
  | keyMustBeString
  | loneLeadingSurrogate
  | trailingComma
  | trailingCharacters
  | unexpectedEndOfHexEscape
  | recursionLimit
  deriving DecidableEq, Repr

/-- The description of a refusal. -/
def Refusal.text : Refusal → String
  | .eofList => "EOF while parsing a list"
  | .eofObject => "EOF while parsing an object"
  | .eofString => "EOF while parsing a string"
  | .eofValue => "EOF while parsing a value"
  | .expectedColon => "expected `:`"
  | .expectedListCommaOrEnd => "expected `,` or `]`"
  | .expectedObjectCommaOrEnd => "expected `,` or `\x7d`"
  | .expectedIdent => "expected ident"
  | .expectedValue => "expected value"
  | .invalidEscape => "invalid escape"
  | .invalidNumber => "invalid number"
  | .numberOutOfRange => "number out of range"
  | .controlCharacter => "control character (\\u0000-\\u001F) found while parsing a string"
  | .keyMustBeString => "key must be a string"
  | .loneLeadingSurrogate => "lone leading surrogate in hex escape"
  | .trailingComma => "trailing comma"
  | .trailingCharacters => "trailing characters"
  | .unexpectedEndOfHexEscape => "unexpected end of hex escape"
  | .recursionLimit => "recursion limit exceeded"

/-- **A refusal and its place**: the line, from one, and the column, the bytes of UTF-8
between the start of the line and the place. -/
structure ReadError where
  refusal : Refusal
  line : Nat
  column : Nat
  deriving DecidableEq, Repr

/-- The description of a refusal with its place. -/
def ReadError.message (e : ReadError) : String :=
  e.refusal.text ++ " at line " ++ toString e.line ++ " column " ++ toString e.column

/-- **The line and column of a byte offset** in a text: one line more for every line feed
before the offset, and the column counted from the byte after the last of them. -/
def lineColumn (offset : Nat) : List Char → Nat → Nat → Nat → Nat × Nat
  | [], _, line, start => (line, offset - start)
  | c :: rest, pos, line, start =>
    if pos ≥ offset then (line, offset - start)
    else if c == '\n' then lineColumn offset rest (pos + 1) (line + 1) (pos + 1)
    else lineColumn offset rest (pos + c.utf8Size) line start

/-- A refusal at a byte offset, before its place is turned into a line and a column. -/
abbrev Failure := Refusal × Nat

/-- Skips blanks, counting their bytes. -/
def skipBlanks : List Char → Nat → List Char × Nat
  | c :: rest, pos => if isJsonBlank c then skipBlanks rest (pos + 1) else (c :: rest, pos)
  | [], pos => ([], pos)

/-- The place one byte past the character the reader looks at, or the end of the text. -/
def peekPlace (cs : List Char) (pos : Nat) : Nat :=
  if cs.isEmpty then pos else pos + 1

/-- **Four hexadecimal digits** after `\u`: their value, the rest and its offset. Fewer than
four bytes left is the end of the text; four bytes that are not all hexadecimal digits are
an invalid escape, refused after them. -/
def hexQuad (cs : List Char) (pos : Nat) : Except Failure (Nat × List Char × Nat) :=
  match cs with
  | a :: b :: c :: d :: rest =>
    match hex4? a b c d with
    | some n => .ok (n, rest, pos + 4)
    | none => .error (.invalidEscape, pos + 4)
  | short =>
    let bytes := short.foldl (fun n c => n + c.utf8Size) 0
    if bytes ≥ 4 then .error (.invalidEscape, pos + 4) else .error (.eofString, pos + bytes)

/-- **A `\u` escape** after its `u`: one character, or a pair of surrogates written as two
escapes. A second half alone, or a first half not followed by a second, is refused. -/
def unicodeEscape (cs : List Char) (pos : Nat) : Except Failure (Char × List Char × Nat) := do
  let (n, rest, p) ← hexQuad cs pos
  if isLowSurrogate n then throw (.loneLeadingSurrogate, p)
  if !isHighSurrogate n then return (Char.ofNat n, rest, p)
  match rest with
  | [] => throw (.eofString, p)
  | '\\' :: rest' =>
    match rest' with
    | [] => throw (.eofString, p + 1)
    | 'u' :: rest'' =>
      let (m, rest3, p3) ← hexQuad rest'' (p + 2)
      if isLowSurrogate m then return (combineSurrogates n m, rest3, p3)
      else throw (.loneLeadingSurrogate, p3)
    | _ :: _ => throw (.unexpectedEndOfHexEscape, p + 2)
  | _ :: _ => throw (.unexpectedEndOfHexEscape, p + 1)

/-- The character of a one-letter escape of JSON. -/
def shortEscape? : Char → Option Char
  | '"' => some '"'
  | '\\' => some '\\'
  | '/' => some '/'
  | 'b' => some (Char.ofNat 8)
  | 'f' => some (Char.ofNat 12)
  | 'n' => some '\n'
  | 'r' => some '\r'
  | 't' => some '\t'
  | _ => none

/-- **The body of a string** after its opening quote: its text, the rest and its offset.
A control character is refused after it, an unknown escape after its letter, and a text
that ends first at its end. -/
def stringBody : Nat → List Char → Nat → List Char → Except Failure (String × List Char × Nat)
  | 0, _, pos, _ => .error (.eofString, pos)
  | fuel + 1, cs, pos, acc =>
    match cs with
    | [] => .error (.eofString, pos)
    | '"' :: rest => .ok (String.ofList acc.reverse, rest, pos + 1)
    | '\\' :: rest =>
      match rest with
      | [] => .error (.eofString, pos + 1)
      | e :: rest' =>
        match shortEscape? e with
        | some c => stringBody fuel rest' (pos + 2) (c :: acc)
        | none =>
          if e == 'u' then
            match unicodeEscape rest' (pos + 2) with
            | .ok (c, rest'', p) => stringBody fuel rest'' p (c :: acc)
            | .error f => .error f
          else .error (.invalidEscape, pos + 2)
    | c :: rest =>
      if c.toNat < 0x20 then .error (.controlCharacter, pos + 1)
      else stringBody fuel rest (pos + c.utf8Size) (c :: acc)

/-- **The exponent digit that overflows 32 bits**: the number of digits read when their
value first exceeds the largest 32-bit signed integer. -/
def overflowDigit (ds : List Char) : Option Nat :=
  let rec go : List Char → Nat → Nat → Option Nat
    | [], _, _ => none
    | d :: rest, value, count =>
      let value' := 10 * value + (d.toNat - '0'.toNat)
      if value' > int32Max then some (count + 1) else go rest value' (count + 1)
  go ds 0 0

/-- **A number read as data**, after its minus if it has one: the number, the rest and its
offset. Its integer part has no leading zero; a point and an exponent letter must be
followed by digits; and it must convert to a finite double. -/
def numberData (negative : Bool) (cs : List Char) (pos : Nat) :
    Except Failure (Number × List Char × Nat) := do
  let (whole, rest, p) ← match cs with
    | [] => throw (.eofValue, pos)
    | '0' :: rest =>
      match rest with
      | d :: _ => if d.isDigit then throw (.invalidNumber, pos + 2) else pure ("0", rest, pos + 1)
      | [] => pure ("0", rest, pos + 1)
    | c :: rest =>
      if c.isDigit then
        let (ds, r) := digitsPrefix (c :: rest)
        pure (String.ofList ds, r, pos + ds.length)
      else throw (.invalidNumber, pos + 1)
  let (fraction, rest, p) ← match rest with
    | '.' :: r =>
      let (ds, r') := digitsPrefix r
      if ds.isEmpty then throw (if r'.isEmpty then .eofValue else .invalidNumber, peekPlace r' (p + 1))
      else pure (String.ofList ds, r', p + 1 + ds.length)
    | _ => pure ("", rest, p)
  let (power, overflowAt, rest, p) ← match rest with
    | e :: r =>
      if e == 'e' || e == 'E' then
        let (neg, r, q) := match r with
          | '+' :: r' => (false, r', p + 2)
          | '-' :: r' => (true, r', p + 2)
          | _ => (false, r, p + 1)
        match r with
        | [] => throw (.eofValue, q)
        | d :: _ =>
          if !d.isDigit then throw (.invalidNumber, q + 1)
          else
            let (ds, r') := digitsPrefix r
            let v : Int := digitValue ds
            pure (some (if neg then -v else v), (overflowDigit ds).map (q + ·), r', q + ds.length)
      else pure (none, none, rest, p)
    | [] => pure (none, none, rest, p)
  let n : Number := ⟨negative, whole, fraction, power⟩
  if n.readsAsDouble then pure (n, rest, p)
  else throw (.numberOutOfRange, overflowAt.getD p)

/-- **An exact word** after its first letter, such as `ull` of `null`: the rest and its
offset. A wrong byte is refused after it. -/
def wordData (word : List Char) (cs : List Char) (pos : Nat) : Except Failure (List Char × Nat) :=
  match word, cs with
  | [], _ => .ok (cs, pos)
  | _ :: _, [] => .error (.eofValue, pos)
  | w :: ws, c :: rest => if c == w then wordData ws rest (pos + 1) else .error (.expectedIdent, pos + 1)

/-- Arrays and objects read as data nest at most this deep, plus one. -/
def dataDepthLimit : Nat := 128

mutual

/-- **A value read as data**, after blanks: the value, the rest and its offset. `room`
counts the arrays and objects that may still open, plus one. -/
def dataValue : Nat → Nat → List Char → Nat → Except Failure (Json × List Char × Nat)
  | 0, _, _, pos => .error (.eofValue, pos)
  | fuel + 1, room, cs, pos =>
    let (cs, pos) := skipBlanks cs pos
    match cs with
    | [] => .error (.eofValue, pos)
    | 'n' :: rest => (wordData "ull".toList rest (pos + 1)).map fun (r, p) => (.null, r, p)
    | 't' :: rest => (wordData "rue".toList rest (pos + 1)).map fun (r, p) => (.bool true, r, p)
    | 'f' :: rest => (wordData "alse".toList rest (pos + 1)).map fun (r, p) => (.bool false, r, p)
    | '-' :: rest => (numberData true rest (pos + 1)).map fun (n, r, p) => (.num n, r, p)
    | '"' :: rest => (stringBody (rest.length + 1) rest (pos + 1) []).map fun (s, r, p) => (.str s, r, p)
    | '[' :: rest =>
      if room ≤ 1 then .error (.recursionLimit, pos + 1)
      else (dataItems fuel (room - 1) true rest (pos + 1) []).map fun (xs, r, p) => (.arr xs, r, p)
    | '{' :: rest =>
      if room ≤ 1 then .error (.recursionLimit, pos + 1)
      else (dataMembers fuel (room - 1) true rest (pos + 1) []).map fun (fs, r, p) => (.obj fs, r, p)
    | c :: rest =>
      if c.isDigit then (numberData false (c :: rest) pos).map fun (n, r, p) => (.num n, r, p)
      else .error (.expectedValue, pos + 1)

/-- **The items of an array** after its opening bracket or an item: a comma before every
item but the first, and the closing bracket; a comma before the bracket is refused. -/
def dataItems : Nat → Nat → Bool → List Char → Nat → List Json →
    Except Failure (List Json × List Char × Nat)
  | 0, _, _, _, pos, _ => .error (.eofList, pos)
  | fuel + 1, room, first, cs, pos, acc =>
    let (cs, pos) := skipBlanks cs pos
    match cs with
    | [] => .error (.eofList, pos)
    | ']' :: rest => .ok (acc.reverse, rest, pos + 1)
    | c :: rest =>
      let start : Except Failure (List Char × Nat) :=
        if first then .ok (c :: rest, pos)
        else if c == ',' then
          let (cs', pos') := skipBlanks rest (pos + 1)
          match cs' with
          | [] => .error (.eofValue, pos')
          | ']' :: _ => .error (.trailingComma, pos' + 1)
          | _ => .ok (cs', pos')
        else .error (.expectedListCommaOrEnd, pos + 1)
      match start with
      | .error f => .error f
      | .ok (cs', pos') =>
        match dataValue fuel room cs' pos' with
        | .ok (v, r, p) => dataItems fuel room false r p (v :: acc)
        | .error f => .error f

/-- **The members of an object** after its opening brace or a member: a comma before every
member but the first, a string key, a colon and a value, and the closing brace; a comma
before the brace is refused. -/
def dataMembers : Nat → Nat → Bool → List Char → Nat → List (String × Json) →
    Except Failure (List (String × Json) × List Char × Nat)
  | 0, _, _, _, pos, _ => .error (.eofObject, pos)
  | fuel + 1, room, first, cs, pos, acc =>
    let (cs, pos) := skipBlanks cs pos
    match cs with
    | [] => .error (.eofObject, pos)
    | '}' :: rest => .ok (acc.reverse, rest, pos + 1)
    | c :: rest =>
      let start : Except Failure (List Char × Nat) :=
        if c == ',' && !first then .ok (skipBlanks rest (pos + 1))
        else if first then .ok (c :: rest, pos)
        else .error (.expectedObjectCommaOrEnd, pos + 1)
      match start with
      | .error f => .error f
      | .ok (kcs, kpos) =>
        match kcs with
        | '"' :: krest =>
          match stringBody (krest.length + 1) krest (kpos + 1) [] with
          | .error f => .error f
          | .ok (k, r, p) =>
            let (r, p) := skipBlanks r p
            match r with
            | ':' :: r' =>
              match dataValue fuel room r' (p + 1) with
              | .ok (v, r'', p'') => dataMembers fuel room false r'' p'' ((k, v) :: acc)
              | .error f => .error f
            | [] => .error (.eofObject, p)
            | _ :: _ => .error (.expectedColon, p + 1)
        | '}' :: _ => .error (.trailingComma, kpos + 1)
        | [] => .error (.eofValue, kpos)
        | _ :: _ => .error (.keyMustBeString, kpos + 1)

end

/-- **Reading a text as one JSON value as data**: blanks may surround the value, nothing
else; a refusal comes with its line and column. -/
def readData (text : String) : Except ReadError Json :=
  let cs := text.toList
  let result : Except Failure Json := do
    let (v, rest, pos) ← dataValue (2 * cs.length + 2) dataDepthLimit cs 0
    let (rest, pos) := skipBlanks rest pos
    if rest.isEmpty then pure v else throw (.trailingCharacters, pos + 1)
  match result with
  | .ok v => .ok v
  | .error (r, offset) =>
    let (line, column) := lineColumn offset cs 0 1 0
    .error ⟨r, line, column⟩

/-- **A number read as an unsigned integer**: written as an integer without a minus, within
64 bits. -/
def Number.unsigned? (n : Number) : Option Nat :=
  if n.integral && !n.negative && n.mantissa ≤ uint64Max then some n.mantissa else none

/-- **A number read as a negative integer**: written as an integer with a minus, from `-1`
down to `-2 ^ 63`. Any other number read as data is a double, `-0` among them. -/
def Number.negativeInteger? (n : Number) : Option Int :=
  if n.integral && n.negative && 1 ≤ n.mantissa && n.mantissa ≤ Nat.pow 2 63 then
    some (-(n.mantissa : Int))
  else none

end Json

end Bundling
