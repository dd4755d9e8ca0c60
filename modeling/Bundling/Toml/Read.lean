import Bundling.Binary64
import Bundling.Toml.Value

/-!
# Reading TOML text

The reader of TOML 1.1 documents. A line holds a key with its value, a table header
`[a.b]`, an array-of-tables header `[[a.b]]`, or nothing, and may end in a comment. Keys are
bare (letters, digits, `_`, `-`), quoted or literal, joined by dots. Values are basic and
literal strings on one line or many, integers in bases 10, 16, 8 and 2, floats, booleans,
date-times, arrays and inline tables; the last two may spread over several lines, hold
comments and end in a comma.

## Main definitions

- `Toml.parse?` — the document of a text as a table, if the text is a TOML document

## Design notes

Line ends are a line feed or a carriage return and a line feed; multi-line strings keep
them as written. A carriage return alone, and any other control character but tab, is
refused outside the escapes of strings. Dates are checked against the calendar, times
against the clock (a 60th second is allowed; seconds may be left out). A byte order mark
may open the text.

A number holds a value when an integer fits in 128 bits (signed, or unsigned when it is not
negative) and a float rounds to a finite double; a radix prefix may stand without digits.
Numbers that hold no value are still read, as `Value.unrepresentable`, and fail only when
taken as data. Arrays and inline tables nest at most `nestingLimit` deep, and a dotted key
has at most `nestingLimit` parts.
-/

namespace Bundling

namespace Toml

/-- Space and tab, the blanks within a line. -/
def isBlank (c : Char) : Bool := c == ' ' || c == '\t'

/-- Skips blanks within a line. -/
def skipBlank (cs : List Char) : List Char := cs.dropWhile isBlank

/-- Characters that may stand in comments and literal strings: tab, and any character from
space on but delete. -/
def isTextChar (c : Char) : Bool := c == '\t' || (c.toNat ≥ 0x20 && c.toNat != 0x7F)

/-- Letters, digits, `_` and `-`: the characters of bare keys. -/
def isBareKeyChar (c : Char) : Bool := c.isAlphanum || c == '_' || c == '-'

/-- The value of a digit in a radix up to 16. -/
def digitValue? (radix : Nat) (c : Char) : Option Nat :=
  let v? :=
    if '0' ≤ c && c ≤ '9' then some (c.toNat - '0'.toNat)
    else if 'a' ≤ c && c ≤ 'f' then some (c.toNat - 'a'.toNat + 10)
    else if 'A' ≤ c && c ≤ 'F' then some (c.toNat - 'A'.toNat + 10)
    else none
  v?.bind fun v => if v < radix then some v else none

/-- Whether a character is a digit in a radix. -/
def isDigitIn (radix : Nat) (c : Char) : Bool := (digitValue? radix c).isSome

/-- The number that digits name in a radix. -/
def numberIn (radix : Nat) (ds : List Char) : Nat :=
  ds.foldl (fun n c => n * radix + (digitValue? radix c).getD 0) 0

/-- The character of a code point given by hexadecimal digits, if it is a Unicode scalar
value. -/
def scalarOfHex? (ds : List Char) : Option Char :=
  if ds.all (isDigitIn 16) then
    let n := numberIn 16 ds
    if n ≤ 0x10FFFF && !(0xD800 ≤ n && n ≤ 0xDFFF) then some (Char.ofNat n) else none
  else none

/-- The character of a one-letter escape. -/
def simpleEscape? : Char → Option Char
  | 'b' => some '\x08'
  | 't' => some '\t'
  | 'n' => some '\n'
  | 'f' => some '\x0c'
  | 'r' => some '\r'
  | 'e' => some '\x1b'
  | '"' => some '"'
  | '\\' => some '\\'
  | _ => none

/-- **The body of a basic string** after its opening quote: its characters with escapes
decoded, up to the closing quote on the same line, and the rest of the text. -/
def basicBody (acc : List Char) : List Char → Option (String × List Char)
  | '"' :: rest => some (String.ofList acc.reverse, rest)
  | '\\' :: 'u' :: a :: b :: c :: d :: rest =>
    (scalarOfHex? [a, b, c, d]).bind fun ch => basicBody (ch :: acc) rest
  | '\\' :: 'U' :: a :: b :: c :: d :: e :: f :: g :: h :: rest =>
    (scalarOfHex? [a, b, c, d, e, f, g, h]).bind fun ch => basicBody (ch :: acc) rest
  | '\\' :: 'x' :: a :: b :: rest =>
    (scalarOfHex? [a, b]).bind fun ch => basicBody (ch :: acc) rest
  | '\\' :: e :: rest => (simpleEscape? e).bind fun ch => basicBody (ch :: acc) rest
  | c :: rest => if isTextChar c && c != '\\' then basicBody (c :: acc) rest else none
  | [] => none

/-- **The body of a literal string** after its opening apostrophe: its characters as
written, up to the closing apostrophe on the same line. -/
def literalBody (acc : List Char) : List Char → Option (String × List Char)
  | '\'' :: rest => some (String.ofList acc.reverse, rest)
  | c :: rest => if isTextChar c then literalBody (c :: acc) rest else none
  | [] => none

/-- Whether the rest of a line is blank. -/
def restOfLineBlank (cs : List Char) : Bool :=
  match skipBlank cs with
  | '\n' :: _ => true
  | '\r' :: '\n' :: _ => true
  | _ => false

/-- Drops the line end that directly follows the opening of a multi-line string. -/
def dropFirstLineEnd : List Char → List Char
  | '\n' :: rest => rest
  | '\r' :: '\n' :: rest => rest
  | cs => cs

/-- **The body of a multi-line basic string** after its opening quotes. A backslash at the
end of a line removes the line end and all blanks and line ends after it (`trimming`);
one or two quotes may precede the closing three. -/
def multiBasicBody (trimming : Bool) (acc : List Char) : List Char → Option (String × List Char)
  | '"' :: '"' :: '"' :: '"' :: '"' :: rest => some (String.ofList ('"' :: '"' :: acc).reverse, rest)
  | '"' :: '"' :: '"' :: '"' :: rest => some (String.ofList ('"' :: acc).reverse, rest)
  | '"' :: '"' :: '"' :: rest => some (String.ofList acc.reverse, rest)
  | '\n' :: rest => multiBasicBody trimming (if trimming then acc else '\n' :: acc) rest
  | '\r' :: '\n' :: rest => multiBasicBody trimming (if trimming then acc else '\n' :: '\r' :: acc) rest
  | ' ' :: rest => multiBasicBody trimming (if trimming then acc else ' ' :: acc) rest
  | '\t' :: rest => multiBasicBody trimming (if trimming then acc else '\t' :: acc) rest
  | '\\' :: 'u' :: a :: b :: c :: d :: rest =>
    (scalarOfHex? [a, b, c, d]).bind fun ch => multiBasicBody false (ch :: acc) rest
  | '\\' :: 'U' :: a :: b :: c :: d :: e :: f :: g :: h :: rest =>
    (scalarOfHex? [a, b, c, d, e, f, g, h]).bind fun ch => multiBasicBody false (ch :: acc) rest
  | '\\' :: 'x' :: a :: b :: rest =>
    (scalarOfHex? [a, b]).bind fun ch => multiBasicBody false (ch :: acc) rest
  | '\\' :: e :: rest =>
    if restOfLineBlank (e :: rest) then multiBasicBody true acc (e :: rest)
    else (simpleEscape? e).bind fun ch => multiBasicBody false (ch :: acc) rest
  | c :: rest => if isTextChar c && c != '\\' then multiBasicBody false (c :: acc) rest else none
  | [] => none

/-- **The body of a multi-line literal string** after its opening apostrophes: characters
and line ends as written; one or two apostrophes may precede the closing three. -/
def multiLiteralBody (acc : List Char) : List Char → Option (String × List Char)
  | '\'' :: '\'' :: '\'' :: '\'' :: '\'' :: rest => some (String.ofList ('\'' :: '\'' :: acc).reverse, rest)
  | '\'' :: '\'' :: '\'' :: '\'' :: rest => some (String.ofList ('\'' :: acc).reverse, rest)
  | '\'' :: '\'' :: '\'' :: rest => some (String.ofList acc.reverse, rest)
  | '\n' :: rest => multiLiteralBody ('\n' :: acc) rest
  | '\r' :: '\n' :: rest => multiLiteralBody ('\n' :: '\r' :: acc) rest
  | c :: rest => if isTextChar c then multiLiteralBody (c :: acc) rest else none
  | [] => none

/-- One key: bare, quoted or literal. -/
def simpleKey? : List Char → Option (String × List Char)
  | '"' :: rest => basicBody [] rest
  | '\'' :: rest => literalBody [] rest
  | cs =>
    let name := cs.takeWhile isBareKeyChar
    if name.isEmpty then none else some (String.ofList name, cs.dropWhile isBareKeyChar)

/-- **A dotted key**: keys joined by dots, with blanks allowed around the dots. -/
def keyPath? : Nat → List Char → Option (List String × List Char)
  | 0, _ => none
  | fuel + 1, cs => do
    let (k, rest) ← simpleKey? cs
    match skipBlank rest with
    | '.' :: more =>
      let (ks, rest') ← keyPath? fuel (skipBlank more)
      return (k :: ks, rest')
    | _ => return ([k], rest)

/-- Arrays and inline tables nest at most this deep, and dotted keys have at most this
many parts. -/
def nestingLimit : Nat := 80

/-- **A key path** read with enough fuel for its text, of at most `nestingLimit` parts. -/
def readKey? (cs : List Char) : Option (List String × List Char) := do
  let (path, rest) ← keyPath? (cs.length + 1) cs
  if path.length ≤ nestingLimit then some (path, rest) else none

/-- Digits after the first, with single underscores between digits. -/
def digitRun (ok : Char → Bool) : List Char → List Char × List Char
  | '_' :: c :: rest =>
    if ok c then
      let (ds, r) := digitRun ok rest
      (c :: ds, r)
    else ([], '_' :: c :: rest)
  | c :: rest =>
    if ok c then
      let (ds, r) := digitRun ok rest
      (c :: ds, r)
    else ([], c :: rest)
  | [] => ([], [])

/-- **A numeral**: a digit, then digits with single underscores between them; the digits
without the underscores, and the rest. -/
def numeral? (ok : Char → Bool) : List Char → Option (List Char × List Char)
  | c :: rest =>
    if ok c then
      let (ds, r) := digitRun ok rest
      some (c :: ds, r)
    else none
  | [] => none

/-- A decimal numeral without leading zeros. -/
def decimal? (cs : List Char) : Option (List Char × List Char) := do
  let (ds, rest) ← numeral? Char.isDigit cs
  if ds.head? == some '0' && ds.length > 1 then none else some (ds, rest)

/-- The least integer of 128 bits, signed. -/
def minInt : Int := -(Int.pow 2 127)

/-- The greatest integer of 128 bits, unsigned. -/
def maxInt : Int := Int.pow 2 128 - 1

/-- An integer as a value: itself within 128 bits, else unrepresentable. -/
def intValue (text : String) (v : Int) : Value :=
  if minInt ≤ v && v ≤ maxInt then .int v else .unrepresentable text

/-- The sign of a number and the text after it. -/
def sign : List Char → Bool × List Char
  | '-' :: rest => (true, rest)
  | '+' :: rest => (false, rest)
  | cs => (false, cs)

/-- **The exponent of a float**: a letter `e`, a sign, and decimal digits; its value and the
rest. -/
def exponent? : List Char → Option (Int × List Char)
  | 'e' :: rest | 'E' :: rest =>
    let (neg, r) := sign rest
    (numeral? Char.isDigit r).map fun (ds, r') =>
      let n : Int := numberIn 10 ds
      (if neg then -n else n, r')
  | _ => none

/-- **A float as a value**: its text, when the digits before and after the point and the
power of ten round to a finite double; else unrepresentable. -/
def floatValue (text : String) (whole fraction : List Char) (power : Int) : Value :=
  if Binary64.decimalFits (numberIn 10 (whole ++ fraction)) (power - fraction.length) then .float text
  else .unrepresentable text

/-- **Digits after a radix prefix**: an integer value, or an unrepresentable one when no
digit follows the prefix. -/
def radixDigits (radix : Nat) (text : List Char → String) (rest : List Char) : Value × List Char :=
  match numeral? (isDigitIn radix) rest with
  | some (ds, r) => (intValue (text r) (numberIn radix ds), r)
  | none => (.unrepresentable (text rest), rest)

/-- **A number**: `inf` or `nan` with a sign; an integer in base 16, 8 or 2 after its
prefix; or a decimal integer with a sign, made a float by a fraction, an exponent or
both. A prefix followed by no digit reads as a number without value. -/
def number? (cs : List Char) : Option (Value × List Char) :=
  let (neg, body) := sign cs
  let consumed (rest : List Char) : String := String.ofList (cs.take (cs.length - rest.length))
  match body with
  | 'i' :: 'n' :: 'f' :: rest => some (.float (consumed rest), rest)
  | 'n' :: 'a' :: 'n' :: rest => some (.float (consumed rest), rest)
  | '0' :: 'x' :: rest => if cs.head? == some '0' then some (radixDigits 16 consumed rest) else none
  | '0' :: 'o' :: rest => if cs.head? == some '0' then some (radixDigits 8 consumed rest) else none
  | '0' :: 'b' :: rest => if cs.head? == some '0' then some (radixDigits 2 consumed rest) else none
  | _ => do
    let (ds, rest) ← decimal? body
    match rest with
    | '.' :: more =>
      let (fs, r) ← numeral? Char.isDigit more
      match r with
      | 'e' :: _ | 'E' :: _ =>
        let (p, r') ← exponent? r
        return (floatValue (consumed r') ds fs p, r')
      | _ => return (floatValue (consumed r) ds fs 0, r)
    | 'e' :: _ | 'E' :: _ =>
      let (p, r) ← exponent? rest
      return (floatValue (consumed r) ds [] p, r)
    | _ =>
      let n : Int := numberIn 10 ds
      return (intValue (consumed rest) (if neg then -n else n), rest)

/-- Two decimal digits and their value. -/
def twoDigits? : List Char → Option (Nat × List Char)
  | a :: b :: rest => if a.isDigit && b.isDigit then some (numberIn 10 [a, b], rest) else none
  | _ => none

/-- Whether a year is a leap year of the Gregorian calendar. -/
def isLeapYear (y : Nat) : Bool := y % 4 == 0 && (y % 100 != 0 || y % 400 == 0)

/-- The number of days of a month. -/
def daysInMonth (y m : Nat) : Nat :=
  if m == 2 then (if isLeapYear y then 29 else 28)
  else if m == 4 || m == 6 || m == 9 || m == 11 then 30
  else 31

/-- **A calendar date** `YYYY-MM-DD` with a month from 1 to 12 and a day of that month. -/
def date? : List Char → Option (List Char)
  | a :: b :: c :: d :: '-' :: rest => do
    if !(a.isDigit && b.isDigit && c.isDigit && d.isDigit) then none
    let (m, r) ← twoDigits? rest
    let '-' :: r := r | none
    let (day, r) ← twoDigits? r
    let y := numberIn 10 [a, b, c, d]
    if 1 ≤ m && m ≤ 12 && 1 ≤ day && day ≤ daysInMonth y m then some r else none
  | _ => none

/-- **Seconds** `:SS` with an optional fraction, up to 60; none written reads as zero. -/
def seconds? : List Char → Option (List Char)
  | ':' :: r => do
    let (s, r) ← twoDigits? r
    if s > 60 then none
    match r with
    | '.' :: more =>
      let ds := more.takeWhile Char.isDigit
      if ds.isEmpty then none else some (more.dropWhile Char.isDigit)
    | _ => some r
  | r => some r

/-- **A time of day** `HH:MM`, then optionally seconds: hours below 24, minutes below 60. -/
def time? (cs : List Char) : Option (List Char) := do
  let (h, r) ← twoDigits? cs
  let ':' :: r := r | none
  let (m, r) ← twoDigits? r
  if !(h ≤ 23 && m ≤ 59) then none
  seconds? r

/-- A time offset: `Z`, or a sign with hours below 24 and minutes below 60. -/
def offset? : List Char → Option (List Char)
  | 'Z' :: rest | 'z' :: rest => some rest
  | '+' :: rest | '-' :: rest => do
    let (h, r) ← twoDigits? rest
    let ':' :: r := r | none
    let (m, r) ← twoDigits? r
    if h ≤ 23 && m ≤ 59 then some r else none
  | _ => none

/-- **A date-time**: a date, optionally followed by `T`, `t` or a space and a time with an
optional offset; or a time of day alone. -/
def dateTime? (cs : List Char) : Option (Value × List Char) :=
  let consumed (rest : List Char) : Value := .datetime (String.ofList (cs.take (cs.length - rest.length)))
  match date? cs with
  | some r =>
    let timed : Option (List Char) :=
      match r with
      | 'T' :: more | 't' :: more | ' ' :: more =>
        (time? more).map fun r' => (offset? r').getD r'
      | _ => none
    match timed, r with
    | some r', _ => some (consumed r', r')
    | none, 'T' :: _ | none, 't' :: _ => none
    | none, _ => some (consumed r, r)
  | none => (time? cs).map fun r => (consumed r, r)

/-- Whether a text starts like a date (`DDDD-`) or a time (`DD:`). -/
def looksLikeDateTime : List Char → Bool
  | a :: b :: c :: d :: '-' :: _ => a.isDigit && b.isDigit && c.isDigit && d.isDigit
  | a :: b :: ':' :: _ => a.isDigit && b.isDigit
  | _ => false

/-- Skips blanks, line ends and comments between the parts of an array or inline table. -/
def skipGaps : Bool → List Char → List Char
  | _, '\n' :: rest => skipGaps false rest
  | _, '\r' :: '\n' :: rest => skipGaps false rest
  | true, c :: rest => if isTextChar c then skipGaps true rest else c :: rest
  | false, ' ' :: rest => skipGaps false rest
  | false, '\t' :: rest => skipGaps false rest
  | false, '#' :: rest => skipGaps true rest
  | _, cs => cs

mutual

/-- **A value**, and the rest of the text; `room` arrays and inline tables may still open. -/
def readValue : Nat → Nat → List Char → Option (Value × List Char)
  | 0, _, _ => none
  | fuel + 1, room, cs =>
    match cs with
    | '"' :: '"' :: '"' :: rest => (multiBasicBody false [] (dropFirstLineEnd rest)).map fun (s, r) => (.str s, r)
    | '"' :: rest => (basicBody [] rest).map fun (s, r) => (.str s, r)
    | '\'' :: '\'' :: '\'' :: rest => (multiLiteralBody [] (dropFirstLineEnd rest)).map fun (s, r) => (.str s, r)
    | '\'' :: rest => (literalBody [] rest).map fun (s, r) => (.str s, r)
    | '[' :: rest =>
      match room with
      | 0 => none
      | room + 1 => (readItems fuel room [] rest).map fun (vs, r) => (.arr vs, r)
    | '{' :: rest =>
      match room with
      | 0 => none
      | room + 1 =>
        match skipGaps false rest with
        | '}' :: r => some (.table [], r)
        | r => do
          let (kvs, r') ← readMembers fuel room [] r
          let es ← inlineEntries kvs []
          return (.table (entriesToValue es), r')
    | 't' :: 'r' :: 'u' :: 'e' :: rest => some (.bool true, rest)
    | 'f' :: 'a' :: 'l' :: 's' :: 'e' :: rest => some (.bool false, rest)
    | _ => if looksLikeDateTime cs then dateTime? cs else number? cs

/-- The items of an array after its opening bracket or after a comma. -/
def readItems : Nat → Nat → List Value → List Char → Option (List Value × List Char)
  | 0, _, _, _ => none
  | fuel + 1, room, acc, cs =>
    match skipGaps false cs with
    | ']' :: rest => some (acc.reverse, rest)
    | cs' => do
      let (v, rest) ← readValue fuel room cs'
      match skipGaps false rest with
      | ',' :: more => readItems fuel room (v :: acc) more
      | ']' :: more => return ((v :: acc).reverse, more)
      | _ => none

/-- **The members of an inline table**, from the start of a key to the closing brace.
Line ends and comments may stand between the parts of a member and around the commas, and
a comma may follow the last member; a dotted key stays on one line. -/
def readMembers : Nat → Nat → List (List String × Value) → List Char →
    Option (List (List String × Value) × List Char)
  | 0, _, _, _ => none
  | fuel + 1, room, acc, cs => do
    let (key, rest) ← readKey? cs
    let '=' :: rest := skipGaps false rest | none
    let (v, rest) ← readValue fuel room (skipGaps false rest)
    match skipGaps false rest with
    | ',' :: more =>
      match skipGaps false more with
      | '}' :: r => return (((key, v) :: acc).reverse, r)
      | more' => readMembers fuel room ((key, v) :: acc) more'
    | '}' :: more => return (((key, v) :: acc).reverse, more)
    | _ => none

end

/-- **The end of a line**: blanks, an optional comment, then a line end or the end of the
text; the text after it. -/
def lineEnd? (cs : List Char) : Option (List Char) :=
  let cs := skipBlank cs
  let cs := match cs with
    | '#' :: rest => rest.dropWhile isTextChar
    | _ => cs
  match cs with
  | [] => some []
  | '\n' :: rest => some rest
  | '\r' :: '\n' :: rest => some rest
  | _ => none

/-- **The lines of a document**, each applied to the document read so far. -/
def readLines : Nat → Document → List Char → Option Document
  | 0, _, _ => none
  | fuel + 1, d, cs =>
    match skipBlank cs with
    | [] => some d
    | '\n' :: rest => readLines fuel d rest
    | '\r' :: '\n' :: rest => readLines fuel d rest
    | '#' :: rest => (lineEnd? ('#' :: rest)).bind (readLines fuel d)
    | '[' :: '[' :: rest => do
      let (path, r) ← readKey? (skipBlank rest)
      let ']' :: ']' :: r := skipBlank r | none
      let d' ← d.appendTable path
      readLines fuel d' (← lineEnd? r)
    | '[' :: rest => do
      let (path, r) ← readKey? (skipBlank rest)
      let ']' :: r := skipBlank r | none
      let d' ← d.defineTable path
      readLines fuel d' (← lineEnd? r)
    | line => do
      let (key, r) ← readKey? line
      let '=' :: r := skipBlank r | none
      let (v, r) ← readValue (line.length + 1) nestingLimit (skipBlank r)
      let d' ← d.assign key v
      readLines fuel d' (← lineEnd? r)

/-- **The document of a TOML text** as a table, if the text is a TOML document. -/
def parse? (text : String) : Option Value :=
  let cs := match text.toList with
    | '\uFEFF' :: rest => rest
    | cs => cs
  (readLines (cs.length + 1) {} cs).map Document.toValue

end Toml

end Bundling
