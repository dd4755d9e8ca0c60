import Bundling.Json.Value

/-!
# Writing JSON

Compact and indented text of JSON values. Strings escape the quote, the backslash and the
control characters below U+0020: backspace, tab, line feed, form feed and carriage return
by their short escapes, the others as `\u00XX` with lower-case hexadecimal digits; every
other character is written as itself. Members are written in the order the object lists
them.

## Main definitions

- `Json.quote` — a string literal
- `Json.compact` — the text without any blank
- `Json.pretty` — the text indented by two spaces per level, one member or item per line
-/

namespace Bundling

namespace Json

/-- A hexadecimal digit, lower case. -/
def hexDigit (n : Nat) : Char :=
  if n < 10 then Char.ofNat (48 + n) else Char.ofNat (87 + n)

/-- The escaped form of one character inside a string literal. -/
def escapeChar (c : Char) : List Char :=
  match c with
  | '"' => ['\\', '"']
  | '\\' => ['\\', '\\']
  | '\n' => ['\\', 'n']
  | '\r' => ['\\', 'r']
  | '\t' => ['\\', 't']
  | _ =>
    if c.toNat == 8 then ['\\', 'b']
    else if c.toNat == 12 then ['\\', 'f']
    else if c.toNat < 0x20 then ['\\', 'u', '0', '0', hexDigit (c.toNat / 16), hexDigit (c.toNat % 16)]
    else [c]

/-- **A string literal**: the text between quotes, escaped. -/
def quote (s : String) : String :=
  String.ofList ('"' :: (s.toList.flatMap escapeChar ++ ['"']))

/-- The decimal digits of a natural number. -/
def digits (n : Nat) : String :=
  toString n

/-- The text of a number: integers in full, others in scientific form. -/
def Number.render (n : Number) : String :=
  let sign := if n.negative then "-" else ""
  if n.integral then sign ++ n.whole
  else sign ++ digits n.mantissa ++ "e" ++ (if n.exponent < 0 then "-" else "") ++
    digits n.exponent.natAbs

mutual

/-- **Compact text**: no blank anywhere. -/
def compact : Json → String
  | .null => "null"
  | .bool b => if b then "true" else "false"
  | .num n => n.render
  | .str s _ => quote s
  | .arr items => "[" ++ compactItems items ++ "]"
  | .obj fields _ => "\x7b" ++ compactFields fields ++ "\x7d"

/-- The items of an array, separated by commas. -/
def compactItems : List Json → String
  | [] => ""
  | [x] => compact x
  | x :: rest => compact x ++ "," ++ compactItems rest

/-- The members of an object, separated by commas. -/
def compactFields : List (String × Json) → String
  | [] => ""
  | [(k, v)] => quote k ++ ":" ++ compact v
  | (k, v) :: rest => quote k ++ ":" ++ compact v ++ "," ++ compactFields rest

end

/-- The indentation of a nesting level: two spaces per level. -/
def indent (level : Nat) : String :=
  String.ofList (List.replicate (2 * level) ' ')

mutual

/-- The indented text of a value whose first line is already indented to `level`. -/
def prettyAt (level : Nat) : Json → String
  | .null => "null"
  | .bool b => if b then "true" else "false"
  | .num n => n.render
  | .str s _ => quote s
  | .arr [] => "[]"
  | .arr items => "[\n" ++ prettyItems (level + 1) items ++ "\n" ++ indent level ++ "]"
  | .obj [] _ => "\x7b\x7d"
  | .obj fields _ => "\x7b\n" ++ prettyFields (level + 1) fields ++ "\n" ++ indent level ++ "\x7d"

/-- The items of an array, one per line. -/
def prettyItems (level : Nat) : List Json → String
  | [] => ""
  | [x] => indent level ++ prettyAt level x
  | x :: rest => indent level ++ prettyAt level x ++ ",\n" ++ prettyItems level rest

/-- The members of an object, one per line. -/
def prettyFields (level : Nat) : List (String × Json) → String
  | [] => ""
  | [(k, v)] => indent level ++ quote k ++ ": " ++ prettyAt level v
  | (k, v) :: rest => indent level ++ quote k ++ ": " ++ prettyAt level v ++ ",\n" ++
      prettyFields level rest

end

/-- **Indented text**: two spaces per level, one member or item per line, a space after each
colon, and empty arrays and objects written as `[]` and `{}`. -/
def pretty (v : Json) : String :=
  prettyAt 0 v

example : compact (.obj [("a", .arr [.ofNat 1, .str "x\n"])]) = "\x7b\"a\":[1,\"x\\n\"]\x7d" := by
  decide

end Json

end Bundling
