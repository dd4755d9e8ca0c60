import Bundling.Binary64
import Bundling.Json.Value

/-!
# Reading JSON text

The reader of the strict JSON grammar: blanks are space, tab, line feed and carriage
return; literals are `null`, `true` and `false`; numbers have no leading zeros, no leading
plus and no bare point; strings hold no raw control characters and only the escapes
`\" \\ \/ \b \f \n \r \t \uXXXX`; arrays and objects have no trailing comma; after the
value only blanks may follow. Reading sets no bound on nesting; a decoder bounds the parts
it takes as data.

## Main definitions

- `Json.parse?` — the value of a text, if the text is one JSON value
- `Json.Number.readsAsDouble` — the number converts to a finite double the way a decoder
  of data converts it
- `Json.isPlainValue` — every string, key and number of a value can be taken as data, within
  a bound on nesting

## Design notes

The reader keeps every string, also one with an escape that names half a surrogate pair
alone; such a string and an object with such a key are marked invalid (see `Json`).
Which parts of a document are taken as data is for the decoder of the document to say.

A number taken as data converts to a double by a fast route that is not always correctly
rounded: at most the digits that fit in 64 bits are kept, their double is scaled by the
double nearest to a power of ten, and the number is refused when that product overflows.
Numbers a little below the largest double are refused this way, and `readsAsDouble` keeps
exactly that behaviour.
-/

namespace Bundling

namespace Json

/-- JSON blanks. -/
def isJsonBlank (c : Char) : Bool :=
  c == ' ' || c == '\t' || c == '\n' || c == '\r'

/-- Skips blanks. -/
def skipBlank (cs : List Char) : List Char :=
  cs.dropWhile isJsonBlank

/-- The value of a hexadecimal digit. -/
def hexValue? (c : Char) : Option Nat :=
  if '0' ≤ c && c ≤ '9' then some (c.toNat - '0'.toNat)
  else if 'a' ≤ c && c ≤ 'f' then some (c.toNat - 'a'.toNat + 10)
  else if 'A' ≤ c && c ≤ 'F' then some (c.toNat - 'A'.toNat + 10)
  else none

/-- The value of four hexadecimal digits. -/
def hex4? (a b c d : Char) : Option Nat := do
  return (← hexValue? a) * 4096 + (← hexValue? b) * 256 + (← hexValue? c) * 16 + (← hexValue? d)

/-- Whether a code unit is the first half of a surrogate pair. -/
def isHighSurrogate (n : Nat) : Bool := 0xD800 ≤ n && n ≤ 0xDBFF

/-- Whether a code unit is the second half of a surrogate pair. -/
def isLowSurrogate (n : Nat) : Bool := 0xDC00 ≤ n && n ≤ 0xDFFF

/-- The character of a pair of surrogates. -/
def combineSurrogates (hi lo : Nat) : Char :=
  Char.ofNat (0x10000 + (hi - 0xD800) * 0x400 + (lo - 0xDC00))

/-- **The body of a string literal**, after its opening quote: the characters up to the
closing quote, whether every escape named a character, and the rest of the text. -/
def readStringBody : List Char → List Char → Bool → Option (String × Bool × List Char)
  | [], _, _ => none
  | '"' :: rest, acc, valid => some (String.ofList acc.reverse, valid, rest)
  | '\\' :: 'u' :: a :: b :: c :: d :: rest, acc, valid => do
    let n ← hex4? a b c d
    if isLowSurrogate n then readStringBody rest ('�' :: acc) false
    else if isHighSurrogate n then
      match _hr : rest with
      | '\\' :: 'u' :: e :: f :: g :: h :: rest' =>
        match hex4? e f g h with
        | some m =>
          if isLowSurrogate m then readStringBody rest' (combineSurrogates n m :: acc) valid
          else readStringBody rest ('�' :: acc) false
        | none => none
      | _ => readStringBody rest ('�' :: acc) false
    else readStringBody rest (Char.ofNat n :: acc) valid
  | '\\' :: e :: rest, acc, valid =>
    let decoded : Option Char :=
      match e with
      | '"' => some '"'
      | '\\' => some '\\'
      | '/' => some '/'
      | 'b' => some (Char.ofNat 8)
      | 'f' => some (Char.ofNat 12)
      | 'n' => some '\n'
      | 'r' => some '\r'
      | 't' => some '\t'
      | _ => none
    match decoded with
    | some c => readStringBody rest (c :: acc) valid
    | none => none
  | c :: rest, acc, valid =>
    if c.toNat < 0x20 then none else readStringBody rest (c :: acc) valid
termination_by cs => cs.length
decreasing_by all_goals (try subst _hr); simp <;> omega

/-- Splits off the leading decimal digits. -/
def digitsPrefix (cs : List Char) : List Char × List Char :=
  (cs.takeWhile Char.isDigit, cs.dropWhile Char.isDigit)

/-- The value of a list of decimal digits. -/
def digitValue (ds : List Char) : Nat :=
  ds.foldl (fun n d => 10 * n + (d.toNat - '0'.toNat)) 0

/-- **A number literal**: an optional minus, an integer part without leading zeros, an
optional fraction and an optional exponent, each with at least one digit. -/
def readNumber (cs : List Char) : Option (Number × List Char) := do
  let (negative, cs) := match cs with
    | '-' :: rest => (true, rest)
    | _ => (false, cs)
  let (intDigits, cs) := digitsPrefix cs
  match intDigits with
  | [] => none
  | '0' :: _ :: _ => none
  | _ => pure ()
  let (fracDigits, cs) ← match cs with
    | '.' :: rest =>
      let (ds, rest) := digitsPrefix rest
      if ds.isEmpty then none else some (ds, rest)
    | _ => some ([], cs)
  let (power, cs) ← match cs with
    | e :: rest =>
      if e == 'e' || e == 'E' then
        let (sign, rest) := match rest with
          | '+' :: r => (1, r)
          | '-' :: r => (-1, r)
          | _ => (1, rest)
        let (ds, rest) := digitsPrefix rest
        if ds.isEmpty then none else some (some (sign * (digitValue ds : Int)), rest)
      else some (none, cs)
    | [] => some (none, cs)
  return (⟨negative, String.ofList intDigits, String.ofList fracDigits, power⟩, cs)

/-- Reads an exact word such as `null`. -/
def readWord (word : List Char) (cs : List Char) : Option (List Char) :=
  if word.isPrefixOf cs then some (cs.drop word.length) else none

mutual

/-- **A value**, after blanks. `fuel` bounds the steps. -/
def readValue (fuel : Nat) (cs : List Char) : Option (Json × List Char) :=
  match fuel with
  | 0 => none
  | fuel + 1 =>
    match skipBlank cs with
    | 'n' :: _ => (readWord "null".toList (skipBlank cs)).map fun r => (.null, r)
    | 't' :: _ => (readWord "true".toList (skipBlank cs)).map fun r => (.bool true, r)
    | 'f' :: _ => (readWord "false".toList (skipBlank cs)).map fun r => (.bool false, r)
    | '"' :: rest => (readStringBody rest [] true).map fun (s, v, r) => (.str s v, r)
    | '[' :: rest =>
      match skipBlank rest with
      | ']' :: r => some (.arr [], r)
      | _ => (readItems fuel rest []).map fun (xs, r) => (.arr xs, r)
    | '{' :: rest =>
      match skipBlank rest with
      | '}' :: r => some (.obj [] true, r)
      | _ => (readMembers fuel rest [] true).map fun (fs, v, r) => (.obj fs v, r)
    | c :: _ => if c == '-' || c.isDigit then (readNumber (skipBlank cs)).map fun (n, r) => (.num n, r) else none
    | [] => none

/-- The items of an array after its opening bracket, each followed by a comma or the
closing bracket. -/
def readItems (fuel : Nat) (cs : List Char) (acc : List Json) : Option (List Json × List Char) :=
  match fuel with
  | 0 => none
  | fuel + 1 => do
    let (v, rest) ← readValue fuel cs
    match skipBlank rest with
    | ',' :: r => readItems fuel r (v :: acc)
    | ']' :: r => some ((v :: acc).reverse, r)
    | _ => none

/-- The members of an object after its opening brace: a string key, a colon and a value,
each followed by a comma or the closing brace. -/
def readMembers (fuel : Nat) (cs : List Char) (acc : List (String × Json)) (valid : Bool) :
    Option (List (String × Json) × Bool × List Char) :=
  match fuel with
  | 0 => none
  | fuel + 1 =>
    match skipBlank cs with
    | '"' :: rest => do
      let (k, kv, rest) ← readStringBody rest [] true
      match skipBlank rest with
      | ':' :: rest => do
        let (v, rest) ← readValue fuel rest
        match skipBlank rest with
        | ',' :: r => readMembers fuel r ((k, v) :: acc) (valid && kv)
        | '}' :: r => some (((k, v) :: acc).reverse, valid && kv, r)
        | _ => none
      | _ => none
    | _ => none

end

/-- **Reading a text as one JSON value**: blanks may surround the value, nothing else. -/
def parse? (text : String) : Option Json :=
  let cs := text.toList
  match readValue (cs.length + 1) cs with
  | some (v, rest) => if (skipBlank rest).isEmpty then some v else none
  | none => none

/-- The largest 64-bit unsigned integer. -/
def uint64Max : Nat := Nat.pow 2 64 - 1

/-- The largest 32-bit signed integer. -/
def int32Max : Nat := Nat.pow 2 31 - 1

/-- **Digits into a 64-bit significand**: takes digits while the significand stays within
64 bits, and returns it with the digits not taken. -/
def takeDigits : Nat → List Char → Nat × List Char
  | s, [] => (s, [])
  | s, d :: ds =>
    let s' := 10 * s + (d.toNat - '0'.toNat)
    if s' > uint64Max then (s, d :: ds) else takeDigits s' ds

/-- **Scaling a significand** by `10 ^ exponent` through doubles: the significand's double
times the double of the power of ten. A negative exponent divides, which never overflows;
a positive one overflows when the product does, or when no power that large is tabled. -/
def scaleFits (significand : Nat) (exponent : Int) : Bool :=
  if exponent < 0 || significand == 0 then true
  else if exponent > 308 then false
  else
    match Binary64.ofNat? significand, Binary64.pow10 exponent.toNat with
    | some f, some p => (Binary64.mul f p).isSome
    | _, _ => false

/-- **A number read as a finite double.** The whole digits go into a 64-bit significand;
whole digits that do not fit raise the exponent. The fraction's digits then join the
significand while it fits, each lowering the exponent, and the rest are dropped. An integer
whose digits all fit is taken exactly. An exponent beyond 32 bits gives zero when it is
negative or the significand is zero, and is refused otherwise. -/
def Number.readsAsDouble (n : Number) : Bool :=
  let (s, wholeLeft) := takeDigits 0 n.whole.toList
  let (s, fracLeft) := takeDigits s n.fraction.toList
  let taken : Int := n.fraction.length - fracLeft.length
  let e : Int := wholeLeft.length - taken
  match n.power with
  | none => if n.fraction.isEmpty && wholeLeft.isEmpty then true else scaleFits s e
  | some p =>
    if p.natAbs > int32Max then s == 0 || p < 0
    else scaleFits s (e + p)

mutual

/-- **A plain value** with room for `room` more arrays and objects: every string and key can
be taken as text, every number as a double, and containers nest no deeper than the room. -/
def isPlainValue (room : Nat) : Json → Bool
  | .num n => n.readsAsDouble
  | .str _ valid => valid
  | .arr items =>
    match room with
    | 0 => false
    | room + 1 => allPlain room items
  | .obj fields valid =>
    match room with
    | 0 => false
    | room + 1 => valid && allPlainMembers room fields
  | _ => true

/-- Every item is a plain value. -/
def allPlain (room : Nat) : List Json → Bool
  | [] => true
  | x :: rest => isPlainValue room x && allPlain room rest

/-- Every member's value is a plain value. -/
def allPlainMembers (room : Nat) : List (String × Json) → Bool
  | [] => true
  | (_, v) :: rest => isPlainValue room v && allPlainMembers room rest

end

end Json

end Bundling
