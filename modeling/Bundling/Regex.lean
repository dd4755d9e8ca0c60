/-!
# Libraries of regular expressions

The diagnostic filter finds a framework namespace in a message through a library of regular
expressions: it quotes the namespace, writes it between two classes of the path separators,
compiles that pattern and searches messages with it. The library is a parameter of everything
that makes a filter. Its compilation may refuse a pattern, with a message of its own, and
what its search finds is known only through `RegexLib.MatchesSegments`: a segment pattern is
matched literally, which is what the library promises of quoting and searching.

## Main definitions

- `RegexLib` — quoting, compiling and searching
- `RegexLib.segmentPattern` — the pattern of a namespace between two separators
- `SegmentIn` — a text stands in a message between two separators
- `RegexLib.MatchesSegments` — segment patterns are matched literally
- `RegexLib.literal` — the program's library, which refuses patterns beyond its size limit

## Design notes

The program's library reads back only the patterns the filter writes. It counts a compiled
pattern as one state of `stateBytes` bytes for each UTF-8 byte of the namespace and for each
of the two classes, and refuses one above `sizeLimit` bytes, the default limit of the library it
stands for.
-/

namespace Bundling

/-- **A library of regular expressions**: `escape` quotes a text so that it stands for itself
in a pattern, `compile` reads a pattern — or refuses it, with a message — and `isMatch` tells
whether a compiled pattern matches somewhere in a text. -/
structure RegexLib where
  Regex : Type
  escape : String → String
  compile : String → Except String Regex
  isMatch : Regex → String → Bool

/-- The class of the two path separators, `/` and `\`, in pattern syntax. -/
def separatorClass : String := "[/\\\\]"

/-- A path separator: `/` or `\`. -/
def isSeparator (c : Char) : Bool :=
  c == '/' || c == '\\'

/-- **A whole path segment**: `seg` stands in `msg` between two separators, each `/` or `\`. -/
def SegmentIn (seg msg : String) : Prop :=
  ∃ u v : String, ∃ a b : Char, (a = '/' ∨ a = '\\') ∧ (b = '/' ∨ b = '\\') ∧
    msg = u ++ a.toString ++ seg ++ b.toString ++ v

/-- Whether `seg` stands in `msg` between two separators, found by scanning `msg`. -/
def containsSegment (seg : List Char) : List Char → Bool
  | [] => false
  | c :: rest =>
    (isSeparator c && seg.isPrefixOf rest &&
        (match rest.drop seg.length with
          | d :: _ => isSeparator d
          | [] => false)) ||
      containsSegment seg rest

namespace RegexLib

/-- **The pattern of a namespace segment**: the quoted namespace between two separator
classes. -/
def segmentPattern (rx : RegexLib) (ns : String) : String :=
  separatorClass ++ rx.escape ns ++ separatorClass

/-- **Literal segment matching**: a compiled segment pattern of a namespace matches exactly
the messages that hold the namespace, as written, between two separators. -/
def MatchesSegments (rx : RegexLib) : Prop :=
  ∀ ns r, rx.compile (rx.segmentPattern ns) = .ok r →
    ∀ msg, rx.isMatch r msg = true ↔ SegmentIn ns msg

/-- The characters with a meaning of their own in pattern syntax. -/
def metaChars : List Char :=
  ['\\', '.', '+', '*', '?', '(', ')', '|', '[', ']', '\x7b', '\x7d', '^', '$', '#', '&', '-',
    '~']

/-- **Quoting**: a backslash before every character with a meaning of its own. -/
def quote (s : String) : String :=
  String.ofList (s.toList.flatMap fun c => if c ∈ metaChars then ['\\', c] else [c])

/-- Reads a quoted text back: a backslash stands for the character after it. -/
def unquote : List Char → List Char
  | '\\' :: c :: rest => c :: unquote rest
  | c :: rest => c :: unquote rest
  | [] => []

/-- The literal of a segment pattern: the quoted text between the two separator classes,
read back. -/
def segmentLiteral? (p : String) : Option (List Char) :=
  let cls := separatorClass.toList
  let l := p.toList
  if cls.isPrefixOf l && cls.isSuffixOf l && 2 * cls.length ≤ l.length then
    some (unquote ((l.drop cls.length).take (l.length - 2 * cls.length)))
  else none

/-- The size limit of a compiled pattern, in bytes: ten mebibytes. -/
def sizeLimit : Nat := 10485760

/-- The bytes one state of a compiled pattern takes. -/
def stateBytes : Nat := 32

/-- The length of a text in UTF-8 bytes. -/
def utf8Length (l : List Char) : Nat :=
  l.foldl (fun n c => n + c.utf8Size) 0

/-- The message of a pattern refused for its size. -/
def tooBigMessage : String :=
  "Compiled regex exceeds size limit of " ++ toString sizeLimit ++ " bytes."

/-- **The program's library.** It compiles a segment pattern to its literal, refusing one
whose compiled states exceed the size limit, and finds the literal between two separators. -/
def literal : RegexLib where
  Regex := List Char
  escape := quote
  compile p :=
    match segmentLiteral? p with
    | none => .error ("unsupported pattern " ++ p)
    | some lit =>
      if sizeLimit < stateBytes * (utf8Length lit + 2) then .error tooBigMessage else .ok lit
  isMatch lit msg := containsSegment lit msg.toList

example : literal.compile (literal.segmentPattern "@a.b") = .ok ['@', 'a', '.', 'b'] := rfl

end RegexLib

end Bundling
