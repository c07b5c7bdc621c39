import ImageCatalog.Text.Digit
import ImageCatalog.Text.EntityTable
import ImageCatalog.Text.Hex

/-!
# Character references

A reference in a page is `&` with a decimal or hexadecimal code point or a name, and usually a
semicolon. A name without its semicolon stands for the longest name that may lack it; a reference
that means nothing is left as it is. Decimal code points longer than the limit on number texts are
an error, which is the only way in which resolving a text can fail.
-/

namespace ImageCatalog.Text.Entity

/-- The code points of the references to the Windows characters and the other repairs. -/
def repairs : List (Nat × Nat) :=
  [
    (0x00, 0xFFFD), (0x0D, 0x0D), (0x80, 0x20AC), (0x81, 0x81), (0x82, 0x201A), (0x83, 0x192),
    (0x84, 0x201E), (0x85, 0x2026), (0x86, 0x2020), (0x87, 0x2021), (0x88, 0x2C6),
    (0x89, 0x2030), (0x8A, 0x160), (0x8B, 0x2039), (0x8C, 0x152), (0x8D, 0x8D), (0x8E, 0x17D),
    (0x8F, 0x8F), (0x90, 0x90), (0x91, 0x2018), (0x92, 0x2019), (0x93, 0x201C), (0x94, 0x201D),
    (0x95, 0x2022), (0x96, 0x2013), (0x97, 0x2014), (0x98, 0x2DC), (0x99, 0x2122), (0x9A, 0x161),
    (0x9B, 0x203A), (0x9C, 0x153), (0x9D, 0x9D), (0x9E, 0x17E), (0x9F, 0x178)
  ]

/-- Whether a code point stands for no character, so that its reference vanishes. -/
def isForbidden (code : Nat) : Bool :=
  (0x1 ≤ code && code ≤ 0x8) || code == 0xB || (0xE ≤ code && code ≤ 0x1F) ||
    (0x7F ≤ code && code ≤ 0x9F) || (0xFDD0 ≤ code && code ≤ 0xFDEF) ||
    0xFFFE ≤ code % 0x10000

/-- The text of a numeric reference. -/
def ofCode (code : Nat) : List Char :=
  match repairs.lookup code with
  | some repaired => [Char.ofNat repaired]
  | none =>
    if (0xD800 ≤ code && code ≤ 0xDFFF) || 0x10FFFF < code then [Char.ofNat 0xFFFD]
    else if isForbidden code then []
    else [Char.ofNat code]

/-- The text of a name, given without its semicolon. -/
def named? (name : List Char) : Option (List Char) :=
  match name with
  | [] => none
  | letter :: _ =>
    ((startingWith letter).lookup (String.ofList name)).map fun codes => codes.map Char.ofNat

/-- The text of a name that may lack its semicolon. -/
def bare? (name : List Char) : Option (List Char) :=
  if bareNames.contains (String.ofList name) then named? name else none

/-- The text for the longest beginning of `name`, of at least two and at most `length` characters,
that may lack its semicolon, followed by what is left of it. -/
def longestBare? (name : List Char) : Nat → Option (List Char)
  | 0 => none
  | length + 1 =>
    if length < 1 then none
    else match bare? (name.take (length + 1)) with
      | some text => some (text ++ name.drop (length + 1))
      | none => longestBare? name length

/-- The text of a named reference, with or without its semicolon. -/
def ofName (name : List Char) (closed : Bool) : List Char :=
  let written := if closed then name ++ [';'] else name
  match if closed then named? name else bare? name with
  | some text => text
  | none => (longestBare? written (written.length - 1)).getD ('&' :: written)

/-- Whether a character may stand in the name of a reference. -/
def isNameChar (char : Char) : Bool :=
  !(char == '\t' || char == '\n' || char.toNat == 12 || char == ' ' || char == '<' ||
    char == '&' || char == '#' || char == ';')

/-- A reference as it is written after the `&`. -/
inductive Written
  | decimal (digits : List Char)
  | hexadecimal (digits : List Char)
  | name (chars : List Char)

/-- The first `count` characters of a class at the front of a text. -/
def spanUpTo (inClass : Char → Bool) (count : Nat) (chars : List Char) : List Char :=
  (chars.take count).takeWhile inClass

/-- The reference that a text starts with, and the number of characters that it takes before the
semicolon. -/
def written? (chars : List Char) : Option (Written × Nat) :=
  match chars with
  | '#' :: rest =>
    let digits := rest.takeWhile Char.isDigit
    if !digits.isEmpty then some (.decimal digits, digits.length + 1)
    else match rest with
      | mark :: more =>
        let codes := more.takeWhile fun char => (hexValue? char).isSome
        if (mark == 'x' || mark == 'X') && !codes.isEmpty then
          some (.hexadecimal codes, codes.length + 2)
        else none
      | [] => none
  | _ =>
    let name := spanUpTo isNameChar 32 chars
    if name.isEmpty then none else some (.name name, name.length)

/-- The text of a reference. -/
def resolve (reference : Written) (closed : Bool) : Except DigitOverflow (List Char) :=
  match reference with
  | .decimal digits => (readDigits digits).map ofCode
  | .hexadecimal digits => .ok (ofCode ((hexToNat? digits).getD 0))
  | .name chars => .ok (ofName chars closed)

/-- Resolve the references of a text, after leaving out the first `skipped` characters. -/
def resolveFrom : Nat → List Char → Except DigitOverflow (List Char)
  | _, [] => .ok []
  | skipped + 1, _ :: rest => resolveFrom skipped rest
  | 0, char :: rest =>
    if char = '&' then
      match written? rest with
      | some (reference, length) => do
        let closed := rest[length]? == some ';'
        let text ← resolve reference closed
        let more ← resolveFrom (if closed then length + 1 else length) rest
        return text ++ more
      | none => (resolveFrom 0 rest).map (char :: ·)
    else (resolveFrom 0 rest).map (char :: ·)

/-- Resolve the references of a text. -/
def unescape (text : String) : Except DigitOverflow String :=
  (resolveFrom 0 text.toList).map String.ofList

/-- Write the characters that have a meaning in a page as references. -/
def escapeChar (char : Char) : List Char :=
  match char with
  | '&' => ['&', 'a', 'm', 'p', ';']
  | '<' => ['&', 'l', 't', ';']
  | '>' => ['&', 'g', 't', ';']
  | '"' => ['&', 'q', 'u', 'o', 't', ';']
  | '\'' => ['&', '#', 'x', '2', '7', ';']
  | other => [other]

/-- A text as it is written in a page. -/
def escape (text : String) : String :=
  String.ofList (text.toList.flatMap escapeChar)

end ImageCatalog.Text.Entity
