import ImageCatalog.Text.Hex
import ImageCatalog.Text.Printable
import ImageCatalog.Text.Surrogate

/-!
# Quoted text

A text inside a printed value stands between quotes: single ones, or double ones if the text has a
single quote and no double one. Backslashes and the chosen quote are escaped, tab, line feed and
carriage return have short escapes, and characters that are not printable are written in
hexadecimal, with two, four or eight digits as their code point needs.
-/

namespace ImageCatalog.Text.Quoted

/-- The quote that a text is put in. -/
def quoteFor (chars : List Char) : Char :=
  if chars.contains '\'' && !chars.contains '"' then '"' else '\''

/-- A code point in hexadecimal, in the shortest of the three forms. -/
def escapeCode (code : Nat) : List Char :=
  if code < 0x100 then '\\' :: 'x' :: hexField 2 code
  else if code < 0x10000 then '\\' :: 'u' :: hexField 4 code
  else '\\' :: 'U' :: hexField 8 code

/-- One character of a quoted text. -/
def escapeChar (quote : Char) (char : Char) : List Char :=
  if char = quote || char = '\\' then ['\\', char]
  else if char = '\t' then ['\\', 't']
  else if char = '\n' then ['\\', 'n']
  else if char = '\r' then ['\\', 'r']
  else if isPrintable char then [char]
  else escapeCode (toCodePoint char)

/-- A text with escapes for its halves, and for nothing else. -/
def escapeHalves (text : String) : String :=
  String.ofList (text.toList.flatMap fun char =>
    if isHalf char then escapeCode (toCodePoint char) else [char])

/-- A text with its quotes. -/
def quote (text : String) : String :=
  let chars := text.toList
  let mark := quoteFor chars
  String.ofList (mark :: chars.flatMap (escapeChar mark) ++ [mark])

/-- One byte of a quoted row of bytes, where only printable ASCII shows as itself. -/
def escapeByte (mark : Char) (value : UInt8) : List Char :=
  let char := Char.ofNat value.toNat
  if char = mark || char = '\\' then ['\\', char]
  else if char = '\t' then ['\\', 't']
  else if char = '\n' then ['\\', 'n']
  else if char = '\r' then ['\\', 'r']
  else if 0x20 ≤ value.toNat && value.toNat < 0x7F then [char]
  else '\\' :: 'x' :: hexField 2 value.toNat

/-- A row of bytes with its quotes, marked by a leading `b`. -/
def quoteBytes (bytes : List UInt8) : String :=
  let mark := quoteFor (bytes.map fun value => Char.ofNat value.toNat)
  String.ofList ('b' :: mark :: bytes.flatMap (escapeByte mark) ++ [mark])

end ImageCatalog.Text.Quoted
