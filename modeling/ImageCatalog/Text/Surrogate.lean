import ImageCatalog.Text.Utf8

/-!
# Halves of pairs

A text is a row of code points. All but 2048 of these are characters; those are the halves of which
some encodings make up a character in pairs. A half can stand alone in a text: escapes can spell it,
and a byte of a command line that belongs to no character becomes one. A text with a half in it has
no encoding in UTF-8, so that it is neither printed nor saved.

A `Char` is no half. The last 2048 characters, which are there for private use, stand in for the
halves, in their order, and not for themselves: texts are taken to have no such characters of their
own. All other characters are themselves, and `toCodePoint` gives the code point that is meant.
-/

namespace ImageCatalog.Text

/-- The distance from a half to the character that stands in for it. -/
def standInOffset : Nat := 0x102000

/-- Whether a code point is a half. -/
def isHalfCode (code : Nat) : Bool :=
  0xD800 ≤ code && code ≤ 0xDFFF

/-- Whether a character stands in for a half. -/
def isHalf (char : Char) : Bool :=
  0xD800 + standInOffset ≤ char.toNat

/-- The character of a code point. -/
def ofCodePoint (code : Nat) : Char :=
  Char.ofNat (if isHalfCode code then code + standInOffset else code)

/-- The code point of a character. -/
def toCodePoint (char : Char) : Nat :=
  if isHalf char then char.toNat - standInOffset else char.toNat

/-- Whether a text has no half in it. -/
def isWhole (text : String) : Bool :=
  text.toList.all fun char => !isHalf char

/-- The bytes of a text, if it has no half in it. -/
def encode? (text : String) : Option (List UInt8) :=
  if isWhole text then some (Utf8.encode text) else none

/-- A text with three marks in the place of every half, as in reports on texts that are not known to
have an encoding. -/
def replaceHalves (text : String) : String :=
  String.ofList (text.toList.flatMap fun char =>
    if isHalf char then ['\uFFFD', '\uFFFD', '\uFFFD'] else [char])

/-- Whether a character stands in for one of the halves that bytes of a command line become. -/
def isStrayByte (char : Char) : Bool :=
  0xDC80 ≤ toCodePoint char && toCodePoint char ≤ 0xDCFF

end ImageCatalog.Text
