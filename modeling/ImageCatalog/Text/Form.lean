import ImageCatalog.Text.Percent
import ImageCatalog.Text.Split

/-!
# Form encoding

The query of a request lists `name=text` entries separated by `&`, where both sides are
percent-encoded and a space is written `+`. Reading a query cuts it at every `&`, each entry at its
first `=`, and undoes the encoding of both sides.
-/

namespace ImageCatalog.Text.Form

/-- One character of a name or a text. -/
def encodeChar (char : Char) : List Char :=
  if char = ' ' then ['+'] else Percent.encodeChar Percent.isUnreserved char

/-- A name or a text. -/
def encodeChars (chars : List Char) : List Char :=
  chars.flatMap encodeChar

/-- One entry. -/
def encodeEntry (entry : String × String) : List Char :=
  encodeChars entry.1.toList ++ '=' :: encodeChars entry.2.toList

/-- A whole query. -/
def encode (entries : List (String × String)) : String :=
  String.ofList (joinChars ['&'] (entries.map encodeEntry))

/-- A name or a text with its encoding undone. -/
def decodeChars (chars : List Char) : String :=
  Utf8.decodeLenient (Percent.decodeBytes (chars.map fun char => if char = '+' then ' ' else char))

/-- One entry with its encoding undone. -/
def decodeEntry (chars : List Char) : String × String :=
  let (name, text) := cutAtChar '=' chars
  (decodeChars name, decodeChars (text.getD []))

/-- The entries of a query. -/
def decode (query : String) : List (String × String) :=
  (splitAtChar '&' query.toList).map decodeEntry

end ImageCatalog.Text.Form
