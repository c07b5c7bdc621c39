import ImageCatalog.Text.Hex
import ImageCatalog.Text.Surrogate

/-!
# Percent encoding

A text is percent-encoded by writing the unreserved characters (ASCII letters, digits and
`_ . - ~`) and the characters declared safe as themselves and every other byte of its UTF-8 form
as `%` and two upper-case hexadecimal digits. Decoding turns every `%` with two hexadecimal digits
into its byte, leaves all else alone and reads the bytes as UTF-8 with U+FFFD for faults.
-/

namespace ImageCatalog.Text.Percent

/-- The characters that are never encoded. -/
def isUnreserved (char : Char) : Bool :=
  char.isAlphanum || char == '_' || char == '.' || char == '-' || char == '~'

/-- One byte as an escape. -/
def escapeByte (value : UInt8) : List Char :=
  ['%', upperHexDigit (value.toNat / 16), upperHexDigit (value.toNat % 16)]

/-- One character, as itself if the predicate keeps it. -/
def encodeChar (keeps : Char → Bool) (char : Char) : List Char :=
  if keeps char then [char] else (Utf8.encodeChar char).flatMap escapeByte

/-- Percent-encode a row of characters. -/
def encodeChars (keeps : Char → Bool) (chars : List Char) : List Char :=
  chars.flatMap (encodeChar keeps)

/-- Whether a character stays as it is in a path. The slash is safe there; a half of a pair has no
bytes to be written as, and leaves an address that nothing can be asked for at. -/
def staysInPath (char : Char) : Bool :=
  isUnreserved char || char == '/' || isHalf char

/-- Percent-encode one part of a path. -/
def encodePath (text : String) : String :=
  String.ofList (encodeChars staysInPath text.toList)

/-- The bytes of a row of characters with its escapes undone. -/
def decodeBytes : List Char → List UInt8
  | [] => []
  | '%' :: high :: low :: rest =>
    match hexValue? high, hexValue? low with
    | some first, some second => UInt8.ofNat (16 * first + second) :: decodeBytes rest
    | _, _ => Utf8.encodeChar '%' ++ decodeBytes (high :: low :: rest)
  | char :: rest => Utf8.encodeChar char ++ decodeBytes rest

/-- Undo the escapes of a text. -/
def decode (text : String) : String :=
  Utf8.decodeLenient (decodeBytes text.toList)

end ImageCatalog.Text.Percent
