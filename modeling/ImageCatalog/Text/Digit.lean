/-!
# Decimal digits

Every script's decimal digits stand in a run of ten code points, zero first, so the zeros alone
determine the value of each digit. Number texts accept the digits of any script; the segments of
a path and the indexes given on the command line accept ASCII digits only.
-/

namespace ImageCatalog.Text

/-- The code points of the digit zero in every script, as of version 14 of the character database.
-/
def digitZeros : List Nat :=
  [
    0x30, 0x660, 0x6F0, 0x7C0, 0x966, 0x9E6, 0xA66, 0xAE6, 0xB66, 0xBE6, 0xC66, 0xCE6, 0xD66, 0xDE6,
    0xE50, 0xED0, 0xF20, 0x1040, 0x1090, 0x17E0, 0x1810, 0x1946, 0x19D0, 0x1A80, 0x1A90, 0x1B50,
    0x1BB0, 0x1C40, 0x1C50, 0xA620, 0xA8D0, 0xA900, 0xA9D0, 0xA9F0, 0xAA50, 0xABF0, 0xFF10, 0x104A0,
    0x10D30, 0x11066, 0x110F0, 0x11136, 0x111D0, 0x112F0, 0x11450, 0x114D0, 0x11650, 0x116C0,
    0x11730, 0x118E0, 0x11950, 0x11C50, 0x11D50, 0x11DA0, 0x16A60, 0x16AC0, 0x16B50, 0x1D7CE,
    0x1D7D8, 0x1D7E2, 0x1D7EC, 0x1D7F6, 0x1E140, 0x1E2F0, 0x1E950, 0x1FBF0
  ]

/-- The value of a decimal digit of any script. -/
def digitValue? (char : Char) : Option Nat :=
  if char.toNat < 0x80 then
    if char.isDigit then some (char.toNat - 48) else none
  else
    (digitZeros.find? fun first => first ≤ char.toNat && char.toNat ≤ first + 9).map fun first =>
      char.toNat - first

/-- Whether the text is a non-empty row of ASCII digits. -/
def isDigits (text : String) : Bool :=
  !text.isEmpty && text.toList.all Char.isDigit

/-- The number that a row of ASCII digits denotes, most significant digit first. -/
def digitsToNat (digits : List Char) : Nat :=
  Nat.ofDigitChars 10 digits 0

/-- The digits of a number, most significant digit first. -/
def natDigits (value : Nat) : List Char :=
  Nat.toDigits 10 value

/-- Texts of whole numbers have at most this many digits. -/
def digitLimit : Nat := 4300

/-- A whole number beyond the limit: met in a text with the given number of digits, or on its way
into a text. -/
inductive DigitOverflow
  | reading (digits : Nat)
  | writing
deriving DecidableEq, Repr

/-- What is reported about a number beyond the limit. -/
def DigitOverflow.message : DigitOverflow → String
  | .reading digits =>
    "Exceeds the limit (4300 digits) for integer string conversion: value has " ++
      toString digits ++ " digits; use sys.set_int_max_str_digits() to increase the limit"
  | .writing =>
    "Exceeds the limit (4300 digits) for integer string conversion; use " ++
      "sys.set_int_max_str_digits() to increase the limit"

/-- The number that a row of ASCII digits denotes, if the row is within the limit. -/
def readDigits (digits : List Char) : Except DigitOverflow Nat :=
  if digitLimit < digits.length then .error (.reading digits.length)
  else .ok (digitsToNat digits)

/-- The characters of an integer. -/
def intChars (value : Int) : List Char :=
  if value < 0 then '-' :: natDigits value.natAbs else natDigits value.natAbs

/-- The text of an integer, if it is within the limit. -/
def intText (value : Int) : Except DigitOverflow String :=
  if value.natAbs < Nat.pow 10 digitLimit then .ok (String.ofList (intChars value))
  else .error .writing

end ImageCatalog.Text
