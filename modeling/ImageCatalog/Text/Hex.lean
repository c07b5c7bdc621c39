/-!
# Hexadecimal digits

The values of hexadecimal digits in either case, and their lower- and upper-case spellings.
-/

namespace ImageCatalog.Text

/-- The value of a hexadecimal digit. -/
def hexValue? (char : Char) : Option Nat :=
  if '0' ≤ char ∧ char ≤ '9' then some (char.toNat - 48)
  else if 'a' ≤ char ∧ char ≤ 'f' then some (char.toNat - 87)
  else if 'A' ≤ char ∧ char ≤ 'F' then some (char.toNat - 55)
  else none

/-- The number that a row of hexadecimal digits denotes, if all of them are digits. -/
def hexToNat? (digits : List Char) : Option Nat :=
  digits.foldl (fun total digit =>
    total.bind fun value => (hexValue? digit).map fun next => 16 * value + next) (some 0)

/-- The lower-case digit of a value below sixteen. -/
def hexDigit (value : Nat) : Char :=
  if value < 10 then Char.ofNat (48 + value) else Char.ofNat (87 + value)

/-- The upper-case digit of a value below sixteen. -/
def upperHexDigit (value : Nat) : Char :=
  if value < 10 then Char.ofNat (48 + value) else Char.ofNat (55 + value)

/-- The lower-case digits of a number in a field of the given width. -/
def hexField : Nat → Nat → List Char
  | 0, _ => []
  | width + 1, value => hexField width (value / 16) ++ [hexDigit (value % 16)]

end ImageCatalog.Text
