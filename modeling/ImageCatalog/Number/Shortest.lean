import ImageCatalog.Number.Binary64

/-!
# The shortest decimal of a binary64 number

A finite number is written with the fewest significant digits that read back as the same number,
and among the decimals of that length with the nearest one. `shortest` finds them: for each length
from one to seventeen it tries the two neighbours of the value on the grid of decimals of that
length.

How the digits are laid out is the business of the format, described by a `Layout`: which decimal
exponents are written positionally, and how exponents and special values are spelt.
-/

namespace ImageCatalog.Number

/-- A positive decimal `digits · 10 ^ exponent`. -/
structure Decimal where
  digits : Nat
  exponent : Int
deriving DecidableEq, Repr

/-- The number of decimal digits. -/
def digitCount (value : Nat) : Nat :=
  (Nat.toDigits 10 value).length

/-- The exponent of the leading decimal digit of a positive quotient. -/
def leadingExponent (numerator denominator : Nat) : Int :=
  let estimate : Int := (digitCount numerator : Int) - digitCount denominator
  if numerator * Nat.pow 10 (-estimate).toNat < denominator * Nat.pow 10 estimate.toNat then
    estimate - 1
  else estimate

/-- Whether a decimal is read as the magnitude of the given number. -/
def Decimal.readsAs (decimal : Decimal) (value : Finite) : Bool :=
  Binary64.ofDecimal value.negative decimal.digits decimal.exponent == .finite value

/-- The decimal of the given length that is nearest to the value and reads back, if there is one. -/
def decimalOfLength? (value : Finite) (leading : Int) (length : Nat) : Option Decimal :=
  let exponent := leading - length + 1
  let numerator := value.numerator * Nat.pow 10 (-exponent).toNat
  let denominator := value.denominator * Nat.pow 10 exponent.toNat
  let below : Decimal := ⟨numerator / denominator, exponent⟩
  let above : Decimal := ⟨numerator / denominator + 1, exponent⟩
  let nearest := Binary64.roundHalfEven numerator denominator
  let (first, second) := if nearest = below.digits then (below, above) else (above, below)
  if first.readsAs value then some first
  else if second.readsAs value then some second
  else none

/-- The exact decimal of a finite number. -/
def exactDecimal (value : Finite) : Decimal :=
  let places := (-value.exponent).toNat
  ⟨value.numerator * Nat.pow 5 places, -places⟩

/-- The shortest decimal that reads back as the given finite number. -/
def shortest (value : Finite) : Decimal :=
  let leading := leadingExponent value.numerator value.denominator
  ((List.range 17).findSome? fun length => decimalOfLength? value leading (length + 1)).getD
    (exactDecimal value)

/-- The choices of a format of floating-point numbers: the decimal exponents of the leading digit
between which numbers are written without an exponent, the least number of digits of an exponent,
and the spelling of the special values. -/
structure Layout where
  positionalFrom : Int
  positionalBelow : Int
  exponentWidth : Nat
  notANumber : String
  infinity : String

/-- The digits of a number in a field of at least the given width. -/
def paddedDigits (width value : Nat) : List Char :=
  let digits := Nat.toDigits 10 value
  List.replicate (width - digits.length) '0' ++ digits

/-- A positive decimal without an exponent, with at least one digit on each side of the point. -/
def positional (digits : List Char) (leading : Int) : List Char :=
  if leading < 0 then
    '0' :: '.' :: List.replicate (-leading - 1).toNat '0' ++ digits
  else
    let before := leading.toNat + 1
    let whole := digits.take before ++ List.replicate (before - digits.length) '0'
    let fraction := digits.drop before
    whole ++ '.' :: (if fraction.isEmpty then ['0'] else fraction)

/-- A positive decimal with an exponent, with a point only if more than one digit is written. -/
def scientific (layout : Layout) (digits : List Char) (leading : Int) : List Char :=
  let fraction := digits.drop 1
  digits.take 1 ++ (if fraction.isEmpty then [] else '.' :: fraction) ++
    'e' :: (if leading < 0 then '-' else '+') :: paddedDigits layout.exponentWidth leading.natAbs

/-- The magnitude of a finite number. -/
def magnitudeChars (layout : Layout) (value : Finite) : List Char :=
  if value.significand = 0 then ['0', '.', '0']
  else
    let decimal := shortest value
    let digits := Nat.toDigits 10 decimal.digits
    let leading := decimal.exponent + digits.length - 1
    let written := (digits.reverse.dropWhile (· == '0')).reverse
    if layout.positionalFrom ≤ leading && leading < layout.positionalBelow then
      positional written leading
    else scientific layout written leading

/-- The text of a binary64 number in a format. -/
def Layout.write (layout : Layout) : Binary64 → String
  | .notANumber => layout.notANumber
  | .infinite negative => if negative then "-" ++ layout.infinity else layout.infinity
  | .finite value =>
    let magnitude := magnitudeChars layout value
    String.ofList (if value.negative then '-' :: magnitude else magnitude)

/-- Numbers inside printed values: positional from 0.0001 up to, but not including, 10 to the 16,
with exponents of at least two digits. -/
def Layout.printed : Layout :=
  { positionalFrom := -4, positionalBelow := 16, exponentWidth := 2, notANumber := "nan",
    infinity := "inf" }

/-- Numbers inside documents: as in printed values, but for the special values. -/
def Layout.document : Layout :=
  { Layout.printed with notANumber := "NaN", infinity := "Infinity" }

end ImageCatalog.Number
