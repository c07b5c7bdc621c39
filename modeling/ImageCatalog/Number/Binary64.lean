/-!
# Binary64 numbers

A floating-point number is not-a-number, an infinity, or a signed significand times a power of two
in canonical form: the significand has at most 53 bits, the exponent lies between -1074 and 971, and
the significand is as long as these bounds allow. Canonical form makes equality of values equality
of data, up to the sign of zero.

Every operation works on exact integers. Rounding takes a quotient of natural numbers to the
nearest representable value, ties to the even significand, and to an infinity beyond the largest
finite value.
-/

namespace ImageCatalog.Number

/-- The canonical pairs of significand and exponent. -/
def IsCanonical (significand : Nat) (exponent : Int) : Prop :=
  significand < Nat.pow 2 53 ∧ -1074 ≤ exponent ∧ exponent ≤ 971 ∧
    (exponent = -1074 ∨ Nat.pow 2 52 ≤ significand)

instance (significand : Nat) (exponent : Int) : Decidable (IsCanonical significand exponent) :=
  inferInstanceAs (Decidable (_ ∧ _ ∧ _ ∧ (_ ∨ _)))

/-- A finite binary64 number. -/
structure Finite where
  negative : Bool
  significand : Nat
  exponent : Int
  canonical : IsCanonical significand exponent
deriving DecidableEq

/-- A binary64 number. -/
inductive Binary64
  | notANumber
  | infinite (negative : Bool)
  | finite (value : Finite)
deriving DecidableEq

namespace Finite

/-- The zero of the given sign. -/
def signedZero (negative : Bool) : Finite :=
  ⟨negative, 0, -1074, by decide⟩

/-- The value in units of the smallest positive number, which makes it an integer. -/
def scaled (value : Finite) : Int :=
  let magnitude : Nat := value.significand * Nat.pow 2 (value.exponent + 1074).toNat
  if value.negative then -(magnitude : Int) else magnitude

/-- The numerator of the magnitude as a quotient of natural numbers. -/
def numerator (value : Finite) : Nat :=
  value.significand * Nat.pow 2 value.exponent.toNat

theorem numerator_lt (value : Finite) :
    value.numerator < Nat.pow 2 (53 + value.exponent.toNat) := by
  calc value.numerator < Nat.pow 2 53 * Nat.pow 2 value.exponent.toNat :=
        Nat.mul_lt_mul_of_pos_right value.canonical.1 (Nat.pow_pos (by decide))
    _ = Nat.pow 2 (53 + value.exponent.toNat) := (Nat.pow_add 2 53 _).symm

/-- The denominator of the magnitude as a quotient of natural numbers. -/
def denominator (value : Finite) : Nat :=
  Nat.pow 2 (-value.exponent).toNat

/-- Whether the value is a whole number. -/
def isWhole (value : Finite) : Bool :=
  value.numerator % value.denominator == 0

/-- The value without its fraction. -/
def truncate (value : Finite) : Int :=
  let magnitude : Nat := value.numerator / value.denominator
  if value.negative then -(magnitude : Int) else magnitude

end Finite

namespace Binary64

/-- The number with the given significand and exponent, or an infinity if it is out of range. -/
def ofParts (negative : Bool) (significand : Nat) (exponent : Int) : Binary64 :=
  if canonical : IsCanonical significand exponent then
    .finite ⟨negative, significand, exponent, canonical⟩
  else .infinite negative

/-- The nearest whole number to a quotient, ties to even. -/
def roundHalfEven (numerator denominator : Nat) : Nat :=
  let quotient := numerator / denominator
  let twice := 2 * (numerator % denominator)
  if twice < denominator then quotient
  else if denominator < twice then quotient + 1
  else quotient + quotient % 2

/-- The exponent at which a positive quotient has a significand of 53 bits, or the least exponent.
-/
def exponentFor (numerator denominator : Nat) : Int :=
  let estimate : Int := max ((numerator.log2 : Int) - denominator.log2 - 52) (-1074)
  let significand :=
    numerator * Nat.pow 2 (-estimate).toNat / (denominator * Nat.pow 2 estimate.toNat)
  if significand < Nat.pow 2 52 then max (estimate - 1) (-1074) else estimate

/-- The number nearest to a quotient of natural numbers. -/
def ofRatio (negative : Bool) (numerator denominator : Nat) : Binary64 :=
  if numerator = 0 then .finite (.signedZero negative)
  else
    let exponent := exponentFor numerator denominator
    let significand :=
      roundHalfEven (numerator * Nat.pow 2 (-exponent).toNat)
        (denominator * Nat.pow 2 exponent.toNat)
    if significand = Nat.pow 2 53 then ofParts negative (Nat.pow 2 52) (exponent + 1)
    else ofParts negative significand exponent

/-- The number nearest to a decimal `digits · 10 ^ exponent`. Decimals far outside the range are
settled by their length, so that no huge power is formed. -/
def ofDecimal (negative : Bool) (digits : Nat) (exponent : Int) : Binary64 :=
  if digits = 0 then .finite (.signedZero negative)
  else
    let length : Int := (Nat.toDigits 10 digits).length + exponent
    if 400 < length then .infinite negative
    else if length < -400 then .finite (.signedZero negative)
    else ofRatio negative (digits * Nat.pow 10 exponent.toNat) (Nat.pow 10 (-exponent).toNat)

/-- Whether the number is neither an infinity nor not-a-number. -/
def isFinite : Binary64 → Bool
  | .finite _ => true
  | _ => false

/-- Whether the number is positive or negative zero. -/
def isZero : Binary64 → Bool
  | .finite value => value.significand == 0
  | _ => false

/-- The number with the opposite sign. -/
def negate : Binary64 → Binary64
  | .notANumber => .notANumber
  | .infinite negative => .infinite !negative
  | .finite value => .finite { value with negative := !value.negative }

/-- The sum of two numbers. -/
def add : Binary64 → Binary64 → Binary64
  | .finite left, .finite right =>
    let total := left.scaled + right.scaled
    ofRatio (if total = 0 then left.negative && right.negative else total < 0) total.natAbs
      (Nat.pow 2 1074)
  | .infinite left, .infinite right => if left = right then .infinite left else .notANumber
  | .infinite negative, .finite _ => .infinite negative
  | .finite _, .infinite negative => .infinite negative
  | _, _ => .notANumber

/-- The product of a number with a natural number. -/
def scale (factor : Nat) : Binary64 → Binary64
  | .finite value =>
    ofRatio value.negative (factor * value.numerator) value.denominator
  | other => other

end Binary64

end ImageCatalog.Number
