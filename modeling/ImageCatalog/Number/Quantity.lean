import ImageCatalog.Number.Shortest
import ImageCatalog.Text.Digit

/-!
# Quantities

The value and the bounds of a number parameter are whole numbers of any size or binary64 numbers.
Quantities of the two kinds are compared exactly, without rounding a whole number; not-a-number
compares false with everything.
-/

namespace ImageCatalog.Number

/-- A whole number or a binary64 number. -/
inductive Quantity
  | whole (value : Int)
  | real (value : Binary64)
deriving DecidableEq

namespace Quantity

/-- Where a quantity lies: below or above every finite one, or at a point given in units of the
smallest positive binary64 number; not-a-number lies nowhere. -/
inductive Position
  | below
  | at (units : Int)
  | above
  | nowhere
deriving DecidableEq, Repr

/-- The position of a quantity. -/
def position : Quantity → Position
  | .whole value => .at (value * (Nat.pow 2 1074 : Nat))
  | .real .notANumber => .nowhere
  | .real (.infinite negative) => if negative then .below else .above
  | .real (.finite value) => .at value.scaled

/-- Whether one position lies strictly before another. -/
def Position.isBefore : Position → Position → Bool
  | .at left, .at right => left < right
  | .below, .at _ => true
  | .below, .above => true
  | .at _, .above => true
  | _, _ => false

/-- Whether one quantity is less than another. -/
def isLess (left right : Quantity) : Bool :=
  left.position.isBefore right.position

/-- Whether two quantities are equal in value, whatever their kinds. -/
def isEqual (left right : Quantity) : Bool :=
  left.position != .nowhere && left.position == right.position

/-- Whether the quantity is neither infinite nor not-a-number. -/
def isFinite : Quantity → Bool
  | .whole _ => true
  | .real value => value.isFinite

/-- The printed text of a quantity. -/
def print : Quantity → Except Text.DigitOverflow String
  | .whole value => Text.intText value
  | .real value => .ok (Layout.printed.write value)

end Quantity

end ImageCatalog.Number
