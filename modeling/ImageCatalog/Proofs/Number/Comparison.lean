import ImageCatalog.Number.Quantity
import Mathlib.Algebra.Order.Field.Power
import Mathlib.Data.Rat.Cast.Order
import Mathlib.Order.WithBot
import Mathlib.Tactic.Linarith
import Mathlib.Tactic.Positivity
import Mathlib.Tactic.Ring

/-!
# Comparing quantities exactly

Every quantity but not-a-number has an exact value among the rational numbers and two infinities.
Whole and real quantities are compared by these values: nothing is rounded on the way, and a
quantity without a value is neither less nor greater than another one.
-/

namespace ImageCatalog.Number

/-- The exact value of a finite number. -/
def Finite.exact (value : Finite) : ℚ :=
  let magnitude : ℚ := value.significand * 2 ^ value.exponent
  if value.negative then -magnitude else magnitude

/-- The exact value of a quantity that has one. -/
def Quantity.exactValue? : Quantity → Option (WithBot (WithTop ℚ))
  | .whole value => some ((value : ℚ) : WithTop ℚ)
  | .real .notANumber => none
  | .real (.infinite true) => some ⊥
  | .real (.infinite false) => some (⊤ : WithTop ℚ)
  | .real (.finite value) => some (value.exact : WithTop ℚ)

/-- The units in which positions are given are the smallest positive number. -/
theorem Finite.scaled_eq (value : Finite) : (value.scaled : ℚ) = value.exact * 2 ^ 1074 := by
  have exponent : ((value.exponent + 1074).toNat : Int) = value.exponent + 1074 := by
    have := value.canonical.2.1
    omega
  have power : (2 : ℚ) ^ (value.exponent + 1074).toNat = 2 ^ value.exponent * 2 ^ 1074 := by
    rw [← zpow_natCast, exponent, zpow_add₀ (by norm_num)]
    norm_cast
  unfold Finite.scaled Finite.exact
  cases value.negative <;> simp [power, mul_assoc]

namespace Quantity

/-- The exact value of a position, which is given in units of the smallest positive number. -/
def Position.value? : Position → Option (WithBot (WithTop ℚ))
  | .below => some ⊥
  | .at units => some ((units / 2 ^ 1074 : ℚ) : WithTop ℚ)
  | .above => some (⊤ : WithTop ℚ)
  | .nowhere => none

theorem value?_position (quantity : Quantity) :
    quantity.position.value? = quantity.exactValue? := by
  have unit : (2 : ℚ) ^ 1074 ≠ 0 := by positivity
  cases quantity with
  | whole value =>
      have units (exponent : Nat) :
          ((value * (Nat.pow 2 exponent : Nat) : Int) : ℚ) = value * 2 ^ exponent := by simp
      simp only [position, Position.value?, exactValue?, units, mul_div_cancel_right₀ _ unit]
  | real value =>
      cases value with
      | notANumber => rfl
      | infinite negative => cases negative <;> rfl
      | finite value =>
          simp only [position, Position.value?, exactValue?, value.scaled_eq,
            mul_div_cancel_right₀ _ unit]

theorem isBefore_iff {left right : Position} :
    left.isBefore right = true ↔ ∃ low ∈ left.value?, ∃ high ∈ right.value?, low < high := by
  have unit : (0 : ℚ) < 2 ^ 1074 := by positivity
  cases left <;> cases right <;>
    simp [Position.isBefore, Position.value?, -WithBot.coe_top, WithBot.coe_lt_coe,
      WithTop.coe_lt_coe, WithTop.coe_lt_top, div_lt_div_iff_of_pos_right unit]

/-- One quantity is less than another exactly if its exact value is. -/
theorem isLess_iff {left right : Quantity} :
    left.isLess right = true ↔
      ∃ low ∈ left.exactValue?, ∃ high ∈ right.exactValue?, low < high := by
  rw [isLess, isBefore_iff, value?_position, value?_position]

/-- A quantity is not less than a bound exactly if no exact values say so. -/
theorem isLess_eq_false_iff {left right : Quantity} :
    left.isLess right = false ↔
      ∀ low ∈ left.exactValue?, ∀ high ∈ right.exactValue?, high ≤ low := by
  rw [← Bool.not_eq_true, isLess_iff]
  simp only [not_exists, not_and, not_lt]

theorem isLess_trans {first second third : Quantity} (firstLess : first.isLess second = true)
    (secondLess : second.isLess third = true) : first.isLess third = true := by
  rcases isLess_iff.mp firstLess with ⟨low, lowExact, middle, middleExact, lowLess⟩
  rcases isLess_iff.mp secondLess with ⟨same, sameExact, high, highExact, highGreater⟩
  have equal : middle = same := Option.some.inj (middleExact.symm.trans sameExact)
  subst equal
  exact isLess_iff.mpr ⟨low, lowExact, high, highExact, lowLess.trans highGreater⟩

theorem isFinite_iff {quantity : Quantity} :
    quantity.isFinite = true ↔ ∃ exact : ℚ, quantity.exactValue? = some (exact : WithTop ℚ) := by
  cases quantity with
  | whole value => simp [isFinite, exactValue?]
  | real value =>
      cases value with
      | notANumber => simp [isFinite, Binary64.isFinite, exactValue?]
      | infinite negative => cases negative <;> simp [isFinite, Binary64.isFinite, exactValue?]
      | finite value => simp [isFinite, Binary64.isFinite, exactValue?]

end Quantity

end ImageCatalog.Number
