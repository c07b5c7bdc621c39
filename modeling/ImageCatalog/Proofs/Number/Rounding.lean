import ImageCatalog.Number.Binary64
import Mathlib.Algebra.Order.Field.Power
import Mathlib.Data.Rat.Cast.Order
import Mathlib.Tactic.FieldSimp
import Mathlib.Tactic.GCongr
import Mathlib.Tactic.Linarith
import Mathlib.Tactic.Positivity
import Mathlib.Tactic.Ring

/-!
# Rounding quotients

The exponent that rounding chooses for a positive quotient is determined by where the quotient lies:
`Fits` says so without mentioning logarithms, at most one exponent fits, and the chosen one does.
Two facts follow. Rounding depends on the quotient only and not on how it is written, and a quotient
that equals a binary64 number is rounded to that number.
-/

namespace ImageCatalog.Number

/-- The exponent gives the quotient a significand of 53 bits, or it is the least exponent and the
significand has no more bits. -/
structure Fits (numerator denominator : Nat) (exponent : Int) : Prop where
  least : -1074 ≤ exponent
  upper : (numerator : ℚ) < 2 ^ 53 * (denominator * 2 ^ exponent)
  lower : exponent = -1074 ∨ 2 ^ 52 * (denominator * 2 ^ exponent) ≤ (numerator : ℚ)

/-! ## Powers of two -/

/-- A power of two with an exponent of either sign is a quotient of two whole powers. -/
theorem mul_zpow_eq_div (factor denominator : Nat) (exponent : Int) :
    (factor : ℚ) * (denominator * 2 ^ exponent) =
      factor * (denominator * 2 ^ exponent.toNat) / 2 ^ (-exponent).toNat := by
  have parts : (2 : ℚ) ^ exponent * 2 ^ (-exponent).toNat = 2 ^ exponent.toNat := by
    rw [← zpow_natCast, ← zpow_natCast, ← zpow_add₀ (by norm_num)]
    congr 1
    omega
  rw [eq_div_iff (by positivity), ← parts]
  ring

variable {factor numerator denominator : Nat} {exponent : Int}

theorem mul_zpow_le_iff :
    factor * (denominator * Nat.pow 2 exponent.toNat) ≤ numerator * Nat.pow 2 (-exponent).toNat ↔
      (factor : ℚ) * (denominator * 2 ^ exponent) ≤ numerator := by
  rw [mul_zpow_eq_div, div_le_iff₀ (by positivity)]
  exact_mod_cast Iff.rfl

theorem lt_mul_zpow_iff :
    numerator * Nat.pow 2 (-exponent).toNat < factor * (denominator * Nat.pow 2 exponent.toNat) ↔
      (numerator : ℚ) < factor * (denominator * 2 ^ exponent) := by
  rw [← not_le, ← not_le, mul_zpow_le_iff]

theorem eq_mul_zpow_iff :
    numerator * Nat.pow 2 (-exponent).toNat = factor * (denominator * Nat.pow 2 exponent.toNat) ↔
      (numerator : ℚ) = factor * (denominator * 2 ^ exponent) := by
  rw [mul_zpow_eq_div, eq_div_iff (by positivity)]
  exact_mod_cast Iff.rfl

/-! ## The exponent of a quotient -/

theorem Fits.unique {first second : Int} (firstFits : Fits numerator denominator first)
    (secondFits : Fits numerator denominator second) : first = second := by
  have notLess {lower upper : Int} (lowerFits : Fits numerator denominator lower)
      (upperFits : Fits numerator denominator upper) : ¬lower < upper := by
    intro less
    rcases upperFits.lower with least | bound
    · have := lowerFits.least
      omega
    · have step : (2 : ℚ) ^ (lower + 1) ≤ 2 ^ upper := zpow_le_zpow_right₀ (by norm_num) less
      have power : (2 : ℚ) ^ (lower + 1) = 2 ^ lower * 2 := zpow_add_one₀ (by norm_num) lower
      have upperBound := lowerFits.upper
      have scaled : (denominator : ℚ) * (2 ^ lower * 2) ≤ denominator * 2 ^ upper := by
        rw [← power]
        gcongr
      linarith
  rcases lt_trichotomy first second with less | same | greater
  · exact absurd less (notLess firstFits secondFits)
  · exact same
  · exact absurd greater (notLess secondFits firstFits)

theorem Fits.scale (positive : 0 < factor) (fits : Fits numerator denominator exponent) :
    Fits (numerator * factor) (denominator * factor) exponent := by
  have factorPos : (0 : ℚ) < factor := by exact_mod_cast positive
  refine ⟨fits.least, ?_, fits.lower.imp_right fun bound => ?_⟩
  · push_cast
    calc (numerator : ℚ) * factor < 2 ^ 53 * (denominator * 2 ^ exponent) * factor := by
          gcongr
          exact fits.upper
      _ = 2 ^ 53 * (denominator * factor * 2 ^ exponent) := by ring
  · push_cast
    calc (2 : ℚ) ^ 52 * (denominator * factor * 2 ^ exponent) =
          2 ^ 52 * (denominator * 2 ^ exponent) * factor := by ring
      _ ≤ (numerator : ℚ) * factor := by gcongr

/-- A number lies between the powers of two that its logarithm names. -/
theorem log2_bounds {number : Nat} (positive : 0 < number) :
    (2 : ℚ) ^ (number.log2 : Int) ≤ number ∧ (number : ℚ) < 2 ^ (number.log2 + 1 : Int) := by
  have lower := Nat.log2_self_le (Nat.pos_iff_ne_zero.mp positive)
  have upper : number < 2 ^ (number.log2 + 1) := Nat.lt_log2_self
  constructor
  · rw [zpow_natCast]
    exact_mod_cast lower
  · have power : (2 : ℚ) ^ (number.log2 + 1 : Int) = 2 ^ (number.log2 + 1) := by
      exact_mod_cast zpow_natCast (2 : ℚ) (number.log2 + 1)
    rw [power]
    exact_mod_cast upper

section Logarithms

variable (numeratorPos : 0 < numerator) (denominatorPos : 0 < denominator)

include numeratorPos denominatorPos

theorem lt_of_log2 (large : (numerator.log2 : Int) - denominator.log2 - 52 ≤ exponent) :
    (numerator : ℚ) < 2 ^ 53 * (denominator * 2 ^ exponent) := by
  calc (numerator : ℚ) < 2 ^ (numerator.log2 + 1 : Int) := (log2_bounds numeratorPos).2
    _ ≤ 2 ^ (53 + (denominator.log2 + exponent)) :=
        zpow_le_zpow_right₀ (by norm_num) (by omega)
    _ = 2 ^ 53 * (2 ^ (denominator.log2 : Int) * 2 ^ exponent) := by
        rw [zpow_add₀ (by norm_num), zpow_add₀ (by norm_num)]
        norm_cast
    _ ≤ 2 ^ 53 * (denominator * 2 ^ exponent) := by
        gcongr
        exact (log2_bounds denominatorPos).1

theorem le_of_log2 (small : exponent + 1 ≤ (numerator.log2 : Int) - denominator.log2 - 52) :
    2 ^ 52 * (denominator * 2 ^ exponent) ≤ (numerator : ℚ) := by
  calc (2 : ℚ) ^ 52 * (denominator * 2 ^ exponent) ≤
        2 ^ 52 * (2 ^ (denominator.log2 + 1 : Int) * 2 ^ exponent) := by
        gcongr
        exact (log2_bounds denominatorPos).2.le
    _ = 2 ^ (52 + (denominator.log2 + 1 + exponent)) := by
        rw [zpow_add₀ (by norm_num) 52, zpow_add₀ (by norm_num) (denominator.log2 + 1 : Int)]
        norm_cast
    _ ≤ 2 ^ (numerator.log2 : Int) := zpow_le_zpow_right₀ (by norm_num) (by omega)
    _ ≤ numerator := (log2_bounds numeratorPos).1

/-- An estimate that gives less than 53 bits is one too large, unless it is the least exponent. -/
theorem fits_of_short {estimate : Int}
    (estimated : estimate = max ((numerator.log2 : Int) - denominator.log2 - 52) (-1074))
    (short : (numerator : ℚ) < 2 ^ 52 * (denominator * 2 ^ estimate)) :
    Fits numerator denominator (max (estimate - 1) (-1074)) := by
  refine ⟨le_max_right _ _, ?_, ?_⟩
  · rcases Classical.em (estimate = -1074) with least | above
    · have same : max (estimate - 1) (-1074) = estimate := by omega
      rw [same]
      exact lt_of_log2 numeratorPos denominatorPos (by omega)
    · have same : max (estimate - 1) (-1074) = estimate - 1 := by omega
      have power : (2 : ℚ) ^ estimate = 2 ^ (estimate - 1) * 2 := by
        rw [← zpow_add_one₀ (by norm_num), sub_add_cancel]
      rw [same]
      calc (numerator : ℚ) < 2 ^ 52 * (denominator * 2 ^ estimate) := short
        _ = 2 ^ 53 * (denominator * 2 ^ (estimate - 1)) := by
            rw [power]
            ring
  · rcases Classical.em (estimate ≤ -1073) with least | above
    · exact .inl (by omega)
    · have same : max (estimate - 1) (-1074) = estimate - 1 := by omega
      rw [same]
      exact .inr (le_of_log2 numeratorPos denominatorPos (by omega))

/-- The exponent that rounding chooses fits. -/
theorem fits_exponentFor :
    Fits numerator denominator (Binary64.exponentFor numerator denominator) := by
  unfold Binary64.exponentFor
  simp only
  generalize estimated :
    max ((numerator.log2 : Int) - denominator.log2 - 52) (-1074) = estimate
  have scaledPos : 0 < denominator * Nat.pow 2 estimate.toNat :=
    Nat.mul_pos denominatorPos (Nat.pow_pos (by decide))
  have shortIff : numerator * Nat.pow 2 (-estimate).toNat /
      (denominator * Nat.pow 2 estimate.toNat) < Nat.pow 2 52 ↔
      (numerator : ℚ) < 2 ^ 52 * (denominator * 2 ^ estimate) := by
    refine (Nat.div_lt_iff_lt_mul scaledPos).trans (lt_mul_zpow_iff.trans ?_)
    norm_num
  split
  · next isShort =>
      exact fits_of_short numeratorPos denominatorPos estimated.symm (shortIff.mp isShort)
  · next isLong =>
      have bound := not_lt.mp (mt shortIff.mpr isLong)
      exact ⟨by omega, lt_of_log2 numeratorPos denominatorPos (by omega), .inr bound⟩

end Logarithms

/-! ## Rounding -/

namespace Binary64

theorem roundHalfEven_mul (numerator denominator : Nat) {factor : Nat} (positive : 0 < factor) :
    roundHalfEven (numerator * factor) (denominator * factor) =
      roundHalfEven numerator denominator := by
  have twice : 2 * (numerator * factor % (denominator * factor)) =
      2 * (numerator % denominator) * factor := by
    rw [Nat.mul_mod_mul_right, Nat.mul_assoc]
  simp only [roundHalfEven, twice, Nat.mul_div_mul_right _ _ positive,
    Nat.mul_lt_mul_right positive]

/-- A quotient without a rest is rounded to itself. -/
theorem roundHalfEven_exact (quotient : Nat) {denominator : Nat} (positive : 0 < denominator) :
    roundHalfEven (quotient * denominator) denominator = quotient := by
  simp only [roundHalfEven, Nat.mul_mod_left, Nat.mul_zero, if_pos positive,
    Nat.mul_div_cancel _ positive]

/-- Rounding depends on the quotient only. -/
theorem ofRatio_mul (negative : Bool) (numerator : Nat) {denominator factor : Nat}
    (denominatorPos : 0 < denominator) (factorPos : 0 < factor) :
    ofRatio negative (numerator * factor) (denominator * factor) =
      ofRatio negative numerator denominator := by
  rcases Nat.eq_zero_or_pos numerator with rfl | numeratorPos
  · rw [Nat.zero_mul]
    rfl
  · have scaledPos : 0 < numerator * factor := Nat.mul_pos numeratorPos factorPos
    have exponent : exponentFor (numerator * factor) (denominator * factor) =
        exponentFor numerator denominator :=
      (fits_exponentFor scaledPos (Nat.mul_pos denominatorPos factorPos)).unique
        ((fits_exponentFor numeratorPos denominatorPos).scale factorPos)
    simp only [ofRatio, Nat.pos_iff_ne_zero.mp scaledPos, Nat.pos_iff_ne_zero.mp numeratorPos,
      if_false, exponent, Nat.mul_right_comm _ factor, roundHalfEven_mul _ _ factorPos]

theorem ofRatio_eq_of_mul_eq (negative : Bool) {first second firstPart secondPart : Nat}
    (firstPos : 0 < firstPart) (secondPos : 0 < secondPart)
    (same : first * secondPart = second * firstPart) :
    ofRatio negative first firstPart = ofRatio negative second secondPart := by
  rw [← ofRatio_mul negative first firstPos secondPos, same, Nat.mul_comm firstPart,
    ofRatio_mul negative second secondPos firstPos]

theorem eq_signedZero {value : Finite} (zero : value.significand = 0) :
    value = .signedZero value.negative := by
  obtain ⟨negative, significand, exponent, canonical⟩ := value
  simp only at zero
  subst zero
  have least : exponent = -1074 := canonical.2.2.2.resolve_right (by decide)
  subst least
  rfl

/-- A quotient that equals a binary64 number is rounded to it. -/
theorem ofRatio_eq_finite {value : Finite} (denominatorPos : 0 < denominator)
    (exact : (numerator : ℚ) = value.significand * (denominator * 2 ^ value.exponent)) :
    ofRatio value.negative numerator denominator = .finite value := by
  have denominatorPosRat : (0 : ℚ) < denominator := by exact_mod_cast denominatorPos
  have unit : (0 : ℚ) < denominator * 2 ^ value.exponent := by positivity
  rcases Nat.eq_zero_or_pos value.significand with zero | positive
  · have none : numerator = 0 := by
      rw [zero, Nat.cast_zero, zero_mul] at exact
      exact_mod_cast exact
    rw [none, ofRatio, if_pos rfl, ← eq_signedZero zero]
  · have numeratorPos : 0 < numerator := by
      have : (0 : ℚ) < numerator := by
        rw [exact]
        positivity
      exact_mod_cast this
    rcases value.canonical with ⟨short, least, most, long⟩
    have fits : Fits numerator denominator value.exponent := by
      refine ⟨least, ?_, long.imp_right fun bound => ?_⟩
      · rw [exact]
        gcongr
        exact_mod_cast short
      · rw [exact]
        gcongr
        exact_mod_cast bound
    have exponent := (fits_exponentFor numeratorPos denominatorPos).unique fits
    have quotient := eq_mul_zpow_iff.mpr exact
    have scaledPos : 0 < denominator * Nat.pow 2 value.exponent.toNat :=
      Nat.mul_pos denominatorPos (Nat.pow_pos (by decide))
    rw [ofRatio, if_neg (Nat.pos_iff_ne_zero.mp numeratorPos)]
    simp only [exponent, quotient, roundHalfEven_exact _ scaledPos, Nat.ne_of_lt short, if_false]
    exact dif_pos value.canonical

end Binary64

end ImageCatalog.Number
