import ImageCatalog.Number.Shortest
import ImageCatalog.Proofs.Number.Rounding

/-!
# Decimals that read back

The decimal that a binary64 number is written as is read as that number. The search for a short one
checks this by itself, and the exact decimal, which stands in if the search finds nothing, is a
quotient equal to the number. Zeros at the end of the digits may be moved into the exponent, since
this changes neither the length of the decimal nor its value.
-/

namespace ImageCatalog.Number

/-! ## Zeros at the end -/

theorem toDigits_mul_pow {number : Nat} (positive : 0 < number) (zeros : Nat) :
    Nat.toDigits 10 (number * Nat.pow 10 zeros) =
      Nat.toDigits 10 number ++ List.replicate zeros '0' := by
  induction zeros with
  | zero => simp
  | succ zeros hypothesis =>
      have shifted : number * Nat.pow 10 (zeros + 1) = 10 * (number * Nat.pow 10 zeros) + 0 := by
        simp only [Nat.pow_eq, pow_succ]
        ring
      have scaledPos : 0 < number * Nat.pow 10 zeros :=
        Nat.mul_pos positive (Nat.pow_pos (by decide))
      rw [shifted, ← Nat.toDigits_append_toDigits (by decide) scaledPos (by decide), hypothesis,
        List.append_assoc, List.replicate_succ']
      rfl

namespace Binary64

theorem ofDecimal_mul_pow (negative : Bool) (digits zeros : Nat) (exponent : Int) :
    ofDecimal negative (digits * Nat.pow 10 zeros) exponent =
      ofDecimal negative digits (exponent + zeros) := by
  rcases Nat.eq_zero_or_pos digits with rfl | positive
  · rw [Nat.zero_mul]
    rfl
  · have scaledPos : 0 < digits * Nat.pow 10 zeros :=
      Nat.mul_pos positive (Nat.pow_pos (by decide))
    have length : ((Nat.toDigits 10 (digits * Nat.pow 10 zeros)).length : Int) + exponent =
        (Nat.toDigits 10 digits).length + (exponent + zeros) := by
      rw [toDigits_mul_pow positive, List.length_append, List.length_replicate]
      push_cast
      ring
    have quotient :
        ofRatio negative (digits * Nat.pow 10 zeros * Nat.pow 10 exponent.toNat)
            (Nat.pow 10 (-exponent).toNat) =
          ofRatio negative (digits * Nat.pow 10 (exponent + zeros).toNat)
            (Nat.pow 10 (-(exponent + zeros)).toNat) := by
      apply ofRatio_eq_of_mul_eq negative (Nat.pow_pos (by decide)) (Nat.pow_pos (by decide))
      simp only [Nat.pow_eq, mul_assoc, ← pow_add]
      congr 2
      omega
    simp only [ofDecimal, Nat.pos_iff_ne_zero.mp scaledPos, Nat.pos_iff_ne_zero.mp positive,
      if_false, length, quotient]

/-- A decimal that is neither far too large nor far too small is rounded as a quotient. -/
theorem ofDecimal_eq_ofRatio (negative : Bool) {digits : Nat} {exponent : Int} (some : digits ≠ 0)
    (notLarge : digitCount digits + exponent ≤ 400)
    (notSmall : -400 ≤ digitCount digits + exponent) :
    ofDecimal negative digits exponent =
      ofRatio negative (digits * Nat.pow 10 exponent.toNat) (Nat.pow 10 (-exponent).toNat) := by
  unfold digitCount at notLarge notSmall
  unfold ofDecimal
  simp only
  rw [if_neg some, if_neg (by omega), if_neg (by omega)]

end Binary64

/-! ## The exact decimal -/

theorem numerator_lt_pow_ten (value : Finite) {limit : Nat} (most : 53 + 971 ≤ 3 * limit) :
    value.numerator < Nat.pow 10 limit := by
  have bound := value.canonical.2.2.1
  calc value.numerator < Nat.pow 2 (53 + value.exponent.toNat) := value.numerator_lt
    _ ≤ Nat.pow 2 (3 * limit) := Nat.pow_le_pow_right (by decide) (by omega)
    _ = Nat.pow 8 limit := Nat.pow_mul 2 3 limit
    _ ≤ Nat.pow 10 limit := Nat.pow_le_pow_left (by decide) _

theorem exponent_ge (value : Finite) : (-value.exponent).toNat ≤ 1074 := by
  have := value.canonical.2.1
  omega

/-- The digits of the exact decimal are not so few that it would count as zero. -/
theorem pow_ten_le_pow_five {places spared : Nat} (large : spared ≤ places)
    (small : places ≤ 3 * spared) : Nat.pow 10 (places - spared) ≤ Nat.pow 5 places := by
  simp only [Nat.pow_eq]
  calc 10 ^ (places - spared) = 2 ^ (places - spared) * 5 ^ (places - spared) := by
        rw [← Nat.mul_pow]
    _ ≤ 2 ^ (2 * spared) * 5 ^ (places - spared) :=
        Nat.mul_le_mul_right _ (Nat.pow_le_pow_right (by decide) (by omega))
    _ ≤ 5 ^ spared * 5 ^ (places - spared) :=
        Nat.mul_le_mul_right _ (by rw [Nat.pow_mul]; exact Nat.pow_le_pow_left (by decide) _)
    _ = 5 ^ places := by rw [← Nat.pow_add, Nat.add_sub_cancel' large]

theorem length_exactDecimal {value : Finite} (positive : 0 < value.significand) {limit : Nat}
    (enough : 358 ≤ limit) :
    digitCount (exactDecimal value).digits ≤ limit + (-value.exponent).toNat ∧
      (-value.exponent).toNat ≤ limit + digitCount (exactDecimal value).digits := by
  have small := exponent_ge value
  simp only [exactDecimal, digitCount]
  generalize (-value.exponent).toNat = places at small ⊢
  constructor
  · rw [Nat.length_toDigits_le_iff (by decide) (by omega)]
    simp only [← Nat.pow_eq]
    calc value.numerator * Nat.pow 5 places < Nat.pow 10 limit * Nat.pow 5 places :=
          Nat.mul_lt_mul_of_pos_right (numerator_lt_pow_ten value (by omega))
            (Nat.pow_pos (by decide))
      _ ≤ Nat.pow 10 limit * Nat.pow 10 places :=
          Nat.mul_le_mul_left _ (Nat.pow_le_pow_left (by decide) _)
      _ = Nat.pow 10 (limit + places) := (Nat.pow_add 10 limit places).symm
  · by_contra few
    have numeratorPos : 0 < value.numerator := Nat.mul_pos positive (Nat.pow_pos (by decide))
    have short :
        (Nat.toDigits 10 (value.numerator * Nat.pow 5 places)).length ≤ places - limit := by
      omega
    rw [Nat.length_toDigits_le_iff (by decide) (by omega), ← Nat.pow_eq] at short
    have wide : Nat.pow 10 (places - limit) ≤ Nat.pow 5 places :=
      pow_ten_le_pow_five (by omega) (by omega)
    have narrow := Nat.le_mul_of_pos_left (Nat.pow 5 places) numeratorPos
    omega

/-- The exact decimal of a number is read as the number. -/
theorem ofDecimal_exactDecimal {value : Finite} (positive : 0 < value.significand) :
    Binary64.ofDecimal value.negative (exactDecimal value).digits (exactDecimal value).exponent =
      .finite value := by
  have lengths := length_exactDecimal positive (show 358 ≤ 400 by decide)
  have numeratorPos : 0 < value.numerator := Nat.mul_pos positive (Nat.pow_pos (by decide))
  have some : (exactDecimal value).digits ≠ 0 :=
    Nat.pos_iff_ne_zero.mp (Nat.mul_pos numeratorPos (Nat.pow_pos (by decide)))
  have scale : (exactDecimal value).exponent = -((-value.exponent).toNat : Int) := rfl
  rw [Binary64.ofDecimal_eq_ofRatio _ some (by omega) (by omega), scale, Int.toNat_neg_natCast,
    Int.neg_neg, Int.toNat_natCast]
  apply Binary64.ofRatio_eq_finite (Nat.pow_pos (by decide))
  rw [mul_zpow_eq_div, eq_div_iff (by positivity)]
  simp only [exactDecimal, Finite.numerator, Nat.pow_eq]
  push_cast
  rw [show (10 : ℚ) = 2 * 5 by norm_num, mul_pow]
  ring

/-! ## The shortest decimal -/

theorem Decimal.readsAs_iff {decimal : Decimal} {value : Finite} :
    decimal.readsAs value = true ↔
      Binary64.ofDecimal value.negative decimal.digits decimal.exponent = .finite value := by
  rw [Decimal.readsAs, beq_iff_eq]

theorem readsAs_of_decimalOfLength? {value : Finite} {leading : Int} {length : Nat}
    {decimal : Decimal} (found : decimalOfLength? value leading length = some decimal) :
    decimal.readsAs value = true := by
  have either {candidates : Decimal × Decimal}
      (chosen : (if candidates.1.readsAs value then some candidates.1
        else if candidates.2.readsAs value then some candidates.2 else none) = some decimal) :
      decimal.readsAs value = true := by
    split at chosen
    · next reads => exact Option.some.inj chosen ▸ reads
    · split at chosen
      · next reads => exact Option.some.inj chosen ▸ reads
      · cases chosen
  exact either found

/-- The shortest decimal of a number is read as the number. -/
theorem ofDecimal_shortest {value : Finite} (positive : 0 < value.significand) :
    Binary64.ofDecimal value.negative (shortest value).digits (shortest value).exponent =
      .finite value := by
  unfold shortest
  simp only
  rcases found : (List.range 17).findSome? fun length =>
      decimalOfLength? value (leadingExponent value.numerator value.denominator) (length + 1)
    with _ | decimal
  · exact ofDecimal_exactDecimal positive
  · rcases List.exists_of_findSome?_eq_some found with ⟨length, _, ofLength⟩
    exact Decimal.readsAs_iff.mp (readsAs_of_decimalOfLength? ofLength)

/-! ## Signs -/

namespace Binary64

theorem negate_ofParts (negative : Bool) (significand : Nat) (exponent : Int) :
    (ofParts negative significand exponent).negate = ofParts (!negative) significand exponent := by
  unfold ofParts
  split <;> rfl

theorem negate_ofRatio (negative : Bool) (numerator denominator : Nat) :
    (ofRatio negative numerator denominator).negate =
      ofRatio (!negative) numerator denominator := by
  simp only [ofRatio]
  split
  · rfl
  · split <;> exact negate_ofParts negative _ _

/-- The sign of a decimal does not matter for how it is rounded. -/
theorem negate_ofDecimal (negative : Bool) (digits : Nat) (exponent : Int) :
    (ofDecimal negative digits exponent).negate = ofDecimal (!negative) digits exponent := by
  simp only [ofDecimal]
  split
  · rfl
  · split
    · rfl
    · split
      · rfl
      · exact negate_ofRatio negative _ _

end Binary64

end ImageCatalog.Number
