import ImageCatalog.Number.Literal
import ImageCatalog.Proofs.Number.Decimal

/-!
# Numbers out of range

Rounding gives an infinity exactly for the quotients that are at least halfway from the greatest
finite binary64 number to the power of two after it, since the tie goes to that power. A decimal
that is settled by its length alone, without being rounded, lies on the side that its length says.
So a decimal is read as an infinity exactly if it reaches the same bound, and never as
not-a-number.
-/

namespace ImageCatalog.Number

/-- Halfway from the greatest finite number to the power of two after it. -/
def overflowBound : ℚ := (2 ^ 53 - 1 / 2) * 2 ^ (971 : Int)

theorem overflowBound_pos : 0 < overflowBound := by
  have unit : (0 : ℚ) < 2 ^ (971 : Int) := by positivity
  apply mul_pos _ unit
  norm_num

namespace Binary64

/-! ## Rounding to a limit -/

theorem div_le_roundHalfEven (numerator denominator : Nat) :
    numerator / denominator ≤ roundHalfEven numerator denominator := by
  simp only [roundHalfEven]
  split
  · exact Nat.le_refl _
  · split <;> omega

theorem roundHalfEven_le (numerator denominator : Nat) :
    roundHalfEven numerator denominator ≤ numerator / denominator + 1 := by
  simp only [roundHalfEven]
  split
  · exact Nat.le_succ _
  · split <;> omega

/-- A quotient below an even limit is rounded up to it exactly if it is at most one half away. -/
theorem roundHalfEven_eq_limit_iff {limit numerator denominator : Nat} (even : limit % 2 = 0)
    (below : numerator < limit * denominator) :
    roundHalfEven numerator denominator = limit ↔
      (2 * limit - 1) * denominator ≤ 2 * numerator := by
  have positive : 0 < denominator := by
    apply Nat.pos_of_ne_zero
    rintro rfl
    simp at below
  have quotient : numerator / denominator < limit := (Nat.div_lt_iff_lt_mul positive).mpr below
  have parts : denominator * (numerator / denominator) + numerator % denominator = numerator :=
    Nat.div_add_mod numerator denominator
  have rest : numerator % denominator < denominator := Nat.mod_lt _ positive
  simp only [roundHalfEven]
  generalize numerator / denominator = whole at quotient parts ⊢
  generalize numerator % denominator = remainder at parts rest ⊢
  obtain ⟨last, rfl⟩ : ∃ last, limit = last + 1 := ⟨limit - 1, by omega⟩
  have odd : 2 * (last + 1) - 1 = 2 * last + 1 := by omega
  rw [odd, ← parts]
  rcases Nat.lt_or_eq_of_le (Nat.le_of_lt_succ quotient) with less | rfl
  · -- Even the next whole number is no more than the one before the limit.
    have short : (2 * last + 1) * denominator > 2 * (denominator * whole + remainder) := by
      have : denominator * (whole + 1) ≤ denominator * last := Nat.mul_le_mul_left _ less
      nlinarith
    constructor
    · intro reaches
      split at reaches
      · omega
      · split at reaches <;> omega
    · intro large
      omega
  · have distance : (2 * whole + 1) * denominator ≤ 2 * (denominator * whole + remainder) ↔
        denominator ≤ 2 * remainder := by
      have : (2 * whole + 1) * denominator = 2 * (denominator * whole) + denominator := by ring
      omega
    rw [distance]
    split
    · omega
    · split <;> omega

/-! ## Quotients -/

theorem ofParts_eq_infinite_iff {negative sign : Bool} {significand : Nat} {exponent : Int} :
    ofParts negative significand exponent = .infinite sign ↔
      sign = negative ∧ ¬IsCanonical significand exponent := by
  unfold ofParts
  split
  · next canonical => simp [canonical]
  · next beyond => simp [beyond, eq_comm]

section

variable {numerator denominator : Nat} {exponent : Int}

/-- A smaller exponent means at most half the unit. -/
theorem two_mul_unit_le {lower upper : Int} (less : lower < upper) (denominator : Nat) :
    2 * ((denominator : ℚ) * 2 ^ lower) ≤ denominator * 2 ^ upper := by
  have power : (2 : ℚ) ^ (lower + 1) ≤ 2 ^ upper := zpow_le_zpow_right₀ (by norm_num) less
  have doubled : (2 : ℚ) ^ (lower + 1) = 2 ^ lower * 2 := zpow_add_one₀ (by norm_num) lower
  calc 2 * ((denominator : ℚ) * 2 ^ lower) = denominator * 2 ^ (lower + 1) := by
        rw [doubled]
        ring
    _ ≤ denominator * 2 ^ upper := by gcongr

/-- A quotient with the exponent of the greatest finite number reaches the bound exactly if its
significand is at most one half from having a bit too many; with a greater exponent every quotient
reaches it, with a smaller one none does. -/
theorem overflowBound_le_iff (denominatorPos : 0 < denominator)
    (fits : Fits numerator denominator exponent) :
    overflowBound * denominator ≤ numerator ↔ 971 < exponent ∨ exponent = 971 ∧
      (2 * 2 ^ 53 - 1) * (denominator * Nat.pow 2 exponent.toNat) ≤
        2 * (numerator * Nat.pow 2 (-exponent).toNat) := by
  have positive : (0 : ℚ) < denominator := by exact_mod_cast denominatorPos
  have bound : overflowBound * denominator =
      (2 ^ 53 - 1 / 2) * (denominator * 2 ^ (971 : Int)) := by
    unfold overflowBound
    ring
  have unit : (0 : ℚ) < denominator * 2 ^ (971 : Int) := by positivity
  rw [bound, ← Nat.mul_assoc 2 numerator]
  rcases lt_trichotomy exponent 971 with less | same | greater
  · have half := two_mul_unit_le less denominator
    have upper := fits.upper
    generalize (denominator : ℚ) * 2 ^ (971 : Int) = limit at half unit ⊢
    generalize (denominator : ℚ) * 2 ^ exponent = own at half upper
    constructor
    · intro reaches
      linarith
    · intro large
      omega
  · have distance : (2 ^ 53 - 1 / 2 : ℚ) * (denominator * 2 ^ exponent) ≤ numerator ↔
        ((2 * 2 ^ 53 - 1 : Nat) : ℚ) * (denominator * 2 ^ exponent) ≤ (2 * numerator : Nat) := by
      generalize (denominator : ℚ) * 2 ^ exponent = own
      push_cast
      constructor <;> intro reaches <;> linarith
    rw [← same, distance, ← mul_zpow_le_iff]
    omega
  · have half := two_mul_unit_le greater denominator
    have lower := fits.lower.resolve_left (by omega)
    generalize (denominator : ℚ) * 2 ^ (971 : Int) = limit at half unit ⊢
    generalize (denominator : ℚ) * 2 ^ exponent = own at half lower
    refine iff_of_true ?_ (.inl greater)
    linarith

theorem scaled_lt_of_fits (fits : Fits numerator denominator exponent) :
    numerator * Nat.pow 2 (-exponent).toNat <
      2 ^ 53 * (denominator * Nat.pow 2 exponent.toNat) := by
  apply lt_mul_zpow_iff.mpr
  exact_mod_cast fits.upper

theorem roundHalfEven_le_of_fits (denominatorPos : 0 < denominator)
    (fits : Fits numerator denominator exponent) :
    roundHalfEven (numerator * Nat.pow 2 (-exponent).toNat)
      (denominator * Nat.pow 2 exponent.toNat) ≤ 2 ^ 53 := by
  have scaledPos : 0 < denominator * Nat.pow 2 exponent.toNat :=
    Nat.mul_pos denominatorPos (Nat.pow_pos (by decide))
  have below := (Nat.div_lt_iff_lt_mul scaledPos).mpr (scaled_lt_of_fits fits)
  have next := roundHalfEven_le (numerator * Nat.pow 2 (-exponent).toNat)
    (denominator * Nat.pow 2 exponent.toNat)
  omega

/-- Only with the least exponent a significand has less than 53 bits. -/
theorem le_roundHalfEven_of_fits (denominatorPos : 0 < denominator)
    (fits : Fits numerator denominator exponent) :
    exponent = -1074 ∨ 2 ^ 52 ≤ roundHalfEven (numerator * Nat.pow 2 (-exponent).toNat)
      (denominator * Nat.pow 2 exponent.toNat) := by
  have scaledPos : 0 < denominator * Nat.pow 2 exponent.toNat :=
    Nat.mul_pos denominatorPos (Nat.pow_pos (by decide))
  refine fits.lower.imp_right fun bound => ?_
  refine Nat.le_trans ?_ (div_le_roundHalfEven _ _)
  rw [Nat.le_div_iff_mul_le scaledPos]
  apply mul_zpow_le_iff.mpr
  exact_mod_cast bound

/-- A quotient is rounded out of range exactly if it reaches the bound. -/
theorem ofRatio_eq_infinite_iff {negative sign : Bool} (denominatorPos : 0 < denominator) :
    ofRatio negative numerator denominator = .infinite sign ↔
      sign = negative ∧ overflowBound * denominator ≤ numerator := by
  rcases Nat.eq_zero_or_pos numerator with rfl | numeratorPos
  · have positive : (0 : ℚ) < denominator := by exact_mod_cast denominatorPos
    have bound := mul_pos overflowBound_pos positive
    simp [ofRatio, bound]
  · have fits := fits_exponentFor numeratorPos denominatorPos
    have nonzero := Nat.pos_iff_ne_zero.mp numeratorPos
    rw [overflowBound_le_iff denominatorPos fits,
      ← roundHalfEven_eq_limit_iff (by decide) (scaled_lt_of_fits fits)]
    simp only [ofRatio, nonzero, if_false]
    generalize exponentFor numerator denominator = exponent at fits ⊢
    have long := le_roundHalfEven_of_fits denominatorPos fits
    have atMost := roundHalfEven_le_of_fits denominatorPos fits
    have least := fits.least
    generalize roundHalfEven (numerator * Nat.pow 2 (-exponent).toNat)
      (denominator * Nat.pow 2 exponent.toNat) = significand at long atMost
    split
    · next same =>
        rw [ofParts_eq_infinite_iff]
        apply and_congr_right
        intro _
        simp only [IsCanonical, Nat.pow_eq] at same ⊢
        omega
    · next less =>
        rw [ofParts_eq_infinite_iff]
        apply and_congr_right
        intro _
        simp only [IsCanonical, Nat.pow_eq] at less ⊢
        omega

end

/-! ## Decimals -/

theorem overflowBound_le_pow_ten : overflowBound ≤ 10 ^ (400 : Int) := by
  have eight : (2 : ℚ) ^ (1200 : Int) = 8 ^ (400 : Int) := by
    have base : (8 : ℚ) = 2 ^ (3 : Int) := by norm_num
    rw [base, ← zpow_mul]
    norm_num
  calc overflowBound ≤ 2 ^ (53 : Int) * 2 ^ (971 : Int) := by
        unfold overflowBound
        gcongr
        norm_num
    _ = 2 ^ (1024 : Int) := by
        rw [← zpow_add₀ (by norm_num)]
        norm_num
    _ ≤ 2 ^ (1200 : Int) := zpow_le_zpow_right₀ (by norm_num) (by norm_num)
    _ = 8 ^ (400 : Int) := eight
    _ ≤ 10 ^ (400 : Int) := zpow_le_zpow_left₀ (by norm_num) (by norm_num) (by norm_num)

theorem one_le_overflowBound : 1 ≤ overflowBound := by
  have unit : (1 : ℚ) ≤ 2 ^ (971 : Int) := one_le_zpow₀ (by norm_num) (by norm_num)
  unfold overflowBound
  generalize (2 : ℚ) ^ (971 : Int) = power at unit ⊢
  linarith

/-- A number lies between the powers of ten that its digits name. -/
theorem digitCount_bounds {digits : Nat} (positive : 0 < digits) :
    (10 : ℚ) ^ (digitCount digits - 1 : Int) ≤ digits ∧
      (digits : ℚ) < 10 ^ (digitCount digits : Int) := by
  have some : 0 < digitCount digits := List.length_pos_of_ne_nil Nat.toDigits_ne_nil
  have upper : digits < 10 ^ digitCount digits :=
    (Nat.length_toDigits_le_iff (by decide) some).mp (Nat.le_refl _)
  have lower : 10 ^ (digitCount digits - 1) ≤ digits := by
    rcases Nat.eq_zero_or_pos (digitCount digits - 1) with zero | more
    · rw [zero]
      exact positive
    · apply Nat.le_of_not_lt
      intro short
      have fewer := (Nat.length_toDigits_le_iff (by decide) more).mpr short
      unfold digitCount at some fewer
      omega
  constructor
  · have exponent : (digitCount digits - 1 : Int) = ((digitCount digits - 1 : Nat) : Int) := by
      omega
    rw [exponent, zpow_natCast]
    exact_mod_cast lower
  · rw [zpow_natCast]
    exact_mod_cast upper

section

variable {digits : Nat} {exponent : Int}

theorem overflowBound_le_of_large (positive : 0 < digits)
    (large : 400 < (digitCount digits : Int) + exponent) :
    overflowBound ≤ digits * 10 ^ exponent := by
  have lower := (digitCount_bounds positive).1
  calc overflowBound ≤ 10 ^ (400 : Int) := overflowBound_le_pow_ten
    _ ≤ 10 ^ (digitCount digits - 1 + exponent : Int) :=
        zpow_le_zpow_right₀ (by norm_num) (by omega)
    _ = 10 ^ (digitCount digits - 1 : Int) * 10 ^ exponent := zpow_add₀ (by norm_num) _ _
    _ ≤ digits * 10 ^ exponent := by gcongr

theorem lt_overflowBound_of_small (positive : 0 < digits)
    (small : (digitCount digits : Int) + exponent < -400) :
    digits * 10 ^ exponent < overflowBound := by
  have upper := (digitCount_bounds positive).2
  calc (digits : ℚ) * 10 ^ exponent < 10 ^ (digitCount digits : Int) * 10 ^ exponent := by gcongr
    _ = 10 ^ (digitCount digits + exponent : Int) := (zpow_add₀ (by norm_num) _ _).symm
    _ ≤ 10 ^ (0 : Int) := zpow_le_zpow_right₀ (by norm_num) (by omega)
    _ = 1 := zpow_zero _
    _ ≤ overflowBound := one_le_overflowBound

/-- The bound for a decimal, and for the quotient of whole numbers that it is. -/
theorem overflowBound_le_quotient_iff :
    overflowBound * (Nat.pow 10 (-exponent).toNat : Nat) ≤
        (digits * Nat.pow 10 exponent.toNat : Nat) ↔
      overflowBound ≤ digits * 10 ^ exponent := by
  have power : (10 : ℚ) ^ exponent * 10 ^ (-exponent).toNat = 10 ^ exponent.toNat := by
    rw [← zpow_natCast, ← zpow_natCast, ← zpow_add₀ (by norm_num)]
    congr 1
    omega
  have unit : (0 : ℚ) < 10 ^ (-exponent).toNat := by positivity
  simp only [Nat.pow_eq]
  push_cast
  rw [← power, ← mul_assoc]
  exact mul_le_mul_iff_left₀ unit

/-- A decimal is read as an infinity exactly if it reaches the bound. -/
theorem ofDecimal_eq_infinite_iff {negative sign : Bool} :
    ofDecimal negative digits exponent = .infinite sign ↔
      sign = negative ∧ overflowBound ≤ digits * 10 ^ exponent := by
  rcases Nat.eq_zero_or_pos digits with rfl | positive
  · have bound := overflowBound_pos
    simp [ofDecimal, bound]
  · have nonzero := Nat.pos_iff_ne_zero.mp positive
    by_cases large : 400 < (digitCount digits : Int) + exponent
    · have reaches := overflowBound_le_of_large positive large
      have infinite : ofDecimal negative digits exponent = .infinite negative := by
        unfold digitCount at large
        simp only [ofDecimal, nonzero, if_false, large, if_true]
      simp [infinite, reaches, eq_comm]
    · by_cases small : (digitCount digits : Int) + exponent < -400
      · have short := lt_overflowBound_of_small positive small
        have zero : ofDecimal negative digits exponent = .finite (.signedZero negative) := by
          unfold digitCount at large small
          simp only [ofDecimal, nonzero, if_false, large, small, if_true]
        simp [zero, short]
      · have denominatorPos : 0 < Nat.pow 10 (-exponent).toNat := Nat.pow_pos (by decide)
        rw [ofDecimal_eq_ofRatio negative nonzero (by omega) (by omega),
          ofRatio_eq_infinite_iff denominatorPos, overflowBound_le_quotient_iff]

end

theorem ofParts_ne_notANumber (negative : Bool) (significand : Nat) (exponent : Int) :
    ofParts negative significand exponent ≠ .notANumber := by
  unfold ofParts
  split <;> exact Binary64.noConfusion

theorem ofRatio_ne_notANumber (negative : Bool) (numerator denominator : Nat) :
    ofRatio negative numerator denominator ≠ .notANumber := by
  simp only [ofRatio]
  split
  · exact Binary64.noConfusion
  · split <;> exact ofParts_ne_notANumber _ _ _

theorem ofDecimal_ne_notANumber (negative : Bool) (digits : Nat) (exponent : Int) :
    ofDecimal negative digits exponent ≠ .notANumber := by
  simp only [ofDecimal]
  split
  · exact Binary64.noConfusion
  · split
    · exact Binary64.noConfusion
    · split
      · exact Binary64.noConfusion
      · exact ofRatio_ne_notANumber _ _ _

end Binary64

end ImageCatalog.Number
