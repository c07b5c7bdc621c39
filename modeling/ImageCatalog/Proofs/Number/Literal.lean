import ImageCatalog.Number.Literal
import ImageCatalog.Proofs.Json.Portable

/-!
# Plain number texts

What number texts may have besides digits, a point and an exponent, does no harm where it is
missing: without blanks, underscores and the digits of other scripts, a number text is read as it
stands.
-/

namespace ImageCatalog.Number

open Json Text

variable {char : Char} {chars digits rest : List Char}

/-! ## Characters -/

theorem toNat_lt_of_isInk (ink : IsInk char) : char.toNat < 0x80 := by
  have upper : char.toNat ≤ 0x7E := ink.2
  omega

theorem isBlank_of_isInk (ink : IsInk char) : isBlank char = false := by
  have range : 0x20 < char.toNat ∧ char.toNat ≤ 0x7E := ink
  unfold isBlank isUnicodeSpace
  simp only [Bool.or_eq_false_iff, Bool.and_eq_false_iff, beq_eq_false_iff_ne,
    decide_eq_false_iff_not]
  omega

theorem trim_of_isInk (ink : ∀ char ∈ chars, IsInk char) : trim chars = chars :=
  trimBy_eq_self fun char member => isBlank_of_isInk (ink char member)

/-- The digits of ASCII are left as they are, and so is the rest of ASCII. -/
theorem toAsciiDigits_of_isInk (ink : ∀ char ∈ chars, IsInk char) :
    toAsciiDigits chars = chars := by
  unfold toAsciiDigits
  refine (List.map_congr_left fun char member => ?_).trans (List.map_id chars)
  by_cases isDigit : char.isDigit = true
  · have range := isDigit
    simp only [Char.isDigit, Bool.and_eq_true, decide_eq_true_eq, ge_iff_le,
      UInt32.le_iff_toNat_le] at range
    have lower : 48 ≤ char.toNat := range.1
    have same : 48 + (char.toNat - 48) = char.toNat := by omega
    simp only [digitValue?, toNat_lt_of_isInk (ink char member), isDigit, if_true, same,
      Char.ofNat_toNat, id_eq]
  · simp [digitValue?, toNat_lt_of_isInk (ink char member), isDigit]

/-! ## Whole numbers -/

theorem not_mem_of_areDigits (areDigits : AreDigits digits) (other : char.isDigit = false) :
    char ∉ digits := by
  intro member
  rw [areDigits char member] at other
  cases other

theorem splitSign_of_isDigit (isDigit : char.isDigit = true) (rest : List Char) :
    splitSign (char :: rest) = (false, char :: rest) := by
  unfold splitSign
  split
  · next same => cases (List.cons.inj same).1 ▸ isDigit
  · next same => cases (List.cons.inj same).1 ▸ isDigit
  · rfl

theorem ungroup?_of_areDigits (areDigits : AreDigits digits) (nonempty : digits ≠ []) :
    ungroup? digits = some digits := by
  induction digits with
  | nil => exact absurd rfl nonempty
  | cons first others hypothesis =>
      rw [AreDigits, List.forall_mem_cons] at areDigits
      cases others with
      | nil => simp [ungroup?, areDigits.1]
      | cons second more =>
          have notBar : second ≠ '_' := by
            rintro rfl
            cases areDigits.2 _ List.mem_cons_self
          have others := hypothesis areDigits.2 (List.cons_ne_nil _ _)
          rw [ungroup?, others, if_pos areDigits.1]
          · rfl
          · simp
          · intro _ same
            exact absurd (List.cons.inj same).1 notBar

theorem readWhole?_of_splitSign {negative : Bool} (ink : ∀ char ∈ chars, IsInk char)
    (parted : splitSign chars = (negative, digits)) (areDigits : AreDigits digits)
    (nonempty : digits ≠ []) :
    readWhole? chars =
      if digitLimit < digits.length then none
      else some (if negative then -(digitsToNat digits : Int) else digitsToNat digits) := by
  have trimmed : trimBy isUnicodeSpace chars = chars := by
    apply trimBy_eq_self
    intro char member
    have solid := isBlank_of_isInk (ink char member)
    exact (Bool.or_eq_false_iff.mp solid).1
  simp [readWhole?, trimmed, toAsciiDigits_of_isInk ink, parted,
    ungroup?_of_areDigits areDigits nonempty]

theorem isInk_of_areDigits (areDigits : AreDigits digits) : ∀ char ∈ digits, IsInk char := by
  intro char member
  exact (isBare_of_isDigit (areDigits char member)).isInk

/-- A row of digits is read as the number that it spells, unless it is too long. -/
theorem readWhole?_of_areDigits (areDigits : AreDigits digits) (nonempty : digits ≠ []) :
    readWhole? digits =
      if digitLimit < digits.length then none else some (digitsToNat digits : Int) := by
  have unsigned : splitSign digits = (false, digits) := by
    rcases List.exists_cons_of_ne_nil nonempty with ⟨first, others, rfl⟩
    exact splitSign_of_isDigit (areDigits first List.mem_cons_self) others
  exact readWhole?_of_splitSign (isInk_of_areDigits areDigits) unsigned areDigits nonempty

theorem isInk_intChars (number : Int) : ∀ char ∈ intChars number, IsInk char := by
  have digits := isInk_of_areDigits (areDigits_natDigits number.natAbs)
  unfold intChars
  split
  · exact List.forall_mem_cons.mpr ⟨by decide, digits⟩
  · exact digits

/-- The text of a number is read as that number. -/
theorem readWhole?_intChars {number : Int} (short : number.natAbs < Nat.pow 10 digitLimit) :
    readWhole? (intChars number) = some number := by
  have areDigits := areDigits_natDigits number.natAbs
  have nonempty : natDigits number.natAbs ≠ [] := Nat.toDigits_ne_nil
  have within := length_natDigits_le (by decide) short
  have spelt := digitsToNat_natDigits number.natAbs
  by_cases negative : number < 0
  · have chars : intChars number = '-' :: natDigits number.natAbs := if_pos negative
    have parted : splitSign (intChars number) = (true, natDigits number.natAbs) := by
      rw [chars]
      rfl
    rw [readWhole?_of_splitSign (isInk_intChars number) parted areDigits nonempty, spelt,
      if_neg (Nat.not_lt.mpr within), if_pos rfl]
    congr 1
    omega
  · have chars : intChars number = natDigits number.natAbs := if_neg negative
    rw [chars, readWhole?_of_areDigits areDigits nonempty, spelt, if_neg (Nat.not_lt.mpr within)]
    congr 1
    omega

/-! ## Real numbers -/

theorem splitSign_signChars (exponent : Exponent) :
    splitSign (exponent.signChars ++ exponent.digits) =
      (decide (exponent.negative? = some true), exponent.digits) := by
  rcases exponent with ⟨capital, negative?, digits, areDigits, nonempty⟩
  cases negative? with
  | none =>
      rcases List.exists_cons_of_ne_nil nonempty with ⟨first, others, rfl⟩
      exact splitSign_of_isDigit (areDigits first List.mem_cons_self) others
  | some negative => cases negative <;> rfl

theorem readExponent?_chars (exponent : Exponent) :
    readExponent? exponent.chars = some exponent.value := by
  have mark : (decide ((if exponent.capital then 'E' else 'e') = 'e') ||
      decide ((if exponent.capital then 'E' else 'e') = 'E')) = true := by
    cases exponent.capital <;> decide
  have digits : (!exponent.digits.isEmpty && exponent.digits.all Char.isDigit) = true := by
    rw [List.isEmpty_eq_false_iff.mpr exponent.nonempty]
    exact List.all_eq_true.mpr exponent.areDigits
  simp only [Exponent.chars, readExponent?, splitSign_signChars, mark, digits, if_true,
    Exponent.value, decide_eq_true_eq]

/-- A number with a fraction is read as the decimal that its parts denote. -/
theorem readUnsigned?_parts {whole fraction : List Char} (isWhole : IsWhole whole)
    (areDigits : AreDigits fraction) (exponent? : Option Exponent) :
    readUnsigned? (whole ++ '.' :: (fraction ++ (exponent?.map Exponent.chars).getD [])) =
      some ⟨whole, fraction, (exponent?.map Exponent.value).getD 0⟩ := by
  have point : ∀ char ∈ ('.' :: (fraction ++ (exponent?.map Exponent.chars).getD [])).head?,
      char.isDigit = false := by
    rintro char ⟨⟩
    rfl
  have mark : ∀ char ∈ ((exponent?.map Exponent.chars).getD []).head?, char.isDigit = false := by
    cases exponent? with
    | none => simp
    | some exponent =>
        rintro char ⟨⟩
        cases exponent.capital <;> rfl
  have exponent : readExponent? ((exponent?.map Exponent.chars).getD []) =
      some ((exponent?.map Exponent.value).getD 0) := by
    cases exponent? with
    | none => rfl
    | some exponent => exact readExponent?_chars exponent
  have nonempty : (whole.isEmpty && fraction.isEmpty) = false := by
    rw [List.isEmpty_eq_false_iff.mpr isWhole.nonempty]
    rfl
  simp only [readUnsigned?, takeWhile_digits isWhole.digits point,
    dropWhile_digits isWhole.digits point, takeWhile_digits areDigits mark,
    dropWhile_digits areDigits mark, nonempty, exponent]
  rfl

end ImageCatalog.Number
