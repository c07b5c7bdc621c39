import ImageCatalog.Json.Reader
import ImageCatalog.Json.Writer
import ImageCatalog.Proofs.Json.Reading
import ImageCatalog.Proofs.Number.Decimal

/-!
# Reading numbers back

The reader takes a number apart into the digits before the point, a fraction and an exponent.
`readNumber_real` and `readNumber_whole` say what it makes of a text that is put together from such
parts, whatever follows. Both ways of laying out a decimal are of this form, and in both the parts
denote the decimal with its zeros moved into the exponent, so that a written number is read as the
number that its shortest decimal reads as, which is the number itself.
-/

namespace ImageCatalog.Json

open Number Results Text

/-! ## Digits -/

/-- All characters are digits. -/
def AreDigits (chars : List Char) : Prop :=
  ∀ char ∈ chars, char.isDigit = true

instance (chars : List Char) : Decidable (AreDigits chars) :=
  decidable_of_iff (chars.all Char.isDigit = true) List.all_eq_true

/-- The characters do not go on with a number. -/
structure EndsNumber (rest : List Char) : Prop where
  digit : ∀ char ∈ rest.head?, char.isDigit = false
  point : rest.head? ≠ some '.'
  small : rest.head? ≠ some 'e'
  capital : rest.head? ≠ some 'E'

/-- The characters may stand before the point of a number: a zero alone, or digits that start with
another one. -/
structure IsWhole (chars : List Char) : Prop where
  digits : AreDigits chars
  nonempty : chars ≠ []
  plain : chars = ['0'] ∨ chars.head? ≠ some '0'

instance (chars : List Char) : Decidable (IsWhole chars) :=
  decidable_of_iff (AreDigits chars ∧ chars ≠ [] ∧ (chars = ['0'] ∨ chars.head? ≠ some '0'))
    ⟨fun all => ⟨all.1, all.2.1, all.2.2⟩, fun whole => ⟨whole.digits, whole.nonempty, whole.plain⟩⟩

variable {digits fraction rest : List Char}

theorem takeWhile_digits (areDigits : AreDigits digits)
    (ends : ∀ char ∈ rest.head?, char.isDigit = false) :
    (digits ++ rest).takeWhile Char.isDigit = digits := by
  rw [List.takeWhile_append_of_pos areDigits]
  cases rest with
  | nil => simp
  | cons char others => simp [ends char rfl]

theorem dropWhile_digits (areDigits : AreDigits digits)
    (ends : ∀ char ∈ rest.head?, char.isDigit = false) :
    (digits ++ rest).dropWhile Char.isDigit = rest := by
  rw [List.dropWhile_append_of_pos areDigits]
  cases rest with
  | nil => rfl
  | cons char others => simp [ends char rfl]

theorem splitWhole_append (isWhole : IsWhole digits)
    (ends : ∀ char ∈ rest.head?, char.isDigit = false) :
    splitWhole (digits ++ rest) = (digits, rest) := by
  rcases isWhole.plain with rfl | notZero
  · rfl
  · unfold splitWhole
    split
    · next others zero =>
        cases digits with
        | nil => exact absurd rfl isWhole.nonempty
        | cons digit others =>
            rw [List.cons_append, List.cons.injEq] at zero
            exact absurd (congrArg some zero.1) notZero
    · rw [takeWhile_digits isWhole.digits ends, dropWhile_digits isWhole.digits ends]

theorem splitFraction_point (areDigits : AreDigits fraction) (some : fraction ≠ [])
    (ends : ∀ char ∈ rest.head?, char.isDigit = false) :
    splitFraction ('.' :: (fraction ++ rest)) = (fraction, rest) := by
  have kept : fraction.isEmpty = false := List.isEmpty_eq_false_iff.mpr some
  simp only [splitFraction, takeWhile_digits areDigits ends, dropWhile_digits areDigits ends, kept]
  rfl

theorem splitFraction_of_ne (noPoint : rest.head? ≠ some '.') :
    splitFraction rest = ([], rest) := by
  unfold splitFraction
  split
  · exact absurd rfl noPoint
  · rfl

theorem splitExponent_of_endsNumber (ends : EndsNumber rest) :
    splitExponent rest = (none, rest) := by
  unfold splitExponent
  split
  · next mark others =>
      rw [if_neg]
      rintro (rfl | rfl)
      · exact ends.small rfl
      · exact ends.capital rfl
  · rfl

theorem splitExponent_mark (negative : Bool) (areDigits : AreDigits digits) (some : digits ≠ [])
    (ends : ∀ char ∈ rest.head?, char.isDigit = false) :
    splitExponent ('e' :: (if negative then '-' else '+') :: (digits ++ rest)) =
      (.some (if negative then -(digitsToNat digits : Int) else digitsToNat digits), rest) := by
  have kept : digits.isEmpty = false := List.isEmpty_eq_false_iff.mpr some
  cases negative <;>
    simp [splitExponent, splitExponentSign, takeWhile_digits areDigits ends,
      dropWhile_digits areDigits ends, kept]

/-! ## Numbers in parts -/

/-- The digits of a fraction with the point before them, if there are any. -/
def pointed (fraction : List Char) : List Char :=
  if fraction.isEmpty then [] else '.' :: fraction

theorem splitFraction_pointed (areDigits : AreDigits fraction)
    (digit : ∀ char ∈ rest.head?, char.isDigit = false) (point : rest.head? ≠ some '.') :
    splitFraction (pointed fraction ++ rest) = (fraction, rest) := by
  unfold pointed
  split
  · next empty =>
      rw [List.nil_append, splitFraction_of_ne point, List.isEmpty_iff.mp empty]
  · next some =>
      exact splitFraction_point areDigits (mt List.isEmpty_iff.mpr some) digit

theorem head?_pointed_append (digit : ∀ char ∈ rest.head?, char.isDigit = false) :
    ∀ char ∈ (pointed fraction ++ rest).head?, char.isDigit = false := by
  unfold pointed
  split
  · exact digit
  · intro char found
    cases found
    rfl

variable {whole tail : List Char} {exponent : Option Int} {negative : Bool}

/-- A number with a fraction or an exponent is read as the decimal that its parts denote. -/
theorem readNumber_real (isWhole : IsWhole whole) (areDigits : AreDigits fraction)
    (digit : ∀ char ∈ tail.head?, char.isDigit = false) (point : tail.head? ≠ some '.')
    (splits : splitExponent tail = (exponent, rest))
    (real : (fraction.isEmpty && exponent.isNone) = false) :
    readNumber negative (whole ++ (pointed fraction ++ tail)) =
      .ok (.float (Binary64.ofDecimal negative (digitsToNat (whole ++ fraction))
        (exponent.getD 0 - fraction.length)), rest) := by
  have kept : whole.isEmpty = false := List.isEmpty_eq_false_iff.mpr isWhole.nonempty
  simp only [readNumber, splitWhole_append isWhole (head?_pointed_append digit), kept,
    splitFraction_pointed areDigits digit point, splits, real]
  rfl

/-- A number without a fraction and an exponent is read as a whole number. -/
theorem readNumber_whole (isWhole : IsWhole whole) (short : whole.length ≤ digitLimit)
    (ends : EndsNumber rest) :
    readNumber negative (whole ++ rest) =
      .ok (.int (if negative then -(digitsToNat whole : Int) else digitsToNat whole), rest) := by
  have kept : whole.isEmpty = false := List.isEmpty_eq_false_iff.mpr isWhole.nonempty
  have read : readDigits whole = .ok (digitsToNat whole) := if_neg (Nat.not_lt.mpr short)
  simp only [readNumber, splitWhole_append isWhole ends.digit, kept, splitFraction_of_ne ends.point,
    splitExponent_of_endsNumber ends, read]
  rfl

/-! ## Written digits -/

theorem areDigits_natDigits (number : Nat) : AreDigits (natDigits number) := fun _ member =>
  Nat.isDigit_of_mem_toDigits (by decide) (by decide) member

theorem digitsToNat_natDigits (number : Nat) : digitsToNat (natDigits number) = number :=
  Nat.ofDigitChars_ten_toDigits

theorem length_natDigits_le {number limit : Nat} (positive : 0 < limit)
    (small : number < Nat.pow 10 limit) : (natDigits number).length ≤ limit :=
  (Nat.length_toDigits_le_iff (by decide) positive).mpr small

/-- The digits of a number other than zero start with another digit than zero. -/
theorem head?_natDigits {number : Nat} (positive : 0 < number) :
    (natDigits number).head? ≠ some '0' := by
  intro zero
  cases spelt : natDigits number with
  | nil => simp [spelt] at zero
  | cons digit others =>
      rw [spelt, List.head?_cons, Option.some.injEq] at zero
      have othersDigits : AreDigits others := fun char member =>
        areDigits_natDigits number char (spelt ▸ List.mem_cons_of_mem _ member)
      have value : digitsToNat others = number := by
        rw [← digitsToNat_natDigits number, spelt, zero, digitsToNat, digitsToNat,
          Nat.ofDigitChars_cons]
        rfl
      have small := digitsToNat_lt othersDigits (Nat.le_refl _)
      rw [value] at small
      rcases Nat.eq_zero_or_pos others.length with none | some
      · rw [none] at small
        exact absurd small (Nat.not_lt.mpr positive)
      · have short := length_natDigits_le some small
        rw [spelt, List.length_cons] at short
        omega

theorem isWhole_natDigits (number : Nat) : IsWhole (natDigits number) := by
  refine ⟨areDigits_natDigits number, Nat.toDigits_ne_nil, ?_⟩
  rcases Nat.eq_zero_or_pos number with rfl | positive
  · exact .inl rfl
  · exact .inr (head?_natDigits positive)

/-- A row of digits without its zeros at the end. -/
def significant (digits : List Char) : List Char :=
  (digits.reverse.dropWhile (· == '0')).reverse

theorem eq_significant_append (digits : List Char) :
    ∃ zeros, digits = significant digits ++ List.replicate zeros '0' := by
  refine ⟨(digits.reverse.takeWhile (· == '0')).length, ?_⟩
  have zeros : digits.reverse.takeWhile (· == '0') =
      List.replicate (digits.reverse.takeWhile (· == '0')).length '0' :=
    List.eq_replicate_iff.mpr ⟨rfl, fun char member =>
      beq_iff_eq.mp (List.all_eq_true.mp List.all_takeWhile char member)⟩
  rw [significant, ← List.reverse_replicate, ← zeros, ← List.reverse_append,
    List.takeWhile_append_dropWhile, List.reverse_reverse]

theorem mem_of_mem_significant {char : Char} (member : char ∈ significant digits) :
    char ∈ digits :=
  List.mem_reverse.mp ((List.dropWhile_suffix _).subset (List.mem_reverse.mp member))

theorem digitsToNat_append_zeros (digits : List Char) (zeros : Nat) :
    digitsToNat (digits ++ List.replicate zeros '0') = digitsToNat digits * Nat.pow 10 zeros := by
  rw [digitsToNat, Nat.ofDigitChars_append, Nat.ofDigitChars_replicate_zero, Nat.mul_comm]
  rfl

theorem digitsToNat_significant (number : Nat) :
    ∃ zeros, digitsToNat (significant (natDigits number)) * Nat.pow 10 zeros = number ∧
      (natDigits number).length = (significant (natDigits number)).length + zeros := by
  rcases eq_significant_append (natDigits number) with ⟨zeros, spelt⟩
  refine ⟨zeros, ?_, ?_⟩
  · rw [← digitsToNat_append_zeros, ← spelt, digitsToNat_natDigits]
  · have length := congrArg List.length spelt
    rwa [List.length_append, List.length_replicate] at length

theorem significant_ne_nil {number : Nat} (positive : 0 < number) :
    significant (natDigits number) ≠ [] := by
  intro none
  rcases digitsToNat_significant number with ⟨zeros, value, _⟩
  rw [none, digitsToNat, Nat.ofDigitChars_nil, Nat.zero_mul] at value
  omega

theorem head?_significant {number : Nat} (positive : 0 < number) :
    (significant (natDigits number)).head? ≠ some '0' := by
  rcases eq_significant_append (natDigits number) with ⟨zeros, spelt⟩
  rw [← List.head?_append_of_ne_nil _ (significant_ne_nil positive), ← spelt]
  exact head?_natDigits positive

/-- The zeros at the end of a decimal may be moved into its exponent. -/
theorem ofDecimal_significant (negative : Bool) (number : Nat) (exponent : Int) :
    Binary64.ofDecimal negative (digitsToNat (significant (natDigits number)))
        (exponent + (natDigits number).length - 1 + 1 - (significant (natDigits number)).length) =
      Binary64.ofDecimal negative number exponent := by
  rcases digitsToNat_significant number with ⟨zeros, value, length⟩
  have place : exponent + (natDigits number).length - 1 + 1 -
      (significant (natDigits number)).length = exponent + zeros := by omega
  rw [place, ← Binary64.ofDecimal_mul_pow, value]

theorem digitsToNat_zeros_append (zeros : Nat) (digits : List Char) :
    digitsToNat (List.replicate zeros '0' ++ digits) = digitsToNat digits := by
  rw [digitsToNat, Nat.ofDigitChars_append, Nat.ofDigitChars_replicate_zero, Nat.mul_zero]
  rfl

/-! ## Layouts -/

theorem pointed_of_ne_nil (some : fraction ≠ []) : pointed fraction = '.' :: fraction :=
  if_neg (mt List.isEmpty_iff.mp some)

theorem isEmpty_and_of_ne_nil {Mark : Type} (some : fraction ≠ []) (exponent : Option Mark) :
    (fraction.isEmpty && exponent.isNone) = false := by
  rw [List.isEmpty_eq_false_iff.mpr some]
  rfl

theorem areDigits_append (first : AreDigits digits) (second : AreDigits fraction) :
    AreDigits (digits ++ fraction) :=
  List.forall_mem_append.mpr ⟨first, second⟩

theorem areDigits_zeros (zeros : Nat) : AreDigits (List.replicate zeros '0') := by
  intro char member
  rw [List.eq_of_mem_replicate member]
  rfl

section Layouts

variable {written : List Char} (areDigits : AreDigits written) (some : written ≠ [])
  (ends : EndsNumber rest) (leading : Int)

include areDigits some ends

theorem readNumber_below_one (below : leading < 0) :
    readNumber negative (positional written leading ++ rest) =
      .ok (.float (Binary64.ofDecimal negative (digitsToNat written)
        (leading + 1 - written.length)), rest) := by
  have zero : IsWhole ['0'] := ⟨areDigits_zeros 1, by simp, .inl rfl⟩
  have nonempty : List.replicate (-leading - 1).toNat '0' ++ written ≠ [] := by simp [some]
  have text : positional written leading ++ rest =
      ['0'] ++ (pointed (List.replicate (-leading - 1).toNat '0' ++ written) ++ rest) := by
    rw [pointed_of_ne_nil nonempty, positional, if_pos below]
    rfl
  have value : digitsToNat (['0'] ++ (List.replicate (-leading - 1).toNat '0' ++ written)) =
      digitsToNat written :=
    (digitsToNat_zeros_append 1 _).trans (digitsToNat_zeros_append _ written)
  have place : ((none : Option Int).getD 0 -
      (List.replicate (-leading - 1).toNat '0' ++ written).length : Int) =
      leading + 1 - written.length := by
    rw [Option.getD_none, List.length_append, List.length_replicate]
    omega
  rw [text, readNumber_real zero (areDigits_append (areDigits_zeros _) areDigits) ends.digit
    ends.point (splitExponent_of_endsNumber ends) (isEmpty_and_of_ne_nil nonempty none), value,
    place]

variable (notZero : written.head? ≠ .some '0')

include notZero

theorem readNumber_filled_up (above : 0 ≤ leading) (short : written.length ≤ leading.toNat + 1) :
    readNumber negative (positional written leading ++ rest) =
      .ok (.float (Binary64.ofDecimal negative (digitsToNat written)
        (leading + 1 - written.length)), rest) := by
  generalize fill : leading.toNat + 1 - written.length = zeros
  have isWhole : IsWhole (written ++ List.replicate zeros '0') := by
    refine ⟨areDigits_append areDigits (areDigits_zeros _), by simp [some], .inr ?_⟩
    rwa [List.head?_append_of_ne_nil _ some]
  have text : positional written leading ++ rest =
      (written ++ List.replicate zeros '0') ++ (pointed ['0'] ++ rest) := by
    rw [positional, if_neg (by omega)]
    simp [List.take_of_length_le short, List.drop_of_length_le short, fill, pointed]
  have value : digitsToNat ((written ++ List.replicate zeros '0') ++ ['0']) =
      digitsToNat written * Nat.pow 10 (zeros + 1) := by
    rw [← digitsToNat_append_zeros, List.replicate_succ', List.append_assoc]
  have place : ((none : Option Int).getD 0 - ['0'].length + (zeros + 1 : Nat) : Int) =
      leading + 1 - written.length := by
    rw [Option.getD_none, List.length_singleton]
    omega
  have zero : AreDigits ['0'] := areDigits_zeros 1
  rw [text, readNumber_real isWhole zero ends.digit ends.point
    (splitExponent_of_endsNumber ends) (isEmpty_and_of_ne_nil (by simp) none), value,
    Binary64.ofDecimal_mul_pow, place]

theorem readNumber_cut (above : 0 ≤ leading) (long : leading.toNat + 1 < written.length) :
    readNumber negative (positional written leading ++ rest) =
      .ok (.float (Binary64.ofDecimal negative (digitsToNat written)
        (leading + 1 - written.length)), rest) := by
  have nonempty : written.drop (leading.toNat + 1) ≠ [] := by
    rw [ne_eq, List.drop_eq_nil_iff]
    omega
  have isWhole : IsWhole (written.take (leading.toNat + 1)) := by
    refine ⟨fun char member => areDigits char (List.mem_of_mem_take member), ?_, .inr ?_⟩
    · simp [some]
    · rw [List.head?_take, if_neg (by omega)]
      exact notZero
  have text : positional written leading ++ rest =
      written.take (leading.toNat + 1) ++ (pointed (written.drop (leading.toNat + 1)) ++ rest) := by
    have none : leading.toNat + 1 - written.length = 0 := by omega
    have kept : (written.drop (leading.toNat + 1)).isEmpty = false :=
      List.isEmpty_eq_false_iff.mpr nonempty
    rw [positional, if_neg (by omega)]
    simp [none, kept, pointed]
  have place : ((none : Option Int).getD 0 - (written.drop (leading.toNat + 1)).length : Int) =
      leading + 1 - written.length := by
    rw [Option.getD_none, List.length_drop]
    omega
  rw [text, readNumber_real isWhole
    (fun char member => areDigits char (List.mem_of_mem_drop member)) ends.digit ends.point
    (splitExponent_of_endsNumber ends) (isEmpty_and_of_ne_nil nonempty none),
    List.take_append_drop, place]

/-- A decimal without an exponent is read as its digits at its place. -/
theorem readNumber_positional :
    readNumber negative (positional written leading ++ rest) =
      .ok (.float (Binary64.ofDecimal negative (digitsToNat written)
        (leading + 1 - written.length)), rest) := by
  rcases Int.lt_or_le leading 0 with below | above
  · exact readNumber_below_one areDigits some ends leading below
  · rcases Nat.lt_or_ge (leading.toNat + 1) written.length with long | short
    · exact readNumber_cut areDigits some ends leading notZero above long
    · exact readNumber_filled_up areDigits some ends leading notZero above short

/-- A decimal with an exponent is read as its digits at its place. -/
theorem readNumber_scientific (layout : Layout) :
    readNumber negative (scientific layout written leading ++ rest) =
      .ok (.float (Binary64.ofDecimal negative (digitsToNat written)
        (leading + 1 - written.length)), rest) := by
  have padding : AreDigits (paddedDigits layout.exponentWidth leading.natAbs) :=
    areDigits_append (areDigits_zeros _) (areDigits_natDigits _)
  have padded : paddedDigits layout.exponentWidth leading.natAbs ≠ [] := by
    simp [paddedDigits, Nat.toDigits_ne_nil]
  have number : digitsToNat (paddedDigits layout.exponentWidth leading.natAbs) = leading.natAbs :=
    (digitsToNat_zeros_append _ _).trans (digitsToNat_natDigits _)
  have splits := splitExponent_mark (decide (leading < 0)) padding padded ends.digit
  have isWhole : IsWhole (written.take 1) := by
    refine ⟨fun char member => areDigits char (List.mem_of_mem_take member), ?_, .inr ?_⟩
    · simp [some]
    · rw [List.head?_take, if_neg (by omega)]
      exact notZero
  have text : scientific layout written leading ++ rest =
      written.take 1 ++ (pointed (written.drop 1) ++
        'e' :: (if decide (leading < 0) then '-' else '+') ::
          (paddedDigits layout.exponentWidth leading.natAbs ++ rest)) := by
    simp [scientific, pointed]
  have place : ((if decide (leading < 0) then -(leading.natAbs : Int) else leading.natAbs) -
      (written.drop 1).length : Int) = leading + 1 - written.length := by
    have length := List.length_pos_of_ne_nil some
    simp only [decide_eq_true_eq, List.length_drop]
    omega
  rw [number] at splits
  rw [text, readNumber_real isWhole
    (fun char member => areDigits char (List.mem_of_mem_drop member)) (by simp) (by simp) splits
    (by simp), List.take_append_drop, Option.getD_some, place]

end Layouts

/-! ## Written numbers -/

theorem readNumber_zero (ends : EndsNumber rest) :
    readNumber negative (['0', '.', '0'] ++ rest) =
      .ok (.float (.finite (.signedZero negative)), rest) := by
  have zero : AreDigits ['0'] := areDigits_zeros 1
  have isWhole : IsWhole ['0'] := ⟨zero, by simp, .inl rfl⟩
  have text : ['0', '.', '0'] ++ rest = ['0'] ++ (pointed ['0'] ++ rest) := rfl
  rw [text, readNumber_real isWhole zero ends.digit ends.point (splitExponent_of_endsNumber ends)
    rfl]
  rfl

/-- The magnitude of a number is read as the number. -/
theorem readNumber_magnitudeChars (layout : Layout) (value : Finite) (ends : EndsNumber rest) :
    readNumber value.negative (magnitudeChars layout value ++ rest) =
      .ok (.float (.finite value), rest) := by
  unfold magnitudeChars
  split
  · next zero => rw [readNumber_zero ends, ← Binary64.eq_signedZero zero]
  · next nonzero =>
      have readsBack := ofDecimal_shortest (Nat.pos_of_ne_zero nonzero)
      generalize shortest value = decimal at readsBack ⊢
      have digitsPos : 0 < decimal.digits := by
        refine Nat.pos_of_ne_zero fun zero => nonzero ?_
        rw [zero, Binary64.ofDecimal, if_pos rfl, Binary64.finite.injEq] at readsBack
        rw [← readsBack]
        rfl
      have areDigits : AreDigits (significant (natDigits decimal.digits)) := fun char member =>
        areDigits_natDigits _ char (mem_of_mem_significant member)
      have read := (ofDecimal_significant value.negative decimal.digits decimal.exponent).trans
        readsBack
      have asFloat {number : Binary64} (same : number = .finite value) :
          (.ok (.float number, rest) : Except Fault (Value × List Char)) =
            .ok (.float (.finite value), rest) := by rw [same]
      simp only
      split
      · exact (readNumber_positional areDigits (significant_ne_nil digitsPos) ends _
          (head?_significant digitsPos)).trans (asFloat read)
      · exact (readNumber_scientific areDigits (significant_ne_nil digitsPos) ends _
          (head?_significant digitsPos) layout).trans (asFloat read)

/-! ## Scalars -/

/-- A number that is not malformed starts with a digit. -/
theorem exists_digit_of_readNumber {chars : List Char} {result : Except Fault (Value × List Char)}
    (read : readNumber negative chars = result) (wellFormed : result ≠ .error .malformed) :
    ∃ digit others, chars = digit :: others ∧ digit.isDigit = true := by
  cases chars with
  | nil => exact absurd read.symm wellFormed
  | cons first others =>
      refine ⟨first, others, rfl, ?_⟩
      by_contra other
      have none : splitWhole (first :: others) = ([], first :: others) := by
        unfold splitWhole
        split
        · next zero =>
            cases zero
            exact absurd rfl other
        · simp [other]
      have malformed : readNumber negative (first :: others) = .error .malformed := by
        simp [readNumber, none]
      exact wellFormed (read.symm.trans malformed)

theorem readScalar_of_readNumber {chars : List Char} {result : Except Fault (Value × List Char)}
    (read : readNumber negative chars = result) (wellFormed : result ≠ .error .malformed) :
    readScalar (if negative then '-' :: chars else chars) = result := by
  rcases exists_digit_of_readNumber read wellFormed with ⟨digit, others, rfl, isDigit⟩
  have differs {letter : Char} (noDigit : letter.isDigit = false) : digit ≠ letter := by
    rintro rfl
    rw [noDigit] at isDigit
    cases isDigit
  cases negative with
  | true =>
      have notInfinity : digit ≠ 'I' := differs rfl
      simpa [readScalar, notInfinity] using read
  | false =>
      rw [if_neg Bool.false_ne_true, ← read]
      unfold readScalar
      split
      all_goals first | rfl | next same => exact absurd (List.cons.inj same).1 (differs rfl)

theorem readWord_append (word : List Char) (meaning : Value) (rest : List Char) :
    readWord word meaning (word ++ rest) = .ok (meaning, rest) := by
  have front : word.isPrefixOf (word ++ rest) = true :=
    List.isPrefixOf_iff_prefix.mpr (List.prefix_append word rest)
  rw [readWord, if_pos front, List.drop_left]

/-- A written number is read as the number, whatever follows that is no part of it. -/
theorem readScalar_write (number : Binary64) (ends : EndsNumber rest) :
    readScalar ((Layout.document.write number).toList ++ rest) = .ok (.float number, rest) := by
  cases number with
  | notANumber => exact readWord_append "NaN".toList _ rest
  | infinite negative =>
      cases negative with
      | true => exact readWord_append "-Infinity".toList _ rest
      | false => exact readWord_append "Infinity".toList _ rest
  | finite value =>
      have magnitude := readNumber_magnitudeChars Layout.document value ends
      have read := readScalar_of_readNumber magnitude ok_ne_error
      rw [← read]
      simp only [Layout.write, String.toList_ofList]
      split <;> rfl

/-- A written whole number is read as the number, whatever follows that is no part of it. -/
theorem readScalar_writeInt {number : Int} {chars : List Char}
    (writes : writeInt number = .ok chars) (ends : EndsNumber rest) :
    readScalar (chars ++ rest) = .ok (.int number, rest) := by
  unfold writeInt intText at writes
  by_cases short : number.natAbs < Nat.pow 10 digitLimit
  · rw [if_pos short] at writes
    cases writes
    have length := length_natDigits_le (by decide) short
    have read : readNumber (decide (number < 0)) (natDigits number.natAbs ++ rest) =
        .ok (.int number, rest) := by
      have signed : (if decide (number < 0) then -(number.natAbs : Int) else number.natAbs) =
          number := by
        simp only [decide_eq_true_eq]
        split <;> omega
      rw [readNumber_whole (isWhole_natDigits _) length ends, digitsToNat_natDigits, signed]
    rw [← readScalar_of_readNumber read ok_ne_error]
    simp only [intChars, String.toList_ofList, decide_eq_true_eq]
    split <;> rfl
  · rw [if_neg short] at writes
    cases writes

end ImageCatalog.Json
