import ImageCatalog.Proofs.Number.Literal
import ImageCatalog.Proofs.Yaml.Nodes
import ImageCatalog.Yaml.Construct

/-!
# What words and numbers mean in YAML

The kind of a plain scalar follows from its form alone. The words of JSON have the forms of null and
of flags. A number of JSON has no underscores, no colons and no letters but that of its exponent, so
that it can only have the form of a whole number, if it has no point, or that of a real number to
the base ten, if it has one and every exponent has a sign. Both are then read as what they are in
JSON.
-/

namespace ImageCatalog.Json

open Number Results Text Yaml

variable {chars digits rest : List Char} {text : String}

/-! ## Forms -/

/-- The words for flags start as no number does. -/
theorem Form.head_of_isFlag (isFlag : Form.isFlag text = true) :
    ∀ first ∈ text.toList.head?, first ≠ '-' ∧ first.isDigit = false := by
  have all : ∀ word ∈ ["yes", "Yes", "YES", "no", "No", "NO", "true", "True", "TRUE", "false",
      "False", "FALSE", "on", "On", "ON", "off", "Off", "OFF"],
      (word.toList.head?.all fun first => first != '-' && !first.isDigit) = true := by decide
  rw [Form.isFlag, List.contains_eq_mem, decide_eq_true_iff] at isFlag
  intro first found
  have differs := all text isFlag
  rw [Option.mem_def] at found
  rw [found] at differs
  simpa using differs

theorem Form.mem_of_mem_unsigned {char : Char} (member : char ∈ Form.unsigned chars) :
    char ∈ chars := by
  unfold Form.unsigned at member
  split at member
  · exact List.mem_cons_of_mem _ member
  · exact List.mem_cons_of_mem _ member
  · exact member

theorem Form.colonParts_of_not_mem (absent : ':' ∉ chars) : Form.colonParts chars = [chars] := by
  induction chars with
  | nil => rfl
  | cons first others hypothesis =>
      rw [List.mem_cons, not_or] at absent
      rw [Form.colonParts, if_neg (Ne.symm absent.1), hypothesis absent.2]

/-- A real number to the base sixty has a colon. -/
theorem Form.colon_mem_of_isSixtiethReal (isReal : Form.isSixtiethReal chars = true) :
    ':' ∈ chars := by
  by_contra absent
  have noColon : ':' ∉ (Form.unsigned chars).takeWhile (· != '.') := fun member =>
    absent (Form.mem_of_mem_unsigned (List.takeWhile_subset _ member))
  simp only [Form.isSixtiethReal, Form.colonParts_of_not_mem noColon] at isReal
  split at isReal
  · simp [Form.areSixtieths] at isReal
  · cases isReal

theorem Form.head_of_isBareFraction (isBare : Form.isBareFraction chars = true) :
    (Form.unsigned chars).head? = some '.' := by
  unfold Form.isBareFraction at isBare
  split at isBare
  · rfl
  · cases isBare

theorem Form.head_of_isSpecial (isSpecial : Form.isSpecial chars = true) :
    (Form.unsigned chars).head? = some '.' := by
  have infinity : ∀ word ∈ [".inf", ".Inf", ".INF"], word.toList.head? = some '.' := by decide
  have notANumber : ∀ word ∈ [".nan", ".NaN", ".NAN"],
      (Form.unsigned word.toList).head? = some '.' := by decide
  simp only [Form.isSpecial, Bool.or_eq_true, List.contains_eq_mem, decide_eq_true_eq] at isSpecial
  rcases isSpecial with member | member
  · simpa using infinity _ member
  · simpa using notANumber _ member

theorem Form.isDigitOrBar_of_isDigit {char : Char} (isDigit : char.isDigit = true) :
    Form.isDigitOrBar char = true := by
  rw [Form.isDigitOrBar, isDigit, Bool.true_or]

theorem Form.dropWhile_isDigitOrBar (areDigits : AreDigits digits)
    (ends : ∀ char ∈ rest.head?, Form.isDigitOrBar char = false) :
    (digits ++ rest).dropWhile Form.isDigitOrBar = rest := by
  rw [List.dropWhile_append_of_pos fun char member =>
    Form.isDigitOrBar_of_isDigit (areDigits char member)]
  cases rest with
  | nil => rfl
  | cons first others => simp [ends first rfl]

/-! ## Whole numbers -/

theorem IsWhole.isUnsignedWhole (isWhole : IsWhole digits) :
    Form.isUnsignedWhole digits = true := by
  rcases isWhole.plain with rfl | notZero
  · rfl
  · have parts := Form.colonParts_of_not_mem
      (not_mem_of_areDigits isWhole.digits (show (':').isDigit = false from rfl))
    have every : digits.all Form.isDigitOrBar = true :=
      List.all_eq_true.mpr fun char member =>
        Form.isDigitOrBar_of_isDigit (isWhole.digits char member)
    unfold Form.isUnsignedWhole
    split
    · rfl
    · exact absurd rfl notZero
    · exact absurd rfl notZero
    · exact absurd rfl notZero
    · next first others _ _ _ _ =>
        have isDigit : first.isDigit = true := isWhole.digits first List.mem_cons_self
        simp only [parts, isDigit, every, Bool.and_self]
    · exact absurd rfl isWhole.nonempty

/-- A row of digits is read as the number that it denotes to the base ten. -/
theorem wholeInTen_eq (areDigits : AreDigits digits) (nonempty : digits ≠ [])
    (short : digits.length ≤ digitLimit) : wholeInTen digits = .ok (digitsToNat digits) := by
  have ink : ∀ char ∈ digits, IsInk char := fun char member =>
    (isBare_of_isDigit (areDigits char member)).isInk
  have read : readDigits digits = .ok (digitsToNat digits) := if_neg (Nat.not_lt.mpr short)
  have unsigned : splitSign digits = (false, digits) := by
    rcases List.exists_cons_of_ne_nil nonempty with ⟨first, others, rfl⟩
    exact splitSign_of_isDigit (areDigits first List.mem_cons_self) others
  simp only [wholeInTen, trim_of_isInk ink, toAsciiDigits_of_isInk ink, unsigned,
    ungroup?_of_areDigits areDigits nonempty, read]
  rfl

theorem IsWhole.wholeMagnitude (isWhole : IsWhole digits) (short : digits.length ≤ digitLimit) :
    Yaml.wholeMagnitude digits = .ok (digitsToNat digits) := by
  rcases isWhole.plain with rfl | notZero
  · rfl
  · have noColon : digits.contains ':' = false := by
      rw [List.contains_eq_mem]
      exact decide_eq_false (not_mem_of_areDigits isWhole.digits rfl)
    unfold Yaml.wholeMagnitude
    split
    · exact absurd rfl isWhole.nonempty
    · rfl
    · exact absurd rfl notZero
    · exact absurd rfl notZero
    · exact absurd rfl notZero
    · rw [noColon]
      exact wholeInTen_eq isWhole.digits isWhole.nonempty short

/-! ## Exponents -/

/-- An exponent is known by its sign. -/
theorem Exponent.isExponent_chars (exponent : Exponent) :
    Form.isExponent exponent.chars = exponent.negative?.isSome := by
  rcases exponent with ⟨capital, negative?, digits, areDigits, nonempty⟩
  cases negative? with
  | none =>
      rcases List.exists_cons_of_ne_nil nonempty with ⟨first, others, rfl⟩
      have isDigit := areDigits first List.mem_cons_self
      have noSign : (first == '-' || first == '+') = false := by
        rw [Bool.or_eq_false_iff, beq_eq_false_iff_ne, beq_eq_false_iff_ne]
        constructor <;> rintro rfl <;> cases isDigit
      simp [chars, signChars, Form.isExponent, noSign]
  | some negative =>
      have row : Form.isRow Char.isDigit digits = true := by
        rw [Form.isRow, List.isEmpty_eq_false_iff.mpr nonempty]
        exact List.all_eq_true.mpr areDigits
      simp only [chars, signChars, Option.map_some, Option.toList_some, List.singleton_append,
        Form.isExponent, row, Bool.and_true]
      cases capital <;> cases negative <;> rfl

theorem isExponent_exponent? (exponent? : Option Exponent) :
    Form.isExponent ((exponent?.map Exponent.chars).getD []) =
      exponent?.all fun exponent => exponent.negative?.isSome := by
  cases exponent? with
  | none => rfl
  | some exponent => exact exponent.isExponent_chars

theorem isFraction_exponent? (exponent? : Option Exponent) :
    Form.isFraction ((exponent?.map Exponent.chars).getD []) = false := by
  cases exponent? with
  | none => rfl
  | some exponent =>
      cases capital : exponent.capital <;> simp [Exponent.chars, Form.isFraction, capital]

/-! ## Signs -/

theorem Form.unsigned_eq (chars : List Char) : Form.unsigned chars = (splitSign chars).2 := by
  rcases chars with _ | ⟨first, others⟩
  · rfl
  · by_cases minus : first = '-'
    · rw [minus]
      rfl
    · by_cases plus : first = '+'
      · rw [plus]
        rfl
      · simp [Form.unsigned, splitSign, minus, plus]

theorem signed_eq {Result : Type} (negate : Result → Result)
    (read : List Char → Except Yaml.Fault Result) (nonempty : chars ≠ []) :
    signed negate read chars =
      if (splitSign chars).1 then (read (splitSign chars).2).map negate
      else read (splitSign chars).2 := by
  rcases chars with _ | ⟨first, others⟩
  · exact absurd rfl nonempty
  · by_cases minus : first = '-'
    · rw [minus]
      rfl
    · by_cases plus : first = '+'
      · rw [plus]
        rfl
      · simp [signed, splitSign, minus, plus]

namespace Numeral

variable (numeral : Numeral)

theorem exists_digit_magnitudeChars :
    ∃ first others, numeral.magnitudeChars = first :: others ∧ first.isDigit = true := by
  rcases List.exists_cons_of_ne_nil numeral.isWhole.nonempty with ⟨first, others, whole⟩
  refine ⟨first, _, by rw [magnitudeChars, whole, List.cons_append], ?_⟩
  exact numeral.isWhole.digits first (whole ▸ List.mem_cons_self)

theorem splitSign_magnitudeChars :
    splitSign numeral.magnitudeChars = (false, numeral.magnitudeChars) := by
  rcases numeral.exists_digit_magnitudeChars with ⟨first, others, magnitude, isDigit⟩
  rw [magnitude]
  exact splitSign_of_isDigit isDigit others

theorem splitSign_chars : splitSign numeral.chars = (numeral.negative, numeral.magnitudeChars) := by
  unfold chars
  cases numeral.negative with
  | true => rfl
  | false => exact numeral.splitSign_magnitudeChars

theorem signed_chars {Result : Type} (negate : Result → Result)
    (read : List Char → Except Yaml.Fault Result) :
    signed negate read numeral.chars =
      if numeral.negative then (read numeral.magnitudeChars).map negate
      else read numeral.magnitudeChars := by
  rw [signed_eq negate read numeral.chars_ne_nil, numeral.splitSign_chars]

/-- A number is no word for a flag. -/
theorem isFlag_chars : Form.isFlag (String.ofList numeral.chars) = false := by
  by_contra isFlag
  rw [Bool.not_eq_false] at isFlag
  have differs := Form.head_of_isFlag isFlag
  rw [String.toList_ofList] at differs
  rcases numeral.exists_digit_magnitudeChars with ⟨digit, others, magnitude, isDigit⟩
  rw [chars, magnitude] at differs
  split at differs
  · exact (differs _ rfl).1 rfl
  · rw [(differs _ rfl).2] at isDigit
    cases isDigit

/-! ## Forms of numbers -/

theorem magnitudeChars_of_fraction (isReal : numeral.fraction ≠ []) :
    numeral.magnitudeChars =
      numeral.whole ++
        '.' :: (numeral.fraction ++ (numeral.exponent?.map Exponent.chars).getD []) := by
  rw [magnitudeChars, pointed_of_ne_nil isReal, List.cons_append]

theorem isWhole_of_bare (bare : (numeral.fraction.isEmpty && numeral.exponent?.isNone) = true) :
    Form.isWhole numeral.chars = true := by
  rw [Form.isWhole, Form.unsigned_eq, numeral.splitSign_chars,
    numeral.magnitudeChars_of_bare bare]
  exact numeral.isWhole.isUnsignedWhole

/-- Of the forms of real numbers, a number can only have that to the base ten. -/
theorem isReal_chars : Form.isReal numeral.chars = Form.isDecimal numeral.chars := by
  have noPoint : (Form.unsigned numeral.chars).head? ≠ some '.' := by
    rcases numeral.exists_digit_magnitudeChars with ⟨first, others, magnitude, isDigit⟩
    rw [Form.unsigned_eq, numeral.splitSign_chars, magnitude, List.head?_cons, ne_eq,
      Option.some.injEq]
    rintro rfl
    cases isDigit
  have notBare : Form.isBareFraction numeral.chars = false :=
    Bool.eq_false_iff.mpr fun isBare => noPoint (Form.head_of_isBareFraction isBare)
  have notSpecial : Form.isSpecial numeral.chars = false :=
    Bool.eq_false_iff.mpr fun isSpecial => noPoint (Form.head_of_isSpecial isSpecial)
  have notSixtieth : Form.isSixtiethReal numeral.chars = false :=
    Bool.eq_false_iff.mpr fun isReal =>
      absurd (Numeral.isBare_of_mem (Form.colon_mem_of_isSixtiethReal isReal)) (by decide)
  rw [Form.isReal, notBare, notSpecial, notSixtieth, Bool.or_false, Bool.or_false, Bool.or_false]

/-- A number has the form of a real number to the base ten if it has a fraction, and a sign in front
of every exponent. -/
theorem isDecimal_chars :
    Form.isDecimal numeral.chars =
      (!numeral.fraction.isEmpty && numeral.exponent?.all fun exponent =>
        exponent.negative?.isSome) := by
  have stops : ∀ char ∈ ((numeral.exponent?.map Exponent.chars).getD []).head?,
      Form.isDigitOrBar char = false := by
    cases numeral.exponent? with
    | none => simp
    | some exponent =>
        rintro char ⟨⟩
        cases exponent.capital <;> rfl
  have pointStops : ∀ char ∈ (pointed numeral.fraction ++
      (numeral.exponent?.map Exponent.chars).getD []).head?, Form.isDigitOrBar char = false := by
    unfold pointed
    split
    · exact stops
    · rintro char ⟨⟩
      rfl
  have drops : (numeral.whole.drop 1 ++ (pointed numeral.fraction ++
      (numeral.exponent?.map Exponent.chars).getD [])).dropWhile Form.isDigitOrBar =
        pointed numeral.fraction ++ (numeral.exponent?.map Exponent.chars).getD [] :=
    Form.dropWhile_isDigitOrBar
      (fun char member => numeral.isWhole.digits char (List.mem_of_mem_drop member)) pointStops
  have fraction : Form.isFraction (pointed numeral.fraction ++
      (numeral.exponent?.map Exponent.chars).getD []) =
        (!numeral.fraction.isEmpty && numeral.exponent?.all fun exponent =>
          exponent.negative?.isSome) := by
    unfold pointed
    split
    · next none =>
        rw [List.nil_append, isFraction_exponent?, none]
        rfl
    · next some =>
        rw [List.cons_append, Form.isFraction, Form.dropWhile_isDigitOrBar numeral.areDigits stops,
          isExponent_exponent?]
        simp [some]
  rcases List.exists_cons_of_ne_nil numeral.isWhole.nonempty with ⟨first, others, whole⟩
  have isDigit : first.isDigit = true := numeral.isWhole.digits first (whole ▸ List.mem_cons_self)
  rw [whole, List.drop_one, List.tail_cons] at drops
  rw [Form.isDecimal, Form.unsigned_eq, numeral.splitSign_chars, magnitudeChars, whole,
    List.cons_append]
  simp only [drops, isDigit, fraction, Bool.true_and]

/-- A number that has a form that is known for real numbers is portable. -/
theorem isPortable_of_isReal (isReal : Form.isReal numeral.chars = true) : numeral.IsPortable := by
  rw [isReal_chars, isDecimal_chars, Bool.and_eq_true_iff] at isReal
  intro exponent written
  rw [Option.mem_def] at written
  rw [written] at isReal
  simpa using isReal

theorem isReal_of_isPortable (portable : numeral.IsPortable) :
    Form.isReal numeral.chars = !(numeral.fraction.isEmpty && numeral.exponent?.isNone) := by
  rw [isReal_chars, isDecimal_chars]
  cases written : numeral.exponent? with
  | none => simp
  | some exponent =>
      have signed := portable exponent written
      simp [signed]

theorem ofPlain_chars (portable : numeral.IsPortable) :
    Kind.ofPlain (String.ofList numeral.chars) =
      if numeral.fraction.isEmpty && numeral.exponent?.isNone then .whole else .real := by
  have real := numeral.isReal_of_isPortable portable
  simp only [Kind.ofPlain, numeral.isFlag_chars, String.toList_ofList, Bool.false_eq_true, if_false]
  by_cases bare : (numeral.fraction.isEmpty && numeral.exponent?.isNone) = true
  · rw [real, numeral.isWhole_of_bare bare, bare]
    rfl
  · rw [real, Bool.eq_false_iff.mpr bare]
    rfl

theorem filter_chars : numeral.chars.filter (· != '_') = numeral.chars := by
  rw [List.filter_eq_self]
  intro char member
  exact bne_iff_ne.mpr ((Numeral.isBare_of_mem member).ne (by decide))

/-- The same number, with a small mark before its exponent. -/
def lowered : Numeral :=
  { numeral with
    exponent? := numeral.exponent?.map fun exponent => { exponent with capital := false }
    short := by simpa using numeral.short }

theorem value_lowered : numeral.lowered.value = numeral.value := by
  rcases numeral with ⟨negative, whole, fraction, exponent?, isWhole, areDigits, short⟩
  cases exponent? <;> rfl

theorem toLower_of_isDigit {char : Char} (isDigit : char.isDigit = true) : char.toLower = char := by
  unfold Char.toLower
  split
  · next upper =>
      have large : 65 ≤ char.toNat := UInt32.le_iff_toNat_le.mp upper.1
      simp only [Char.isDigit, Bool.and_eq_true, decide_eq_true_eq,
        UInt32.le_iff_toNat_le] at isDigit
      exact absurd (Nat.le_trans large isDigit.2) (by decide)
  · rfl

theorem map_toLower_of_areDigits (areDigits : AreDigits digits) :
    digits.map Char.toLower = digits :=
  (List.map_congr_left fun char member => toLower_of_isDigit (areDigits char member)).trans
    (List.map_id _)

theorem map_toLower_chars : numeral.chars.map Char.toLower = numeral.lowered.chars := by
  have exponent : ((numeral.exponent?.map Exponent.chars).getD []).map Char.toLower =
      (numeral.lowered.exponent?.map Exponent.chars).getD [] := by
    cases written : numeral.exponent? with
    | none => simp [lowered, written]
    | some exponent =>
        have sign : exponent.signChars.map Char.toLower = exponent.signChars := by
          unfold Exponent.signChars
          rcases exponent.negative? with _ | _ | _ <;> rfl
        have mark : (if exponent.capital then 'E' else 'e').toLower = 'e' := by
          cases exponent.capital <;> rfl
        simp only [lowered, written, Option.map_some, Option.getD_some, Exponent.chars,
          List.map_cons, List.map_append, sign, mark, map_toLower_of_areDigits exponent.areDigits]
        rfl
  have fraction : (pointed numeral.fraction).map Char.toLower = pointed numeral.fraction := by
    unfold pointed
    split
    · rfl
    · rw [List.map_cons, map_toLower_of_areDigits numeral.areDigits]
      rfl
  have magnitude : numeral.magnitudeChars.map Char.toLower = numeral.lowered.magnitudeChars := by
    rw [magnitudeChars, List.map_append, List.map_append, exponent, fraction,
      map_toLower_of_areDigits numeral.isWhole.digits]
    rfl
  unfold chars
  cases sign : numeral.negative with
  | true => simpa [lowered, sign] using magnitude
  | false => simpa [lowered, sign] using magnitude

theorem readWholeScalar_eq (bare : (numeral.fraction.isEmpty && numeral.exponent?.isNone) = true) :
    (readWholeScalar (String.ofList numeral.chars)).map .int = .ok numeral.value := by
  rw [readWholeScalar, String.toList_ofList, numeral.filter_chars, numeral.signed_chars,
    numeral.magnitudeChars_of_bare bare, numeral.isWhole.wholeMagnitude (numeral.short bare), value,
    if_pos bare]
  cases numeral.negative <;> rfl

/-- A number with a fraction is read as the decimal that its parts denote. -/
theorem realMagnitude_eq (isReal : numeral.fraction ≠ []) :
    realMagnitude numeral.magnitudeChars =
      .ok (Binary64.ofDecimal false (digitsToNat (numeral.whole ++ numeral.fraction))
        ((numeral.exponent?.map Exponent.value).getD 0 - numeral.fraction.length)) := by
  have ink : ∀ char ∈ numeral.magnitudeChars, IsInk char := fun char member =>
    (Numeral.isBare_of_mem_magnitudeChars member).isInk
  have noColon : numeral.magnitudeChars.contains ':' = false := by
    rw [List.contains_eq_mem]
    exact decide_eq_false fun member =>
      absurd (Numeral.isBare_of_mem_magnitudeChars member) (by decide)
  have noWord {word : List Char} (point : word.head? = some '.') :
      numeral.magnitudeChars ≠ word := by
    rintro rfl
    rcases numeral.exists_digit_magnitudeChars with ⟨first, others, magnitude, isDigit⟩
    rw [magnitude, List.head?_cons, Option.some.injEq] at point
    rw [point] at isDigit
    cases isDigit
  have read : readPlainReal? numeral.magnitudeChars =
      some (Binary64.ofDecimal false (digitsToNat (numeral.whole ++ numeral.fraction))
        ((numeral.exponent?.map Exponent.value).getD 0 - numeral.fraction.length)) := by
    rw [readPlainReal?, numeral.splitSign_magnitudeChars]
    simp only [numeral.magnitudeChars_of_fraction isReal,
      readUnsigned?_parts numeral.isWhole numeral.areDigits]
    rfl
  rw [realMagnitude, if_neg (noWord rfl), if_neg (noWord rfl), noColon, realInTen,
    trim_of_isInk ink, toAsciiDigits_of_isInk ink, read]
  rfl

theorem readRealScalar_eq (isReal : numeral.fraction ≠ []) :
    (readRealScalar (String.ofList numeral.chars)).map .float = .ok numeral.value := by
  have real : (numeral.lowered.fraction.isEmpty && numeral.lowered.exponent?.isNone) = false :=
    isEmpty_and_of_ne_nil isReal _
  rw [readRealScalar, String.toList_ofList, numeral.filter_chars, numeral.map_toLower_chars,
    numeral.lowered.signed_chars, numeral.lowered.realMagnitude_eq isReal, ← numeral.value_lowered,
    value, real]
  cases numeral.lowered.negative with
  | false => rfl
  | true => simp [Except.map, Binary64.negate_ofDecimal]

/-- A portable number means in YAML what it means in JSON. -/
theorem scalarValue_chars (portable : numeral.IsPortable) :
    Node.scalarValue (.ofPlain (String.ofList numeral.chars)) (String.ofList numeral.chars) =
      .ok numeral.value := by
  rw [numeral.ofPlain_chars portable]
  split
  · next bare => exact numeral.readWholeScalar_eq bare
  · next notBare =>
      refine numeral.readRealScalar_eq fun none => notBare ?_
      rw [none, List.isEmpty_nil, Bool.true_and, Option.isNone_iff_eq_none]
      by_contra written
      rcases Option.ne_none_iff_exists'.mp written with ⟨exponent, found⟩
      exact (portable exponent found).1 none

end Numeral

/-- Only real numbers mean real numbers. -/
theorem eq_real_of_scalarValue {kind : Kind} {number : Binary64}
    (means : Node.scalarValue kind text = .ok (.float number)) : kind = .real := by
  cases kind with
  | real => rfl
  | flag =>
      rcases map_ok means with ⟨_, _, made⟩
      cases made
  | whole =>
      rcases map_ok means with ⟨_, _, made⟩
      cases made
  | bytes =>
      simp only [Node.scalarValue, Node.bytesOf] at means
      split at means <;> cases means
  | time =>
      simp only [Node.scalarValue, Node.timeOf] at means
      split at means
      · cases means
      · split at means <;> cases means
  | _ => cases means

theorem isReal_of_ofPlain (isReal : Kind.ofPlain text = .real) :
    Form.isReal text.toList = true := by
  simp only [Kind.ofPlain] at isReal
  split_ifs at isReal with flag real
  exact real

/-- The numbers that mean in YAML what they mean in JSON are exactly the portable ones. -/
theorem Numeral.scalarValue_chars_iff (numeral : Numeral) :
    Node.scalarValue (.ofPlain (String.ofList numeral.chars)) (String.ofList numeral.chars) =
      .ok numeral.value ↔ numeral.IsPortable := by
  refine ⟨fun means => ?_, numeral.scalarValue_chars⟩
  by_cases bare : (numeral.fraction.isEmpty && numeral.exponent?.isNone) = true
  · rw [Bool.and_eq_true_iff, Option.isNone_iff_eq_none] at bare
    intro exponent written
    rw [bare.2] at written
    cases written
  · rw [Numeral.value, if_neg bare] at means
    have isReal := isReal_of_ofPlain (eq_real_of_scalarValue means)
    rw [String.toList_ofList] at isReal
    exact numeral.isPortable_of_isReal isReal

/-- The words that mean in YAML what they mean in JSON are exactly the portable ones. -/
theorem Word.scalarValue_chars_iff (word : Word) :
    Node.scalarValue (.ofPlain (String.ofList word.chars)) (String.ofList word.chars) =
      .ok word.value ↔ word.IsPortable := by
  cases word with
  | null => exact ⟨fun _ => trivial, fun _ => rfl⟩
  | flag value => cases value <;> exact ⟨fun _ => trivial, fun _ => rfl⟩
  | notANumber =>
      exact ⟨fun means => absurd (eq_real_of_scalarValue means) (by decide),
        fun portable => portable.elim⟩
  | infinity negative =>
      refine ⟨fun means => ?_, fun portable => portable.elim⟩
      cases negative <;> exact absurd (eq_real_of_scalarValue means) (by decide)

end ImageCatalog.Json
