import ImageCatalog.Proofs.Json.Accepted

/-!
# Numbers that are too long

A text with a whole number of too many digits is not read, but it is not malformed either. The
reader stops at the first such number, before it has looked at what stands behind it, so that the
text need not be a JSON text as a whole. `Overruns` says where the number stands: behind blanks, and
in every list or object that is open there, behind the items or fields that were read before it.
-/

namespace ImageCatalog.Json

open Number Results Text

/-! ## Where the number stands -/

/-- The characters go on neither with a digit nor with a fraction nor with an exponent. A point or a
mark without digits is no part of a number. -/
structure EndsWhole (rest : List Char) : Prop where
  digit : ∀ char ∈ rest.head?, char.isDigit = false
  fraction : ∀ (digit : Char) (others : List Char), rest = '.' :: digit :: others →
    digit.isDigit = false
  exponent : ∀ (exponent : Exponent) (others : List Char), rest ≠ exponent.chars ++ others

mutual

/-- The characters start with a value in which the reader meets a number that is too long. -/
inductive ValueOverruns : List Char → DigitOverflow → Prop
  | number {whole rest : List Char} (negative : Bool) (isWhole : IsWhole whole)
      (long : digitLimit < whole.length) (ends : EndsWhole rest) :
      ValueOverruns (if negative then '-' :: (whole ++ rest) else whole ++ rest)
        (.reading whole.length)
  | list {rest : List Char} {overflow : DigitOverflow} (gap : Gap)
      (items : ItemsOverrun rest overflow) : ValueOverruns ('[' :: (gap.1 ++ rest)) overflow
  | object {rest : List Char} {overflow : DigitOverflow} (gap : Gap)
      (fields : FieldsOverrun rest overflow) : ValueOverruns ('\x7b' :: (gap.1 ++ rest)) overflow

/-- The characters start with items, in one of which the reader meets such a number. -/
inductive ItemsOverrun : List Char → DigitOverflow → Prop
  | here {rest : List Char} {overflow : DigitOverflow} (item : ValueOverruns rest overflow) :
      ItemsOverrun rest overflow
  | later {rest : List Char} {overflow : DigitOverflow} (item : Spelling) (before after : Gap)
      (others : ItemsOverrun rest overflow) :
      ItemsOverrun (item.chars ++ (before.1 ++ ',' :: (after.1 ++ rest))) overflow

/-- The characters start with fields, in one of which the reader meets such a number. -/
inductive FieldsOverrun : List Char → DigitOverflow → Prop
  | here {rest : List Char} {overflow : DigitOverflow} (label : Label)
      (content : ValueOverruns rest overflow) : FieldsOverrun (label.chars ++ rest) overflow
  | later {rest : List Char} {overflow : DigitOverflow} (label : Label) (content : Spelling)
      (before after : Gap) (others : FieldsOverrun rest overflow) :
      FieldsOverrun (label.chars ++ (content.chars ++ (before.1 ++ ',' :: (after.1 ++ rest))))
        overflow

end

/-- The reader meets a number that is too long in the text. -/
def Overruns (text : String) (overflow : DigitOverflow) : Prop :=
  ∃ (gap : Gap) (rest : List Char), text.toList = gap.1 ++ rest ∧ ValueOverruns rest overflow

/-! ## Numbers -/

variable {chars rest : List Char} {overflow : DigitOverflow} {negative : Bool} {budget : Nat}

theorem splitFraction_of_endsWhole (ends : EndsWhole rest) : splitFraction rest = ([], rest) := by
  unfold splitFraction
  split
  · next others =>
      cases others with
      | nil => rfl
      | cons digit others => simp [ends.fraction digit others rfl]
  · rfl

theorem splitExponent_of_endsWhole (ends : EndsWhole rest) :
    splitExponent rest = (none, rest) := by
  rcases splitExponent_eq rest with ⟨exponent?, value, spelt⟩
  cases exponent? with
  | none => exact Prod.ext value spelt
  | some exponent => exact absurd spelt.symm (ends.exponent exponent _)

theorem splitExponent_chars_append (exponent : Exponent) (others : List Char) :
    (splitExponent (exponent.chars ++ others)).1 ≠ none := by
  have mark : (if exponent.capital then 'E' else 'e') = 'e' ∨
      (if exponent.capital then 'E' else 'e') = 'E' := by
    cases exponent.capital <;> decide
  rcases List.exists_cons_of_ne_nil exponent.nonempty with ⟨digit, digits, spelt⟩
  have isDigit := exponent.areDigits digit (spelt ▸ List.mem_cons_self)
  have kept : ((exponent.digits ++ others).takeWhile Char.isDigit).isEmpty = false := by
    simp [spelt, isDigit]
  simp only [Exponent.chars, List.cons_append, List.append_assoc, splitExponent, mark, if_true,
    splitExponentSign_signChars, kept, Bool.false_eq_true, if_false]
  exact Option.some_ne_none _

theorem endsWhole_of_splits (digit : ∀ char ∈ rest.head?, char.isDigit = false)
    (noFraction : (splitFraction rest).1 = []) (noExponent : (splitExponent rest).1 = none) :
    EndsWhole rest where
  digit := digit
  fraction := by
    rintro next others rfl
    by_contra isDigit
    rw [Bool.not_eq_false] at isDigit
    simp [splitFraction, isDigit] at noFraction
  exponent := by
    rintro exponent others rfl
    exact splitExponent_chars_append exponent others noExponent

/-- Unless there is but one digit before the point, all digits that follow each other are taken. -/
theorem head?_splitWhole (many : 1 < (splitWhole chars).1.length) :
    ∀ char ∈ (splitWhole chars).2.head?, char.isDigit = false := by
  unfold splitWhole at many ⊢
  split at many
  · exact absurd many (Nat.lt_irrefl 1)
  · intro char found
    have outside := List.head?_dropWhile_not Char.isDigit chars
    rw [found] at outside
    exact outside

theorem readNumber_of_long {whole : List Char} (isWhole : IsWhole whole)
    (long : digitLimit < whole.length) (ends : EndsWhole rest) :
    readNumber negative (whole ++ rest) = .error (.overlong (.reading whole.length)) := by
  have kept : whole.isEmpty = false := List.isEmpty_eq_false_iff.mpr isWhole.nonempty
  have read : readDigits whole = .error (.reading whole.length) := if_pos long
  simp only [readNumber, splitWhole_append isWhole ends.digit, kept,
    splitFraction_of_endsWhole ends, splitExponent_of_endsWhole ends, read]
  rfl

theorem readDigits_eq_error {digits : List Char} (fails : readDigits digits = .error overflow) :
    digitLimit < digits.length ∧ overflow = .reading digits.length := by
  unfold readDigits at fails
  split at fails
  · next long =>
      cases fails
      exact ⟨long, rfl⟩
  · cases fails

theorem exists_long_of_readNumber
    (fails : readNumber negative chars = .error (.overlong overflow)) :
    ∃ whole rest, chars = whole ++ rest ∧ IsWhole whole ∧ digitLimit < whole.length ∧
      EndsWhole rest ∧ overflow = .reading whole.length := by
  rcases splitWhole_eq chars with ⟨spelt, isWhole⟩
  have pointless := (splitFraction_eq (splitWhole chars).2).1
  unfold readNumber at fails
  simp only at fails
  split at fails
  · cases fails
  · next some =>
      split at fails
      · next bare =>
          cases found : readDigits (splitWhole chars).1 with
          | ok magnitude => simp [found] at fails
          | error other =>
              rcases readDigits_eq_error found with ⟨long, rfl⟩
              simp only [found, Except.error.injEq, Fault.overlong.injEq] at fails
              simp only [Bool.and_eq_true, List.isEmpty_iff, Option.isNone_iff_eq_none] at bare
              rw [bare.1] at pointless
              rw [show (splitFraction (splitWhole chars).2).2 = (splitWhole chars).2 from
                pointless] at bare
              have many : 1 < (splitWhole chars).1.length :=
                Nat.lt_trans (show 1 < digitLimit by decide) long
              exact ⟨_, _, spelt.symm, isWhole (mt List.isEmpty_iff.mpr some), long,
                endsWhole_of_splits (head?_splitWhole many) bare.1 bare.2, fails.symm⟩
      · cases fails

/-! ## Texts in which the reader meets the number -/

mutual

theorem ValueOverruns.readValue_eq : ∀ {chars : List Char} {overflow : DigitOverflow}
    {budget : Nat}, ValueOverruns chars overflow → 2 * chars.length ≤ budget →
      readValue budget chars = .error (.overlong overflow)
  | _, _, budget, .number negative isWhole long ends, enough => by
    have number := @readNumber_of_long _ negative _ isWhole long ends
    have read := readScalar_of_readNumber number nofun
    have some := List.length_pos_of_ne_nil isWhole.nonempty
    refine readValue_of_readScalar ?_ read nofun
    split at enough <;> simp only [List.length_cons, List.length_append] at enough <;> omega
  | _, _, budget, .list gap items, enough => by
    simp only [List.length_cons, List.length_append] at enough
    rcases Nat.exists_eq_add_of_le' (show 1 ≤ budget by omega) with ⟨others, rfl⟩
    have read := items.readItems_eq (show _ < others by omega)
    exact readValue_list read nofun gap.2
  | _, _, budget, .object gap fields, enough => by
    simp only [List.length_cons, List.length_append] at enough
    rcases Nat.exists_eq_add_of_le' (show 1 ≤ budget by omega) with ⟨others, rfl⟩
    have read := fields.readFields_eq (show _ < others by omega)
    exact readValue_object read nofun gap.2

theorem ItemsOverrun.readItems_eq : ∀ {chars : List Char} {overflow : DigitOverflow}
    {budget : Nat}, ItemsOverrun chars overflow → 2 * chars.length < budget →
      readItems budget chars = .error (.overlong overflow)
  | _, _, budget + 1, .here item, enough => by
    rw [readItems, item.readValue_eq (Nat.le_of_lt_succ enough)]
    rfl
  | _, _, budget + 1, .later item before after others, enough => by
    simp only [List.length_append, List.length_cons] at enough
    have read (tail : List Char) := item.readValue_chars (show _ ≤ budget by omega)
      (before.endsNumber (endsNumber_comma tail))
    have further := others.readItems_eq (show _ < budget by omega)
    have skips := (skipGap_append after.2 _).trans (skipGap_of_readItems further nofun)
    simp only [readItems, read, bind, Except.bind, skipGap_append before.2]
    rw [skipGap_cons rfl]
    simp only [skips, further]

theorem FieldsOverrun.readFields_eq : ∀ {chars : List Char} {overflow : DigitOverflow}
    {budget : Nat}, FieldsOverrun chars overflow → 2 * chars.length < budget →
      readFields budget chars = .error (.overlong overflow)
  | _, _, budget + 1, .here label content, enough => by
    simp only [List.length_append] at enough
    have read := content.readValue_eq (show _ ≤ budget by omega)
    rw [label.readFields_chars read nofun]
    rfl
  | _, _, budget + 1, .later label content before after others, enough => by
    simp only [List.length_append, List.length_cons] at enough
    have read (tail : List Char) := content.readValue_chars (show _ ≤ budget by omega)
      (before.endsNumber (endsNumber_comma tail))
    have further := others.readFields_eq (show _ < budget by omega)
    have skips := (skipGap_append after.2 _).trans (skipGap_of_readFields further nofun)
    rw [label.readFields_chars (read _) nofun]
    simp only [bind, Except.bind, skipGap_append before.2]
    rw [skipGap_cons rfl]
    simp only [skips, further]

end

/-! ## The place of the number -/

theorem ne_overlong_of_readText : readText chars ≠ .error (.overlong overflow) := by
  unfold readText
  split
  · nofun
  · split <;> nofun

theorem ne_overlong_of_readWord {word : List Char} {meaning : Value} :
    readWord word meaning chars ≠ .error (.overlong overflow) := by
  unfold readWord
  split <;> nofun

theorem valueOverruns_of_readNumber
    (fails : readNumber negative chars = .error (.overlong overflow)) :
    ValueOverruns (if negative then '-' :: chars else chars) overflow := by
  rcases exists_long_of_readNumber fails with ⟨whole, rest, rfl, isWhole, long, ends, rfl⟩
  exact .number negative isWhole long ends

theorem valueOverruns_of_readScalar (fails : readScalar chars = .error (.overlong overflow)) :
    ValueOverruns chars overflow := by
  unfold readScalar at fails
  split at fails
  case h_7 => exact valueOverruns_of_readNumber fails
  case h_8 => exact valueOverruns_of_readNumber fails
  all_goals exact absurd fails ne_overlong_of_readWord

/-- A number that is too long for the reader within a budget is found in the text. -/
structure IsFound (budget : Nat) : Prop where
  value : ∀ {chars : List Char} {overflow : DigitOverflow},
    readValue budget chars = .error (.overlong overflow) → ValueOverruns chars overflow
  items : ∀ {chars : List Char} {overflow : DigitOverflow},
    readItems budget chars = .error (.overlong overflow) → ItemsOverrun chars overflow
  fields : ∀ {chars : List Char} {overflow : DigitOverflow},
    readFields budget chars = .error (.overlong overflow) → FieldsOverrun chars overflow

theorem IsFound.items_succ (isFound : IsFound budget)
    (fails : readItems (budget + 1) chars = .error (.overlong overflow)) :
    ItemsOverrun chars overflow := by
  rw [readItems] at fails
  rcases bind_error fails with first | ⟨⟨item, afterItem⟩, first, onward⟩
  · exact .here (isFound.value first)
  · rcases (isSpelt budget).value first with ⟨spelling, rfl, rfl⟩
    have blanks := gapOf_append_skipGap afterItem
    simp only at onward
    split at onward
    · next tail comma =>
        rcases bind_error onward with further | ⟨_, _, made⟩
        · have others := isFound.items further
          rw [← blanks, comma, ← gapOf_append_skipGap tail]
          exact .later spelling (gapOf afterItem) (gapOf tail) others
        · cases made
    · cases onward
    · cases onward

theorem IsFound.fields_succ (isFound : IsFound budget)
    (fails : readFields (budget + 1) chars = .error (.overlong overflow)) :
    FieldsOverrun chars overflow := by
  unfold readFields at fails
  split at fails
  · next others =>
      rcases bind_error fails with quoted | ⟨⟨name, afterName⟩, quoted, named⟩
      · exact absurd quoted ne_overlong_of_readText
      · simp only at named
        split at named
        · next tail colon =>
            rcases exists_label_of_readText quoted colon with ⟨label, _, labelled⟩
            rw [labelled]
            rcases bind_error named with first | ⟨⟨content, afterContent⟩, first, onward⟩
            · exact .here label (isFound.value first)
            · rcases (isSpelt budget).value first with ⟨spelling, spelt, rfl⟩
              have blanks := gapOf_append_skipGap afterContent
              rw [spelt]
              simp only at onward
              split at onward
              · next more comma =>
                  rcases bind_error onward with further | ⟨_, _, made⟩
                  · have others := isFound.fields further
                    rw [← blanks, comma, ← gapOf_append_skipGap more]
                    exact .later label spelling (gapOf afterContent) (gapOf more) others
                  · cases made
              · cases onward
              · cases onward
        · cases named
  · cases fails

theorem IsFound.value_succ (isFound : IsFound budget)
    (fails : readValue (budget + 1) chars = .error (.overlong overflow)) :
    ValueOverruns chars overflow := by
  unfold readValue at fails
  split at fails
  · exact absurd (map_error_iff.mp fails) ne_overlong_of_readText
  · next others =>
      split at fails
      · cases fails
      · have items := isFound.items (map_error_iff.mp fails)
        rw [← gapOf_append_skipGap others]
        exact .list (gapOf others) items
  · next others =>
      split at fails
      · cases fails
      · have fields := isFound.fields (map_error_iff.mp fails)
        rw [← gapOf_append_skipGap others]
        exact .object (gapOf others) fields
  · exact valueOverruns_of_readScalar fails

/-- The induction over the budget of the reader. -/
theorem isFound (budget : Nat) : IsFound budget := by
  induction budget with
  | zero => exact ⟨nofun, nofun, nofun⟩
  | succ budget hypothesis =>
      exact ⟨hypothesis.value_succ, hypothesis.items_succ, hypothesis.fields_succ⟩

/-- A text is not read because of a number that is too long exactly if the reader meets one. -/
theorem read_overlong_iff {text : String} :
    read text = .error (.overlong overflow) ↔ Overruns text overflow := by
  constructor
  · intro fails
    rcases bind_error fails with values | ⟨_, _, ends⟩
    · exact ⟨gapOf text.toList, _, (gapOf_append_skipGap _).symm, (isFound _).value values⟩
    · simp only at ends
      split at ends <;> cases ends
  · rintro ⟨gap, rest, spelt, overruns⟩
    have budget : 2 * rest.length ≤ 2 * text.toList.length + 2 := by
      rw [spelt, List.length_append]
      omega
    have fails := overruns.readValue_eq budget
    have skips : skipGap text.toList = rest := by
      rw [spelt, skipGap_append gap.2, skipGap_of_readValue fails nofun]
    rw [read, readAll, skips, fails]
    rfl

/-- A whole number of too many digits is such a text. -/
theorem overruns_whole {whole : List Char} (isWhole : IsWhole whole)
    (long : digitLimit < whole.length) :
    Overruns (String.ofList whole) (.reading whole.length) := by
  have ends : EndsWhole [] := ⟨nofun, nofun, nofun⟩
  refine ⟨⟨[], nofun⟩, whole, String.toList_ofList, ?_⟩
  simpa using ValueOverruns.number false isWhole long ends

end ImageCatalog.Json
