import ImageCatalog.Proofs.Json.Spelt

/-!
# The texts that are accepted

Every spelling is read as the value that it spells, so that together with `exists_document_of_read`
the accepted texts are exactly the spelt ones, and a text has one value only, however it is taken
apart. What follows a value is kept general; it only must not go on with a number. The induction is
over the spelling, which spends one unit of the budget for each level of nesting and for each item,
while each of them takes at least one character.
-/

namespace ImageCatalog.Json

open Number Results Text

variable {rest : List Char}

/-! ## Ends of numbers -/

/-- A number ends before blanks, whatever stands behind them, if it ends without the blanks. -/
theorem Gap.endsNumber (gap : Gap) (ends : EndsNumber rest) : EndsNumber (gap.1 ++ rest) := by
  rcases gap with ⟨chars, areGaps⟩
  cases chars with
  | nil => exact ends
  | cons first others =>
      have gap := areGaps first List.mem_cons_self
      simp only [isGap, Bool.or_eq_true, beq_iff_eq] at gap
      refine endsNumber_cons ?_ _
      rcases gap with ((rfl | rfl) | rfl) | rfl <;> decide

/-! ## Numbers and words -/

theorem splitExponentSign_signChars (exponent : Exponent) (rest : List Char) :
    splitExponentSign (exponent.signChars ++ (exponent.digits ++ rest)) =
      (decide (exponent.negative? = some true), exponent.digits ++ rest) := by
  rcases exponent with ⟨capital, negative?, digits, areDigits, nonempty⟩
  cases negative? with
  | none =>
      rcases List.exists_cons_of_ne_nil nonempty with ⟨first, others, rfl⟩
      have isDigit := areDigits first List.mem_cons_self
      simp only [Exponent.signChars, Option.map_none, Option.toList_none, List.nil_append,
        List.cons_append]
      unfold splitExponentSign
      split
      · next same => cases (List.cons.inj same).1 ▸ isDigit
      · next same => cases (List.cons.inj same).1 ▸ isDigit
      · rfl
  | some negative => cases negative <;> rfl

theorem splitExponent_chars (exponent : Exponent)
    (ends : ∀ char ∈ rest.head?, char.isDigit = false) :
    splitExponent (exponent.chars ++ rest) = (some exponent.value, rest) := by
  have mark : (if exponent.capital then 'E' else 'e') = 'e' ∨
      (if exponent.capital then 'E' else 'e') = 'E' := by
    cases exponent.capital <;> decide
  have kept : exponent.digits.isEmpty = false := List.isEmpty_eq_false_iff.mpr exponent.nonempty
  simp only [Exponent.chars, List.cons_append, List.append_assoc, splitExponent, mark, if_true,
    splitExponentSign_signChars, takeWhile_digits exponent.areDigits ends,
    dropWhile_digits exponent.areDigits ends, kept, Bool.false_eq_true, if_false, Exponent.value,
    decide_eq_true_eq]

theorem splitExponent_exponent? (exponent? : Option Exponent) (ends : EndsNumber rest) :
    splitExponent ((exponent?.map Exponent.chars).getD [] ++ rest) =
      (exponent?.map Exponent.value, rest) := by
  cases exponent? with
  | none => exact splitExponent_of_endsNumber ends
  | some exponent => exact splitExponent_chars exponent ends.digit

theorem head?_exponent? (exponent? : Option Exponent) (ends : EndsNumber rest) :
    ∀ char ∈ ((exponent?.map Exponent.chars).getD [] ++ rest).head?,
      char.isDigit = false ∧ char ≠ '.' := by
  cases exponent? with
  | none => exact fun char found => ⟨ends.digit char found, fun same => ends.point (same ▸ found)⟩
  | some exponent =>
      rintro char ⟨⟩
      cases exponent.capital <;> decide

/-- A number is read as the number that is spelt, whatever follows that is no part of it. -/
theorem Numeral.readNumber_chars (numeral : Numeral) (ends : EndsNumber rest) :
    readNumber numeral.negative (numeral.magnitudeChars ++ rest) = .ok (numeral.value, rest) := by
  unfold value
  split
  · next bare =>
      rw [numeral.magnitudeChars_of_bare bare]
      exact readNumber_whole numeral.isWhole (numeral.short bare) ends
  · next notBare =>
      have head := head?_exponent? numeral.exponent? ends
      have real : (numeral.fraction.isEmpty &&
          (numeral.exponent?.map Exponent.value).isNone) = false := by
        rw [Option.isNone_map, ← Bool.not_eq_true]
        exact notBare
      rw [magnitudeChars, List.append_assoc, List.append_assoc]
      exact readNumber_real numeral.isWhole numeral.areDigits
        (fun char found => (head char found).1) (fun found => (head '.' found).2 rfl)
        (splitExponent_exponent? numeral.exponent? ends) real

theorem Numeral.readScalar_chars (numeral : Numeral) (ends : EndsNumber rest) :
    readScalar (numeral.chars ++ rest) = .ok (numeral.value, rest) := by
  rw [← readScalar_of_readNumber (numeral.readNumber_chars ends) ok_ne_error, chars]
  split <;> rfl

theorem Word.readScalar_chars (word : Word) (rest : List Char) :
    readScalar (word.chars ++ rest) = .ok (word.value, rest) := by
  have reads := readWord_append word.chars word.value rest
  rw [← reads]
  cases word with
  | null => rfl
  | flag value => cases value <;> rfl
  | notANumber => rfl
  | infinity negative => cases negative <;> rfl

/-! ## Values -/

/-- Behind a name and its colon stands the content of a field, and what follows that decides how the
fields go on. -/
theorem Label.readFields_chars (label : Label) {budget : Nat} {tail : List Char}
    {result : Except Fault (Value × List Char)} (reads : readValue budget tail = result)
    (wellFormed : result ≠ .error .malformed) :
    readFields (budget + 1) (label.chars ++ tail) = (do
      let (content, after) ← result
      match skipGap after with
      | ',' :: more =>
        let (fields, left) ← readFields budget (skipGap more)
        return ((textOf label.name, content) :: fields, left)
      | '\x7d' :: left => .ok ([(textOf label.name, content)], left)
      | _ => .error .malformed) := by
  have colon : skipGap (label.before.1 ++ ':' :: (label.after.1 ++ tail)) =
      ':' :: (label.after.1 ++ tail) := skipGap_append label.before.2 _
  have skips : skipGap (label.after.1 ++ tail) = tail :=
    (skipGap_append label.after.2 _).trans (skipGap_of_readValue reads wellFormed)
  simp only [Label.chars, List.cons_append, List.append_assoc, readFields, readText_pieces, bind,
    Except.bind, colon, skips, reads]
  cases result <;> rfl

mutual

theorem Spelling.readValue_chars : ∀ (spelling : Spelling) {budget : Nat} {rest : List Char},
    spelling.chars.length ≤ budget → EndsNumber rest →
      readValue budget (spelling.chars ++ rest) = .ok (spelling.value, rest)
  | .word word, budget, rest, enough, _ => by
    have some := List.length_pos_of_ne_nil word.chars_ne_nil
    have read := word.readScalar_chars rest
    exact readValue_of_readScalar (Nat.lt_of_lt_of_le some enough) read ok_ne_error
  | .number numeral, budget, rest, enough, ends => by
    have some := List.length_pos_of_ne_nil numeral.chars_ne_nil
    have read := numeral.readScalar_chars ends
    exact readValue_of_readScalar (Nat.lt_of_lt_of_le some enough) read ok_ne_error
  | .text pieces, budget, rest, enough, _ => by
    rcases Nat.exists_eq_add_of_le' (Nat.le_trans (Nat.le_add_left 1 _) enough) with ⟨others, rfl⟩
    rw [Spelling.chars, List.cons_append, readValue, readText_pieces]
    rfl
  | .emptyList gap, budget, rest, enough, _ => by
    rcases Nat.exists_eq_add_of_le' (Nat.le_trans (Nat.le_add_left 1 _) enough) with ⟨others, rfl⟩
    have skips : skipGap (gap.1 ++ ([']'] ++ rest)) = ']' :: rest := skipGap_append gap.2 _
    rw [Spelling.chars, List.cons_append, List.append_assoc]
    simp only [readValue, skips]
    rfl
  | .list gap items, budget, rest, enough, _ => by
    rcases Nat.exists_eq_add_of_le' (Nat.le_trans (Nat.le_add_left 1 _) enough) with ⟨others, rfl⟩
    simp only [Spelling.chars, List.length_cons, List.length_append] at enough
    have read := items.readItems_chars rest (show _ < others by omega)
    rw [Spelling.chars, List.cons_append, List.append_assoc, List.append_assoc]
    exact readValue_list read ok_ne_error gap.2
  | .emptyObject gap, budget, rest, enough, _ => by
    rcases Nat.exists_eq_add_of_le' (Nat.le_trans (Nat.le_add_left 1 _) enough) with ⟨others, rfl⟩
    have skips : skipGap (gap.1 ++ (['\x7d'] ++ rest)) = '\x7d' :: rest := skipGap_append gap.2 _
    rw [Spelling.chars, List.cons_append, List.append_assoc]
    simp only [readValue, skips]
    rfl
  | .object gap fields, budget, rest, enough, _ => by
    rcases Nat.exists_eq_add_of_le' (Nat.le_trans (Nat.le_add_left 1 _) enough) with ⟨others, rfl⟩
    simp only [Spelling.chars, List.length_cons, List.length_append] at enough
    have read := fields.readFields_chars rest (show _ < others by omega)
    rw [Spelling.chars, List.cons_append, List.append_assoc, List.append_assoc]
    exact readValue_object read ok_ne_error gap.2

theorem Items.readItems_chars : ∀ (items : Items) {budget : Nat} (rest : List Char),
    items.chars.length < budget →
      readItems budget (items.chars ++ ']' :: rest) = .ok (items.values, rest)
  | .last item gap, budget + 1, rest, enough => by
    rw [Items.chars, List.length_append] at enough
    have read := item.readValue_chars (show _ ≤ budget by omega)
      (gap.endsNumber (endsNumber_cons (show ']' ∈ _ by simp) rest))
    rw [Items.chars, List.append_assoc, readItems, read]
    simp only [bind, Except.bind, skipGap_append gap.2]
    rfl
  | .more item before after others, budget + 1, rest, enough => by
    simp only [Items.chars, List.length_append, List.length_cons] at enough
    have read (tail : List Char) := item.readValue_chars (show _ ≤ budget by omega)
      (before.endsNumber (endsNumber_comma tail))
    have further := others.readItems_chars rest (show _ < budget by omega)
    have skips := (skipGap_append after.2 _).trans (skipGap_of_readItems further ok_ne_error)
    simp only [Items.chars, List.append_assoc, List.cons_append, readItems, read, bind, Except.bind,
      skipGap_append before.2]
    rw [skipGap_cons rfl]
    simp only [skips, further]
    rfl

theorem Fields.readFields_chars : ∀ (fields : Fields) {budget : Nat} (rest : List Char),
    fields.chars.length < budget →
      readFields budget (fields.chars ++ '\x7d' :: rest) = .ok (fields.entries, rest)
  | .last label content gap, budget + 1, rest, enough => by
    simp only [Fields.chars, List.length_append] at enough
    have read := content.readValue_chars (show _ ≤ budget by omega)
      (gap.endsNumber (endsNumber_cons (show '\x7d' ∈ _ by simp) rest))
    rw [Fields.chars, List.append_assoc, List.append_assoc, label.readFields_chars read ok_ne_error]
    simp only [bind, Except.bind, skipGap_append gap.2]
    rfl
  | .more label content before after others, budget + 1, rest, enough => by
    simp only [Fields.chars, List.length_append, List.length_cons] at enough
    have read (tail : List Char) := content.readValue_chars (show _ ≤ budget by omega)
      (before.endsNumber (endsNumber_comma tail))
    have further := others.readFields_chars rest (show _ < budget by omega)
    have skips := (skipGap_append after.2 _).trans (skipGap_of_readFields further ok_ne_error)
    simp only [Fields.chars, List.append_assoc, List.cons_append]
    rw [label.readFields_chars (read _) ok_ne_error]
    simp only [bind, Except.bind, skipGap_append before.2]
    rw [skipGap_cons rfl]
    simp only [skips, further]
    rfl

end

/-- Every spelt text is read as the value that is spelt. -/
theorem Document.readAll_chars (document : Document) :
    readAll document.chars = .ok document.content.value := by
  have budget : document.content.chars.length ≤ 2 * document.chars.length + 2 := by
    simp only [Document.chars, List.length_append]
    omega
  have read := document.content.readValue_chars budget
    (List.append_nil document.after.1 ▸ document.after.endsNumber endsNumber_nil)
  have skips : skipGap document.chars = document.content.chars ++ document.after.1 :=
    (skipGap_append document.before.2 _).trans (skipGap_of_readValue read ok_ne_error)
  have blank : skipGap document.after.1 = [] :=
    List.append_nil document.after.1 ▸ skipGap_append document.after.2 []
  rw [readAll, skips, read]
  simp only [bind, Except.bind, blank]
  rfl

/-- The accepted texts are exactly the spelt ones. -/
theorem read_eq_ok_iff {text : String} {value : Value} :
    read text = .ok value ↔
      ∃ document : Document, document.chars = text.toList ∧ document.content.value = value := by
  constructor
  · exact exists_document_of_read
  · rintro ⟨document, spelt, rfl⟩
    rw [read, ← spelt]
    exact document.readAll_chars

end ImageCatalog.Json
