import ImageCatalog.Proofs.Json.Spelling

/-!
# Every text that is read is spelt

Whatever text the reader accepts, there is a spelling of the value that it reads, and the text is
the one that is spelt. The proof follows the reader, with one lemma for each of its functions and an
induction over the budget at the end.
-/

namespace ImageCatalog.Json

open Number Results Text

/-! ## Blanks -/

/-- The blanks at the front of a text. -/
def gapOf (chars : List Char) : Gap :=
  ⟨chars.takeWhile isGap, fun _ member => List.all_eq_true.mp List.all_takeWhile _ member⟩

theorem gapOf_append_skipGap (chars : List Char) : (gapOf chars).1 ++ skipGap chars = chars :=
  List.takeWhile_append_dropWhile

/-! ## Reading texts -/

variable {chars rest raw : List Char}

theorem eq_of_splitQuoted (splits : splitQuoted chars = some (raw, rest)) :
    chars = raw ++ '"' :: rest := by
  induction chars using splitQuoted.induct generalizing raw with
  | case1 => cases splits
  | case2 others =>
      cases splits
      rfl
  | case3 char others hypothesis =>
      rw [splitQuoted] at splits
      rcases Option.map_eq_some_iff.mp splits with ⟨⟨inner, left⟩, found, made⟩
      cases made
      rw [hypothesis found]
      rfl
  | case4 char others notQuote notEscape hypothesis =>
      rw [splitQuoted] at splits
      · rcases Option.map_eq_some_iff.mp splits with ⟨⟨inner, left⟩, found, made⟩
        cases made
        rw [hypothesis found]
        rfl
      · exact notQuote
      · exact notEscape

/-- What is kept at the front of a quoted text does not matter for the rest of it. -/
theorem splits_of_map (front : List Char)
    (splits : (splitQuoted chars).map (fun (raw, left) => (front ++ raw, left)) =
      some (front ++ raw, rest)) : splitQuoted chars = some (raw, rest) := by
  rcases Option.map_eq_some_iff.mp splits with ⟨⟨inner, left⟩, found, made⟩
  simp only [Prod.mk.injEq, List.append_cancel_left_eq] at made
  rw [found, made.1, made.2]

/-- Between quotes that belong together, code units are spelt in pieces. -/
theorem exists_pieces_of_readUnits {units : List Nat} (reads : readUnits raw = some units)
    (splits : splitQuoted (raw ++ '"' :: rest) = some (raw, rest)) :
    ∃ pieces : List Piece, pieces.flatMap Piece.chars = raw ∧ pieces.map Piece.unit = units := by
  induction raw using readUnits.induct generalizing units with
  | case1 =>
      cases reads
      exact ⟨[], rfl, rfl⟩
  | case2 a b c d others hypothesis =>
      simp only [readUnits, Option.bind_eq_bind, Option.bind_eq_some_iff, Option.pure_def,
        Option.some.injEq] at reads
      rcases reads with ⟨value, means, later, found, rfl⟩
      have digits := (of_hexToNat? means).1
      simp only [List.forall_mem_cons] at digits
      obtain ⟨first, second, third, fourth, _⟩ := digits
      simp only [List.cons_append, splitQuoted, splitQuoted_alphanum first,
        splitQuoted_alphanum second, splitQuoted_alphanum third, splitQuoted_alphanum fourth,
        Option.map_map] at splits
      rcases hypothesis found (splits_of_map ['\\', 'u', a, b, c, d] splits) with
        ⟨pieces, rfl, rfl⟩
      exact ⟨.code a b c d value means :: pieces, rfl, rfl⟩
  | case3 letter others notNumeric hypothesis =>
      rw [readUnits] at reads
      · simp only [Option.bind_eq_bind, Option.bind_eq_some_iff, Option.pure_def,
          Option.some.injEq] at reads
        rcases reads with ⟨char, means, later, found, rfl⟩
        simp only [List.cons_append, splitQuoted] at splits
        rcases hypothesis found (splits_of_map ['\\', letter] splits) with
          ⟨pieces, rfl, rfl⟩
        exact ⟨.short letter char means :: pieces, rfl, rfl⟩
      · exact notNumeric
  | case4 char others notNumeric notShort bad =>
      rw [readUnits] at reads
      · rw [if_pos bad] at reads
        cases reads
      · exact notNumeric
      · exact notShort
  | case5 char others notNumeric notShort good hypothesis =>
      rw [readUnits] at reads
      · rw [if_neg good] at reads
        rcases Option.map_eq_some_iff.mp reads with ⟨later, found, rfl⟩
        rw [not_or, Nat.not_lt] at good
        have notQuote : char ≠ '"' := by
          rintro rfl
          simp [splitQuoted] at splits
        rw [List.cons_append, splitQuoted_plain notQuote good.1] at splits
        rcases hypothesis found (splits_of_map [char] splits) with ⟨pieces, rfl, rfl⟩
        exact ⟨.plain char ⟨notQuote, good⟩ :: pieces, rfl, rfl⟩
      · exact notNumeric
      · exact notShort

theorem exists_pieces_of_readText {text : String} (reads : readText chars = .ok (text, rest)) :
    ∃ pieces, chars = quotedRest pieces ++ rest ∧ textOf pieces = text := by
  unfold readText at reads
  split at reads
  · cases reads
  · next raw left splits =>
      split at reads
      · cases reads
      · next units found =>
          cases reads
          have whole := eq_of_splitQuoted splits
          rcases exists_pieces_of_readUnits found (whole ▸ splits) with ⟨pieces, rfl, rfl⟩
          refine ⟨pieces, ?_, rfl⟩
          rw [whole, quotedRest, List.append_assoc]
          rfl

/-- A name that is read with a colon behind it is spelt by a label. -/
theorem exists_label_of_readText {name : String} {after tail : List Char}
    (reads : readText chars = .ok (name, after)) (colon : skipGap after = ':' :: tail) :
    ∃ label : Label, textOf label.name = name ∧ '"' :: chars = label.chars ++ skipGap tail := by
  rcases exists_pieces_of_readText reads with ⟨pieces, rfl, rfl⟩
  have blanks := gapOf_append_skipGap after
  refine ⟨⟨pieces, gapOf after, gapOf tail⟩, rfl, ?_⟩
  rw [Label.chars, List.cons_append, List.append_assoc, List.append_assoc, List.cons_append,
    gapOf_append_skipGap, ← colon, blanks]

/-! ## Reading numbers -/

variable {value : Value}

theorem areDigits_takeWhile (chars : List Char) : AreDigits (chars.takeWhile Char.isDigit) :=
  fun _ member => List.all_eq_true.mp List.all_takeWhile _ member

theorem splitWhole_eq (chars : List Char) :
    (splitWhole chars).1 ++ (splitWhole chars).2 = chars ∧
      ((splitWhole chars).1 ≠ [] → IsWhole (splitWhole chars).1) := by
  unfold splitWhole
  split
  · exact ⟨rfl, fun some => ⟨areDigits_zeros 1, some, .inl rfl⟩⟩
  · next notZero =>
      refine ⟨List.takeWhile_append_dropWhile, fun some =>
        ⟨areDigits_takeWhile chars, some, .inr fun zero => ?_⟩⟩
      cases chars with
      | nil => cases zero
      | cons first others =>
          rw [List.takeWhile_cons] at zero
          split at zero
          · cases zero
            exact notZero _ rfl
          · cases zero

theorem splitFraction_eq (chars : List Char) :
    pointed (splitFraction chars).1 ++ (splitFraction chars).2 = chars ∧
      AreDigits (splitFraction chars).1 := by
  unfold splitFraction
  split
  · next others =>
      simp only
      split
      · exact ⟨rfl, fun _ member => absurd member List.not_mem_nil⟩
      · next some =>
          refine ⟨?_, areDigits_takeWhile others⟩
          rw [pointed_of_ne_nil (mt List.isEmpty_iff.mpr some), List.cons_append,
            List.takeWhile_append_dropWhile]
  · exact ⟨rfl, fun _ member => absurd member List.not_mem_nil⟩

theorem splitExponentSign_eq (chars : List Char) :
    ∃ negative? : Option Bool, (splitExponentSign chars).1 = decide (negative? = some true) ∧
      (negative?.map fun negative => if negative then '-' else '+').toList ++
        (splitExponentSign chars).2 = chars := by
  unfold splitExponentSign
  split
  · exact ⟨some true, rfl, rfl⟩
  · exact ⟨some false, rfl, rfl⟩
  · exact ⟨none, rfl, rfl⟩

theorem splitExponent_eq (chars : List Char) :
    ∃ exponent? : Option Exponent, (splitExponent chars).1 = exponent?.map Exponent.value ∧
      (exponent?.map Exponent.chars).getD [] ++ (splitExponent chars).2 = chars := by
  unfold splitExponent
  split
  · next mark others =>
      split
      · next isMark =>
          simp only
          split
          · exact ⟨none, rfl, rfl⟩
          · next some =>
              rcases splitExponentSign_eq others with ⟨negative?, sign, split⟩
              let exponent : Exponent := ⟨decide (mark = 'E'), negative?, _,
                areDigits_takeWhile (splitExponentSign others).2, mt List.isEmpty_iff.mpr some⟩
              refine ⟨.some exponent, ?_, ?_⟩
              · rw [sign]
                simp [exponent, Exponent.value]
              · have spelt : (if decide (mark = 'E') = true then 'E' else 'e') = mark := by
                  rcases isMark with rfl | rfl <;> rfl
                rw [Option.map_some, Option.getD_some, Exponent.chars, spelt, List.cons_append,
                  List.append_assoc, List.takeWhile_append_dropWhile, Exponent.signChars, split]
      · exact ⟨none, rfl, rfl⟩
  · exact ⟨none, rfl, rfl⟩

theorem readDigits_eq_ok {digits : List Char} {number : Nat}
    (reads : readDigits digits = .ok number) :
    digits.length ≤ digitLimit ∧ digitsToNat digits = number := by
  unfold readDigits at reads
  split at reads
  · cases reads
  · next short => exact ⟨Nat.not_lt.mp short, Except.ok.inj reads⟩

theorem exists_numeral_of_readNumber {negative : Bool}
    (reads : readNumber negative chars = .ok (value, rest)) :
    ∃ numeral : Numeral, numeral.negative = negative ∧ chars = numeral.magnitudeChars ++ rest ∧
      numeral.value = value := by
  rcases splitWhole_eq chars with ⟨wholeChars, isWhole⟩
  rcases splitFraction_eq (splitWhole chars).2 with ⟨fractionChars, areDigits⟩
  rcases splitExponent_eq (splitFraction (splitWhole chars).2).2 with
    ⟨exponent?, exponent, exponentChars⟩
  have spelt : chars = (splitWhole chars).1 ++ (pointed (splitFraction (splitWhole chars).2).1 ++
      (exponent?.map Exponent.chars).getD []) ++
        (splitExponent (splitFraction (splitWhole chars).2).2).2 := by
    rw [List.append_assoc, List.append_assoc, exponentChars, fractionChars, wholeChars]
  have noExponent : (exponent?.map Exponent.value).isNone = exponent?.isNone := by
    cases exponent? <;> rfl
  unfold readNumber at reads
  simp only [exponent, noExponent] at reads
  split at reads
  · cases reads
  · next some =>
      have whole := isWhole (mt List.isEmpty_iff.mpr some)
      split at reads
      · next isInt =>
          cases found : readDigits (splitWhole chars).1 with
          | error overflow => simp [found] at reads
          | ok magnitude =>
              rcases readDigits_eq_ok found with ⟨short, rfl⟩
              simp only [found, Except.ok.injEq, Prod.mk.injEq] at reads
              refine ⟨⟨negative, _, _, exponent?, whole, areDigits, fun _ => short⟩, rfl, ?_, ?_⟩
              · rw [← reads.2]
                exact spelt
              · rw [← reads.1, Numeral.value, if_pos isInt]
      · next isReal =>
          simp only [Except.ok.injEq, Prod.mk.injEq] at reads
          refine ⟨⟨negative, _, _, exponent?, whole, areDigits, fun isInt => absurd isInt isReal⟩,
            rfl, ?_, ?_⟩
          · rw [← reads.2]
            exact spelt
          · rw [← reads.1, Numeral.value, if_neg isReal]

/-! ## Reading values -/

theorem eq_append_of_readWord {word : List Char} {meaning : Value}
    (reads : readWord word meaning chars = .ok (value, rest)) :
    chars = word ++ rest ∧ meaning = value := by
  unfold readWord at reads
  split at reads
  · next front =>
      rcases List.isPrefixOf_iff_prefix.mp front with ⟨others, rfl⟩
      cases reads
      rw [List.drop_left]
      exact ⟨rfl, rfl⟩
  · cases reads

theorem exists_spelling_of_readScalar (reads : readScalar chars = .ok (value, rest)) :
    ∃ spelling : Spelling, chars = spelling.chars ++ rest ∧ spelling.value = value := by
  have ofWord (word : Word) (found : readWord word.chars word.value chars = .ok (value, rest)) :
      ∃ spelling : Spelling, chars = spelling.chars ++ rest ∧ spelling.value = value :=
    ⟨.word word, by simpa only [Spelling.chars, Spelling.value] using eq_append_of_readWord found⟩
  unfold readScalar at reads
  split at reads
  · exact ofWord .null reads
  · exact ofWord (.flag true) reads
  · exact ofWord (.flag false) reads
  · exact ofWord .notANumber reads
  · exact ofWord (.infinity false) reads
  · exact ofWord (.infinity true) reads
  · rcases exists_numeral_of_readNumber reads with ⟨numeral, negative, rfl, made⟩
    refine ⟨.number numeral, ?_, by rw [Spelling.value, made]⟩
    rw [Spelling.chars, Numeral.chars, negative]
    rfl
  · rcases exists_numeral_of_readNumber reads with ⟨numeral, negative, rfl, made⟩
    refine ⟨.number numeral, ?_, by rw [Spelling.value, made]⟩
    rw [Spelling.chars, Numeral.chars, negative]
    rfl

/-- What is read within a budget is spelt in some way. -/
structure IsSpelt (budget : Nat) : Prop where
  value : ∀ {chars rest : List Char} {value : Value},
    readValue budget chars = .ok (value, rest) →
      ∃ spelling : Spelling, chars = spelling.chars ++ rest ∧ spelling.value = value
  items : ∀ {chars rest : List Char} {items : List Value},
    readItems budget chars = .ok (items, rest) →
      ∃ spelling : Items, chars = spelling.chars ++ ']' :: rest ∧ spelling.values = items
  fields : ∀ {chars rest : List Char} {fields : List (String × Value)},
    readFields budget chars = .ok (fields, rest) →
      ∃ spelling : Fields, chars = spelling.chars ++ '\x7d' :: rest ∧ spelling.entries = fields

variable {budget : Nat}

theorem IsSpelt.items_succ (isSpelt : IsSpelt budget) {items : List Value}
    (reads : readItems (budget + 1) chars = .ok (items, rest)) :
    ∃ spelling : Items, chars = spelling.chars ++ ']' :: rest ∧ spelling.values = items := by
  rw [readItems] at reads
  rcases bind_ok reads with ⟨⟨item, afterItem⟩, first, onward⟩
  rcases isSpelt.value first with ⟨spelling, rfl, rfl⟩
  have blanks := gapOf_append_skipGap afterItem
  simp only at onward
  split at onward
  · next tail comma =>
      rcases bind_ok onward with ⟨⟨others, left⟩, further, made⟩
      rcases isSpelt.items further with ⟨others, split, rfl⟩
      cases made
      refine ⟨.more spelling (gapOf afterItem) (gapOf tail) others, ?_, rfl⟩
      rw [Items.chars, List.append_assoc, List.append_assoc, List.cons_append, List.append_assoc,
        ← split, gapOf_append_skipGap, ← comma, blanks]
  · next left closing =>
      cases onward
      refine ⟨.last spelling (gapOf afterItem), ?_, rfl⟩
      rw [Items.chars, List.append_assoc, ← closing, blanks]
  · cases onward

theorem IsSpelt.fields_succ (isSpelt : IsSpelt budget) {fields : List (String × Value)}
    (reads : readFields (budget + 1) chars = .ok (fields, rest)) :
    ∃ spelling : Fields, chars = spelling.chars ++ '\x7d' :: rest ∧ spelling.entries = fields := by
  unfold readFields at reads
  split at reads
  · rcases bind_ok reads with ⟨⟨name, afterName⟩, quoted, named⟩
    simp only at named
    split at named
    · next tail colon =>
        rcases exists_label_of_readText quoted colon with ⟨label, rfl, labelled⟩
        rcases bind_ok named with ⟨⟨content, afterContent⟩, first, onward⟩
        rcases isSpelt.value first with ⟨spelling, spelt, rfl⟩
        have blanks := gapOf_append_skipGap afterContent
        rw [labelled, spelt]
        simp only at onward
        split at onward
        · next more comma =>
            rcases bind_ok onward with ⟨⟨others, left⟩, further, made⟩
            rcases isSpelt.fields further with ⟨others, split, rfl⟩
            cases made
            refine ⟨.more label spelling (gapOf afterContent) (gapOf more) others, ?_, rfl⟩
            rw [Fields.chars]
            simp only [List.append_assoc, List.cons_append]
            rw [← split, gapOf_append_skipGap, ← comma, blanks]
        · next left closing =>
            cases onward
            refine ⟨.last label spelling (gapOf afterContent), ?_, rfl⟩
            rw [Fields.chars]
            simp only [List.append_assoc]
            rw [← closing, blanks]
        · cases onward
    · cases named
  · cases reads

theorem IsSpelt.value_succ (isSpelt : IsSpelt budget)
    (reads : readValue (budget + 1) chars = .ok (value, rest)) :
    ∃ spelling : Spelling, chars = spelling.chars ++ rest ∧ spelling.value = value := by
  unfold readValue at reads
  split at reads
  · rcases map_ok reads with ⟨⟨found, left⟩, quoted, made⟩
    cases made
    rcases exists_pieces_of_readText quoted with ⟨pieces, rfl, rfl⟩
    exact ⟨.text pieces, rfl, rfl⟩
  · next others =>
      have blanks := gapOf_append_skipGap others
      split at reads
      · next left closing =>
          cases reads
          refine ⟨.emptyList (gapOf others), ?_, rfl⟩
          rw [Spelling.chars, List.cons_append, List.append_assoc, List.singleton_append, ← closing,
            blanks]
      · rcases map_ok reads with ⟨⟨items, left⟩, found, made⟩
        cases made
        rcases isSpelt.items found with ⟨spelling, split, rfl⟩
        refine ⟨.list (gapOf others) spelling, ?_, rfl⟩
        rw [Spelling.chars, List.cons_append, List.append_assoc, List.append_assoc,
          List.singleton_append, ← split, blanks]
  · next others =>
      have blanks := gapOf_append_skipGap others
      split at reads
      · next left closing =>
          cases reads
          refine ⟨.emptyObject (gapOf others), ?_, rfl⟩
          rw [Spelling.chars, List.cons_append, List.append_assoc, List.singleton_append, ← closing,
            blanks]
      · rcases map_ok reads with ⟨⟨fields, left⟩, found, made⟩
        cases made
        rcases isSpelt.fields found with ⟨spelling, split, rfl⟩
        refine ⟨.object (gapOf others) spelling, ?_, rfl⟩
        rw [Spelling.chars, List.cons_append, List.append_assoc, List.append_assoc,
          List.singleton_append, ← split, blanks]
  · exact exists_spelling_of_readScalar reads

/-- The induction over the budget of the reader. -/
theorem isSpelt (budget : Nat) : IsSpelt budget := by
  induction budget with
  | zero =>
      constructor
      · intro _ _ _ reads
        cases reads
      · intro _ _ _ reads
        cases reads
      · intro _ _ _ reads
        cases reads
  | succ budget hypothesis =>
      exact ⟨hypothesis.value_succ, hypothesis.items_succ, hypothesis.fields_succ⟩

/-- Every text that is read is spelt in some way. -/
theorem exists_document_of_read {text : String} (reads : read text = .ok value) :
    ∃ document : Document, document.chars = text.toList ∧ document.content.value = value := by
  rcases bind_ok reads with ⟨⟨found, left⟩, values, ends⟩
  simp only at ends
  split at ends
  · next blank =>
      cases ends
      rcases (isSpelt _).value values with ⟨spelling, split, rfl⟩
      refine ⟨⟨gapOf text.toList, spelling, gapOf left⟩, ?_, rfl⟩
      have after := gapOf_append_skipGap left
      rw [List.isEmpty_iff.mp blank, List.append_nil] at after
      rw [Document.chars, after, ← split, gapOf_append_skipGap]
  · cases ends

end ImageCatalog.Json
