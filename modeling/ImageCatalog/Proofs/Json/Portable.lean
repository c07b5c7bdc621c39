import ImageCatalog.Proofs.Json.Spelt
import ImageCatalog.Yaml.Token.Lexer

/-!
# Texts that mean the same in YAML

Most JSON texts are YAML documents with the same meaning, but not all of them. Such documents have
no tabs between their parts, and only certain characters elsewhere; their real numbers have a
fraction, and a sign in front of every exponent; they have no words for numbers that are not finite;
they do not put the halves of a pair together; and a key must be short and stand on the line of its
colon. `IsPortable` collects what this asks of a spelling.
-/

namespace ImageCatalog.Json

open Text Yaml

/-! ## Portable spellings -/

/-- Whether a piece of a text is portable: a character that stands for itself must be allowed in a
document, and must not end a line there. -/
def Piece.IsPortable : Piece → Prop
  | .plain char _ => isDocumentChar char = true ∧ isBreak char = false
  | .short _ _ _ => True
  | .code _ _ _ _ _ _ => True

/-- Whether two code units are the halves of a pair. -/
def IsPair (high low : Nat) : Prop :=
  0xD800 ≤ high ∧ high ≤ 0xDBFF ∧ 0xDC00 ≤ low ∧ low ≤ 0xDFFF

/-- Whether a text is portable. -/
structure IsPortableText (pieces : List Piece) : Prop where
  each : ∀ piece ∈ pieces, piece.IsPortable
  unpaired : (pieces.map Piece.unit).IsChain fun high low => ¬IsPair high low

/-- Whether a number is portable. -/
def Numeral.IsPortable (numeral : Numeral) : Prop :=
  ∀ exponent ∈ numeral.exponent?, numeral.fraction ≠ [] ∧ exponent.negative?.isSome = true

/-- Whether a word is portable. -/
def Word.IsPortable : Word → Prop
  | .null => True
  | .flag _ => True
  | .notANumber => False
  | .infinity _ => False

/-- Whether some blanks are portable. -/
def IsPortableGap (gap : Gap) : Prop :=
  '\t' ∉ gap.1

/-- Whether the name of a field is portable: its colon follows on the same line, and not too far
from where the name starts. -/
structure Label.IsPortable (label : Label) : Prop where
  name : IsPortableText label.name
  inline : ∀ char ∈ label.before.1, char = ' '
  near : (quotedRest label.name).length + 1 + label.before.1.length ≤ 1024
  after : IsPortableGap label.after

mutual

/-- Whether a value is spelt in a portable way. -/
def Spelling.IsPortable : Spelling → Prop
  | .word word => word.IsPortable
  | .number numeral => numeral.IsPortable
  | .text pieces => IsPortableText pieces
  | .emptyList gap => IsPortableGap gap
  | .list gap items => IsPortableGap gap ∧ items.IsPortable
  | .emptyObject gap => IsPortableGap gap
  | .object gap fields => IsPortableGap gap ∧ fields.IsPortable

/-- Whether the items of a list are spelt in a portable way. -/
def Items.IsPortable : Items → Prop
  | .last item gap => item.IsPortable ∧ IsPortableGap gap
  | .more item before after others =>
    item.IsPortable ∧ IsPortableGap before ∧ IsPortableGap after ∧ others.IsPortable

/-- Whether the fields of an object are spelt in a portable way. -/
def Fields.IsPortable : Fields → Prop
  | .last label content gap => label.IsPortable ∧ content.IsPortable ∧ IsPortableGap gap
  | .more label content before after others =>
    label.IsPortable ∧ content.IsPortable ∧ IsPortableGap before ∧ IsPortableGap after ∧
      others.IsPortable

end

/-- Whether a whole text is portable. -/
structure Document.IsPortable (document : Document) : Prop where
  before : IsPortableGap document.before
  content : document.content.IsPortable
  after : IsPortableGap document.after

/-! ## Deciding portability -/

instance (piece : Piece) : Decidable piece.IsPortable :=
  match piece with
  | .plain _ _ => inferInstanceAs (Decidable (_ ∧ _))
  | .short _ _ _ => inferInstanceAs (Decidable True)
  | .code _ _ _ _ _ _ => inferInstanceAs (Decidable True)

instance (high low : Nat) : Decidable (IsPair high low) :=
  inferInstanceAs (Decidable (_ ∧ _))

instance (pieces : List Piece) : Decidable (IsPortableText pieces) :=
  decidable_of_iff ((∀ piece ∈ pieces, piece.IsPortable) ∧
      (pieces.map Piece.unit).IsChain fun high low => ¬IsPair high low)
    ⟨fun both => ⟨both.1, both.2⟩, fun portable => ⟨portable.each, portable.unpaired⟩⟩

instance (numeral : Numeral) : Decidable numeral.IsPortable :=
  inferInstanceAs (Decidable (∀ exponent ∈ numeral.exponent?, _))

instance (word : Word) : Decidable word.IsPortable :=
  match word with
  | .null => inferInstanceAs (Decidable True)
  | .flag _ => inferInstanceAs (Decidable True)
  | .notANumber => inferInstanceAs (Decidable False)
  | .infinity _ => inferInstanceAs (Decidable False)

instance (gap : Gap) : Decidable (IsPortableGap gap) :=
  inferInstanceAs (Decidable (_ ∉ _))

instance (label : Label) : Decidable label.IsPortable :=
  decidable_of_iff (IsPortableText label.name ∧ label.before.1.all (· == ' ') = true ∧
      (quotedRest label.name).length + 1 + label.before.1.length ≤ 1024 ∧
      IsPortableGap label.after)
    ⟨fun all => ⟨all.1, by simpa using all.2.1, all.2.2.1, all.2.2.2⟩, fun portable =>
      ⟨portable.name, by simpa using portable.inline, portable.near, portable.after⟩⟩

mutual

/-- Whether a value is spelt in a portable way can be decided. -/
def Spelling.decidePortable : (spelling : Spelling) → Decidable spelling.IsPortable
  | .word word => inferInstanceAs (Decidable word.IsPortable)
  | .number numeral => inferInstanceAs (Decidable numeral.IsPortable)
  | .text pieces => inferInstanceAs (Decidable (IsPortableText pieces))
  | .emptyList gap => inferInstanceAs (Decidable (IsPortableGap gap))
  | .list _ items =>
    have := items.decidePortable
    inferInstanceAs (Decidable (_ ∧ _))
  | .emptyObject gap => inferInstanceAs (Decidable (IsPortableGap gap))
  | .object _ fields =>
    have := fields.decidePortable
    inferInstanceAs (Decidable (_ ∧ _))

/-- Whether the items of a list are spelt in a portable way can be decided. -/
def Items.decidePortable : (items : Items) → Decidable items.IsPortable
  | .last item _ =>
    have := item.decidePortable
    inferInstanceAs (Decidable (_ ∧ _))
  | .more item _ _ others =>
    have := item.decidePortable
    have := others.decidePortable
    inferInstanceAs (Decidable (_ ∧ _ ∧ _ ∧ _))

/-- Whether the fields of an object are spelt in a portable way can be decided. -/
def Fields.decidePortable : (fields : Fields) → Decidable fields.IsPortable
  | .last _ content _ =>
    have := content.decidePortable
    inferInstanceAs (Decidable (_ ∧ _ ∧ _))
  | .more _ content _ _ others =>
    have := content.decidePortable
    have := others.decidePortable
    inferInstanceAs (Decidable (_ ∧ _ ∧ _ ∧ _ ∧ _))

end

instance (spelling : Spelling) : Decidable spelling.IsPortable :=
  spelling.decidePortable

instance (document : Document) : Decidable document.IsPortable :=
  decidable_of_iff (IsPortableGap document.before ∧ document.content.IsPortable ∧
      IsPortableGap document.after)
    ⟨fun all => ⟨all.1, all.2.1, all.2.2⟩,
      fun portable => ⟨portable.before, portable.content, portable.after⟩⟩

/-! ## Characters -/

/-- Whether a character is printable ASCII and no blank. -/
def IsInk (char : Char) : Prop :=
  0x20 < char.toNat ∧ char.toNat ≤ 0x7E

instance (char : Char) : Decidable (IsInk char) :=
  inferInstanceAs (Decidable (_ ∧ _))

variable {char : Char}

theorem isInk_of_isAlphanum (isAlphanum : char.isAlphanum = true) : IsInk char := by
  have codes := isAlphanum_iff.1 isAlphanum
  unfold IsInk
  omega

theorem IsInk.isDocumentChar (ink : IsInk char) : isDocumentChar char = true := by
  have range : 0x20 < char.toNat ∧ char.toNat ≤ 0x7E := ink
  simp [Yaml.isDocumentChar, range, Nat.le_of_lt]

theorem IsInk.isBreak (ink : IsInk char) : isBreak char = false := by
  have range : 0x20 < char.toNat ∧ char.toNat ≤ 0x7E := ink
  have differs {other : Char} (small : other.toNat < 0x20) : char ≠ other := by
    rintro rfl
    omega
  simp only [Yaml.isBreak, Bool.or_eq_false_iff, beq_eq_false_iff_ne]
  exact ⟨⟨⟨⟨differs (by decide), differs (by decide)⟩, by omega⟩, by omega⟩, by omega⟩

theorem isInk_of_shortEscape? {letter : Char} (means : shortEscape? letter = some char) :
    IsInk letter := by
  unfold shortEscape? at means
  split at means
  all_goals first | decide | cases means

/-- The characters of a text that do not stand for themselves are printable ASCII. -/
theorem Piece.isInk_of_mem {piece : Piece} (member : char ∈ piece.chars) :
    IsInk char ∨ ∃ allowed, piece = .plain char allowed := by
  have slash : IsInk '\\' := by decide
  have mark : IsInk 'u' := by decide
  cases piece with
  | plain other allowed =>
      rw [chars, List.mem_singleton] at member
      exact .inr ⟨member ▸ allowed, by simp only [member]⟩
  | short letter meaning means =>
      simp only [chars, List.mem_cons, List.not_mem_nil, or_false] at member
      rcases member with rfl | rfl
      · exact .inl slash
      · exact .inl (isInk_of_shortEscape? means)
  | code a b c d value means =>
      rw [chars, List.mem_cons, List.mem_cons] at member
      rcases member with rfl | rfl | digit
      · exact .inl slash
      · exact .inl mark
      · exact .inl (isInk_of_isAlphanum ((of_hexToNat? means).1 char digit))

/-- Whether a character may stand in a word or a number. -/
def IsBare (char : Char) : Prop :=
  char.isAlphanum = true ∨ char ∈ ['-', '+', '.']

instance (char : Char) : Decidable (IsBare char) :=
  inferInstanceAs (Decidable (_ ∨ _))

theorem IsBare.isInk (bare : IsBare char) : IsInk char := by
  rcases bare with isAlphanum | mark
  · exact isInk_of_isAlphanum isAlphanum
  · simp only [List.mem_cons, List.not_mem_nil, or_false] at mark
    rcases mark with rfl | rfl | rfl <;> decide

/-- What may not stand in a word or a number. -/
theorem IsBare.ne (bare : IsBare char) {other : Char} (foreign : ¬IsBare other) :
    char ≠ other := by
  rintro rfl
  exact foreign bare

theorem isBare_of_isDigit (isDigit : char.isDigit = true) : IsBare char :=
  .inl (by simp [Char.isAlphanum, isDigit])

theorem Exponent.isBare_of_mem {exponent : Exponent} (member : char ∈ exponent.chars) :
    IsBare char := by
  have sign : ∀ negative : Bool, IsBare (if negative then '-' else '+') := by decide
  simp only [chars, signChars, List.mem_cons, List.mem_append, Option.mem_toList,
    Option.map_eq_some_iff] at member
  rcases member with rfl | ⟨negative, _, rfl⟩ | digit
  · split <;> decide
  · exact sign negative
  · exact isBare_of_isDigit (exponent.areDigits char digit)

theorem Numeral.isBare_of_mem_magnitudeChars {numeral : Numeral}
    (member : char ∈ numeral.magnitudeChars) : IsBare char := by
  simp only [magnitudeChars, List.mem_append] at member
  rcases member with whole | fraction | exponent
  · exact isBare_of_isDigit (numeral.isWhole.digits char whole)
  · unfold pointed at fraction
    split at fraction
    · cases fraction
    · rcases List.mem_cons.mp fraction with rfl | digit
      · decide
      · exact isBare_of_isDigit (numeral.areDigits char digit)
  · cases written : numeral.exponent? with
    | none => simp [written] at exponent
    | some found =>
        rw [written] at exponent
        exact Exponent.isBare_of_mem exponent

theorem Numeral.isBare_of_mem {numeral : Numeral} (member : char ∈ numeral.chars) :
    IsBare char := by
  unfold chars at member
  split at member
  · rcases List.mem_cons.mp member with rfl | inside
    · decide
    · exact isBare_of_mem_magnitudeChars inside
  · exact isBare_of_mem_magnitudeChars member

theorem Word.isBare_of_mem {word : Word} (member : char ∈ word.chars) : IsBare char := by
  have all (chars : List Char) (bare : chars.all (fun char => decide (IsBare char)) = true)
      (inside : char ∈ chars) : IsBare char := by
    simpa using List.all_eq_true.mp bare char inside
  unfold chars at member
  split at member
  all_goals exact all _ (by decide) member

theorem IsInk.isGap (ink : IsInk char) : isGap char = false := by
  have large : 0x20 < char.toNat := ink.1
  by_contra gap
  simp only [Json.isGap, Bool.not_eq_false, Bool.or_eq_true, beq_iff_eq] at gap
  rcases gap with ((rfl | rfl) | rfl) | rfl <;> exact absurd large (by decide)

/-- The characters start with a visible one. -/
def StartsVisible (chars : List Char) : Prop :=
  ∃ head others, chars = head :: others ∧ IsInk head

theorem StartsVisible.append {chars : List Char} (visible : StartsVisible chars)
    (rest : List Char) : StartsVisible (chars ++ rest) := by
  rcases visible with ⟨head, others, rfl, ink⟩
  exact ⟨head, others ++ rest, rfl, ink⟩

theorem StartsVisible.cons (ink : IsInk char) (rest : List Char) : StartsVisible (char :: rest) :=
  ⟨char, rest, rfl, ink⟩

theorem startsVisible_of_ne_nil {chars : List Char} (nonempty : chars ≠ [])
    (ink : ∀ char ∈ chars, IsInk char) : StartsVisible chars := by
  rcases List.exists_cons_of_ne_nil nonempty with ⟨head, others, rfl⟩
  exact .cons (ink head List.mem_cons_self) others

theorem Spelling.startsVisible (spelling : Spelling) : StartsVisible spelling.chars := by
  cases spelling with
  | word word =>
      exact startsVisible_of_ne_nil word.chars_ne_nil fun _ member =>
        (Word.isBare_of_mem member).isInk
  | number numeral =>
      exact startsVisible_of_ne_nil numeral.chars_ne_nil fun _ member =>
        (Numeral.isBare_of_mem member).isInk
  | text pieces => exact .cons (by decide) _
  | emptyList gap => exact .cons (by decide) _
  | list gap items => exact .cons (by decide) _
  | emptyObject gap => exact .cons (by decide) _
  | object gap fields => exact .cons (by decide) _

theorem Items.startsVisible (items : Items) : StartsVisible items.chars := by
  cases items with
  | last item gap => exact item.startsVisible.append _
  | more item before after others => exact item.startsVisible.append _

theorem Fields.startsVisible (fields : Fields) : StartsVisible fields.chars := by
  cases fields with
  | last label content gap => exact .cons (by decide) _
  | more label content before after others => exact .cons (by decide) _

/-! ## Characters of portable texts -/

theorem IsPortableGap.cases {gap : Gap} (portable : IsPortableGap gap) (member : char ∈ gap.1) :
    char = ' ' ∨ char = '\n' ∨ char = '\r' := by
  have found := gap.2 char member
  simp only [isGap, Bool.or_eq_true, beq_iff_eq] at found
  rcases found with ((rfl | rfl) | rfl) | rfl
  · exact .inl rfl
  · exact absurd member portable
  · exact .inr (.inl rfl)
  · exact .inr (.inr rfl)

/-- All characters may stand in a document. -/
def AreDocumentChars (chars : List Char) : Prop :=
  ∀ char ∈ chars, isDocumentChar char = true

theorem areDocumentChars_append {first second : List Char} (front : AreDocumentChars first)
    (back : AreDocumentChars second) : AreDocumentChars (first ++ second) :=
  List.forall_mem_append.mpr ⟨front, back⟩

theorem areDocumentChars_cons (ink : IsInk char) {rest : List Char}
    (others : AreDocumentChars rest) : AreDocumentChars (char :: rest) :=
  List.forall_mem_cons.mpr ⟨ink.isDocumentChar, others⟩

theorem areDocumentChars_singleton (ink : IsInk char) : AreDocumentChars [char] :=
  List.forall_mem_singleton.mpr ink.isDocumentChar

theorem IsPortableGap.areDocumentChars {gap : Gap} (portable : IsPortableGap gap) :
    AreDocumentChars gap.1 := by
  intro char member
  rcases portable.cases member with rfl | rfl | rfl <;> decide

theorem IsPortableText.areDocumentChars {pieces : List Piece} (portable : IsPortableText pieces) :
    AreDocumentChars ('"' :: quotedRest pieces) := by
  refine areDocumentChars_cons (by decide) (areDocumentChars_append (fun char member => ?_)
    (areDocumentChars_singleton (by decide)))
  rcases List.mem_flatMap.mp member with ⟨piece, inside, found⟩
  rcases Piece.isInk_of_mem found with ink | ⟨allowed, rfl⟩
  · exact ink.isDocumentChar
  · exact (portable.each _ inside).1

theorem Label.IsPortable.areDocumentChars {label : Label} (portable : label.IsPortable) :
    AreDocumentChars label.chars := by
  have before : AreDocumentChars label.before.1 := by
    intro char member
    rw [portable.inline char member]
    decide
  exact areDocumentChars_append portable.name.areDocumentChars
    (areDocumentChars_append before
      (areDocumentChars_cons (by decide) portable.after.areDocumentChars))

mutual

theorem Spelling.IsPortable.areDocumentChars : ∀ {spelling : Spelling}, spelling.IsPortable →
    AreDocumentChars spelling.chars
  | .word _, _ => fun _ member => (Word.isBare_of_mem member).isInk.isDocumentChar
  | .number _, _ => fun _ member => (Numeral.isBare_of_mem member).isInk.isDocumentChar
  | .text _, portable => IsPortableText.areDocumentChars portable
  | .emptyList _, portable =>
    areDocumentChars_cons (by decide) (areDocumentChars_append
      (IsPortableGap.areDocumentChars portable) (areDocumentChars_singleton (by decide)))
  | .list _ _, portable =>
    areDocumentChars_cons (by decide) (areDocumentChars_append portable.1.areDocumentChars
      (areDocumentChars_append (Items.IsPortable.areDocumentChars portable.2)
        (areDocumentChars_singleton (by decide))))
  | .emptyObject _, portable =>
    areDocumentChars_cons (by decide) (areDocumentChars_append
      (IsPortableGap.areDocumentChars portable) (areDocumentChars_singleton (by decide)))
  | .object _ _, portable =>
    areDocumentChars_cons (by decide) (areDocumentChars_append portable.1.areDocumentChars
      (areDocumentChars_append (Fields.IsPortable.areDocumentChars portable.2)
        (areDocumentChars_singleton (by decide))))

theorem Items.IsPortable.areDocumentChars : ∀ {items : Items}, items.IsPortable →
    AreDocumentChars items.chars
  | .last _ _, portable =>
    areDocumentChars_append (Spelling.IsPortable.areDocumentChars portable.1)
      portable.2.areDocumentChars
  | .more _ _ _ _, portable =>
    areDocumentChars_append (Spelling.IsPortable.areDocumentChars portable.1)
      (areDocumentChars_append portable.2.1.areDocumentChars
        (areDocumentChars_cons (by decide) (areDocumentChars_append
          portable.2.2.1.areDocumentChars (Items.IsPortable.areDocumentChars portable.2.2.2))))

theorem Fields.IsPortable.areDocumentChars : ∀ {fields : Fields}, fields.IsPortable →
    AreDocumentChars fields.chars
  | .last _ _ _, portable =>
    areDocumentChars_append portable.1.areDocumentChars
      (areDocumentChars_append (Spelling.IsPortable.areDocumentChars portable.2.1)
        portable.2.2.areDocumentChars)
  | .more _ _ _ _ _, portable =>
    areDocumentChars_append portable.1.areDocumentChars
      (areDocumentChars_append (Spelling.IsPortable.areDocumentChars portable.2.1)
        (areDocumentChars_append portable.2.2.1.areDocumentChars
          (areDocumentChars_cons (by decide) (areDocumentChars_append
            portable.2.2.2.1.areDocumentChars
            (Fields.IsPortable.areDocumentChars portable.2.2.2.2)))))

end

theorem Document.IsPortable.areDocumentChars {document : Document}
    (portable : document.IsPortable) : AreDocumentChars document.chars :=
  areDocumentChars_append portable.before.areDocumentChars
    (areDocumentChars_append portable.content.areDocumentChars portable.after.areDocumentChars)

end ImageCatalog.Json
