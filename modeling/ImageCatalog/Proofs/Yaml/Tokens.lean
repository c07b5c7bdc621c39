import ImageCatalog.Proofs.Yaml.Turn

/-!
# The tokens of a JSON text

A portable text has the tokens that its spelling shows: brackets, commas and scalars as they are
written, and in front of every name of a field the mark of a key, which its colon has brought there.
The induction is over the spelling; what follows a part is kept general.
-/

namespace ImageCatalog.Json

open Yaml

mutual

/-- The tokens of a value. -/
def Spelling.tokens : Spelling → List Token
  | .word word => [.scalar (String.ofList word.chars) true]
  | .number numeral => [.scalar (String.ofList numeral.chars) true]
  | .text pieces => [.scalar (textOf pieces) false]
  | .emptyList _ => [.flowSequenceStart, .flowSequenceEnd]
  | .list _ items => .flowSequenceStart :: (items.tokens ++ [.flowSequenceEnd])
  | .emptyObject _ => [.flowMappingStart, .flowMappingEnd]
  | .object _ fields => .flowMappingStart :: (fields.tokens ++ [.flowMappingEnd])

/-- The tokens of the items of a list. -/
def Items.tokens : Items → List Token
  | .last item _ => item.tokens
  | .more item _ _ others => item.tokens ++ .flowEntry :: others.tokens

/-- The tokens of the fields of an object. -/
def Fields.tokens : Fields → List Token
  | .last label content _ =>
    .key :: .scalar (textOf label.name) false :: .value :: content.tokens
  | .more label content _ _ others =>
    .key :: .scalar (textOf label.name) false :: .value :: (content.tokens ++
      .flowEntry :: others.tokens)

end

/-! ## Words and numbers -/

open Lexer

theorem Word.startsBare (word : Word) : StartsBare word.chars := by
  unfold chars
  split
  all_goals first | exact ⟨_, _, by decide, .inl rfl⟩ | exact ⟨_, _, by decide, .inr rfl⟩

theorem Numeral.startsBare (numeral : Numeral) : StartsBare numeral.chars := by
  rcases List.exists_cons_of_ne_nil numeral.isWhole.nonempty with ⟨first, others, spelt⟩
  have letter : first.isAlphanum = true := by
    have digit := numeral.isWhole.digits first (spelt ▸ List.mem_cons_self)
    simp [Char.isAlphanum, digit]
  unfold chars magnitudeChars
  rw [spelt]
  split
  · exact ⟨first, _, letter, .inr rfl⟩
  · exact ⟨first, _, letter, .inl rfl⟩

/-! ## Parts of a text -/

/-- In brackets, a mark closes what stands before it. -/
theorem closes_mark (depth : Nat) {mark : Char} (isMark : mark ∈ [',', ']', '\x7d'])
    (rest : List Char) : Plain.Closes (depth + 1 != 0) (mark :: rest) :=
  .inr ⟨rfl, mark, rest, rfl, isMark⟩

mutual

/-- The tokens of a value are read, and the blanks behind it are passed. -/
theorem Spelling.reaches : ∀ {spelling : Spelling}, spelling.IsPortable →
    ∀ {depth : Nat} {written : List Token} {gap tail : List Char} {lexer : Lexer},
      Cursor.AreBlanks gap → Plain.Closes (depth != 0) tail →
      Stands depth written (spelling.chars ++ (gap ++ tail)) lexer →
      ∃ next, Reaches lexer next ∧ Stands depth (written ++ spelling.tokens) tail next
  | .word word, _, _, _, _, _, _, blanks, closes, stands =>
    reaches_bare (fun _ => Word.isBare_of_mem) word.startsBare blanks closes stands
  | .number numeral, _, _, _, _, _, _, blanks, closes, stands =>
    reaches_bare (fun _ => Numeral.isBare_of_mem) numeral.startsBare blanks closes stands
  | .text pieces, portable, _, _, _, _, _, blanks, _, stands => by
    rcases reaches_quoted portable stands with ⟨next, reaches, behind, _⟩
    exact ⟨next, reaches, behind.skip blanks⟩
  | .emptyList inner, portable, _, _, _, _, _, blanks, _, stands => by
    simp only [Spelling.chars, List.cons_append, List.append_assoc, List.nil_append] at stands
    exact reaches_empty rfl rfl (areBlanks_of_isPortableGap portable) blanks stands
  | .list inner items, portable, _, _, _, _, _, blanks, _, stands => by
    simp only [Spelling.chars, List.cons_append, List.append_assoc, List.nil_append] at stands
    exact reaches_enclosed rfl rfl (areBlanks_of_isPortableGap portable.1) blanks
      (fun _ _ atItems => Items.reaches portable.2 atItems) stands
  | .emptyObject inner, portable, _, _, _, _, _, blanks, _, stands => by
    simp only [Spelling.chars, List.cons_append, List.append_assoc, List.nil_append] at stands
    exact reaches_empty rfl rfl (areBlanks_of_isPortableGap portable) blanks stands
  | .object inner fields, portable, _, _, _, _, _, blanks, _, stands => by
    simp only [Spelling.chars, List.cons_append, List.append_assoc, List.nil_append] at stands
    exact reaches_enclosed rfl rfl (areBlanks_of_isPortableGap portable.1) blanks
      (fun _ allowed atFields => Fields.reaches portable.2 allowed atFields) stands

/-- The tokens of the items of a list are read, up to the closing bracket. -/
theorem Items.reaches : ∀ {items : Items}, items.IsPortable →
    ∀ {depth : Nat} {written : List Token} {rest : List Char} {lexer : Lexer},
      Stands (depth + 1) written (items.chars ++ ']' :: rest) lexer →
      ∃ next, Reaches lexer next ∧
        Stands (depth + 1) (written ++ items.tokens) (']' :: rest) next
  | .last item gap, portable, depth, _, rest, _, stands => by
    simp only [Items.chars, List.append_assoc] at stands
    exact Spelling.reaches portable.1 (areBlanks_of_isPortableGap portable.2)
      (closes_mark depth (by decide) rest) stands
  | .more item before after others, portable, depth, _, rest, _, stands => by
    simp only [Items.chars, List.append_assoc, List.cons_append] at stands
    rcases Spelling.reaches portable.1 (areBlanks_of_isPortableGap portable.2.1)
      (closes_mark depth (by decide) _) stands with ⟨behind, toBehind, atBehind⟩
    rcases reaches_comma atBehind with ⟨further, toFurther, atFurther, _⟩
    have atOthers := atFurther.skip (areBlanks_of_isPortableGap portable.2.2.1)
    rcases Items.reaches portable.2.2.2 atOthers with ⟨next, toNext, atNext⟩
    simp only [List.append_assoc] at atNext
    exact ⟨next, toBehind.trans (toFurther.trans toNext), atNext⟩

/-- The tokens of the fields of an object are read, up to the closing brace. -/
theorem Fields.reaches : ∀ {fields : Fields}, fields.IsPortable →
    ∀ {depth : Nat} {written : List Token} {rest : List Char} {lexer : Lexer},
      lexer.allowed = true →
      Stands (depth + 1) written (fields.chars ++ '\x7d' :: rest) lexer →
      ∃ next, Reaches lexer next ∧
        Stands (depth + 1) (written ++ fields.tokens) ('\x7d' :: rest) next
  | .last label content gap, portable, depth, _, rest, _, allowed, stands => by
    simp only [Fields.chars, List.append_assoc] at stands
    rcases reaches_label portable.1 stands allowed with ⟨named, toNamed, atNamed⟩
    rcases Spelling.reaches portable.2.1 (areBlanks_of_isPortableGap portable.2.2)
      (closes_mark depth (by decide) rest) atNamed with ⟨next, toNext, atNext⟩
    simp only [List.append_assoc] at atNext
    exact ⟨next, toNamed.trans toNext, atNext⟩
  | .more label content before after others, portable, depth, _, rest, _, allowed, stands => by
    simp only [Fields.chars, List.append_assoc, List.cons_append] at stands
    rcases reaches_label portable.1 stands allowed with ⟨named, toNamed, atNamed⟩
    rcases Spelling.reaches portable.2.1 (areBlanks_of_isPortableGap portable.2.2.1)
      (closes_mark depth (by decide) _) atNamed with ⟨behind, toBehind, atBehind⟩
    rcases reaches_comma atBehind with ⟨further, toFurther, atFurther, stillAllowed⟩
    have atOthers := atFurther.skip (areBlanks_of_isPortableGap portable.2.2.2.1)
    rcases Fields.reaches portable.2.2.2.2 stillAllowed atOthers with ⟨next, toNext, atNext⟩
    simp only [List.append_assoc] at atNext
    exact ⟨next, toNamed.trans (toBehind.trans (toFurther.trans toNext)), atNext⟩

end

/-- A portable text has the tokens that it is spelt with. -/
theorem Document.cut_eq {document : Document} (portable : document.IsPortable) :
    Yaml.cut document.chars = ⟨document.content.tokens, none⟩ := by
  have chars : document.chars.all isDocumentChar = true :=
    List.all_eq_true.mpr portable.areDocumentChars
  have start : Stands 0 [] (document.content.chars ++ (document.after.1 ++ []))
      (Lexer.start document.chars) := by
    refine ⟨⟨document.before.1, areBlanks_of_isPortableGap portable.before, ?_⟩, rfl, rfl, rfl, rfl,
      fun entry member => absurd member List.not_mem_nil⟩
    rw [List.append_nil]
    rfl
  rcases Spelling.reaches portable.content (areBlanks_of_isPortableGap portable.after) (.inl rfl)
    start with ⟨final, ⟨turns, length, reads⟩, stands⟩
  have within : turns ≤ document.chars.length := Nat.le_of_add_right_le length
  have budget : document.chars.length + 2 = turns + (document.chars.length - turns + 1 + 1) := by
    omega
  rw [Yaml.cut, chars, if_pos rfl, budget, reads, readAll_end stands, List.nil_append]

end ImageCatalog.Json
