import ImageCatalog.Proofs.Json.Portable
import ImageCatalog.Text.Line

/-!
# Unified line ends

Reading a file turns the ends of its lines into line feeds. In a text that is spelt in some way, all
of them are blanks between its parts; so this yields another spelling of the same value, which is
portable if the first one is.
-/

namespace ImageCatalog.Json

open Text

variable {char : Char}

/-! ## Line ends in rows of characters -/

theorem mem_of_mem_unifyLineEnds {chars : List Char} (member : char ∈ unifyLineEnds chars) :
    char = '\n' ∨ char ∈ chars := by
  fun_induction unifyLineEnds chars with
  | case1 => cases member
  | case2 rest hypothesis =>
      rcases List.mem_cons.mp member with rfl | later
      · exact .inl rfl
      · exact (hypothesis later).imp_right fun found => by simp [found]
  | case3 rest _ hypothesis =>
      rcases List.mem_cons.mp member with rfl | later
      · exact .inl rfl
      · exact (hypothesis later).imp_right (List.mem_cons_of_mem _)
  | case4 first rest _ _ hypothesis =>
      rcases List.mem_cons.mp member with rfl | later
      · exact .inr List.mem_cons_self
      · exact (hypothesis later).imp_right (List.mem_cons_of_mem _)

/-- What has no carriage returns stays as it is. -/
theorem unifyLineEnds_append_of_not_mem {front : List Char} (none : '\r' ∉ front)
    (rest : List Char) : unifyLineEnds (front ++ rest) = front ++ unifyLineEnds rest := by
  induction front with
  | nil => rfl
  | cons first others hypothesis =>
      rw [List.mem_cons, not_or] at none
      rw [List.cons_append, unifyLineEnds, hypothesis none.2, List.cons_append]
      · intro _ same
        exact absurd same.symm none.1
      · intro same
        exact absurd same.symm none.1

/-- A line does not end across the beginning of what is visible. -/
theorem unifyLineEnds_append {rest : List Char} (visible : StartsVisible rest)
    (front : List Char) :
    unifyLineEnds (front ++ rest) = unifyLineEnds front ++ unifyLineEnds rest := by
  rcases visible with ⟨next, others, rfl, ink⟩
  have notFeed : next ≠ '\n' := fun same => absurd (same ▸ ink) (by decide)
  fun_induction unifyLineEnds front with
  | case1 => rfl
  | case2 front hypothesis => simp only [List.cons_append, unifyLineEnds, hypothesis]
  | case3 front notBoth hypothesis =>
      rw [List.cons_append, unifyLineEnds, hypothesis, List.cons_append]
      intro later same
      cases front with
      | nil =>
          cases same
          exact notFeed rfl
      | cons second more =>
          cases same
          exact notBoth _ rfl
  | case4 first front notBoth notCarriage hypothesis =>
      rw [List.cons_append, unifyLineEnds, hypothesis, List.cons_append]
      · intro _ same
        exact absurd same notCarriage
      · exact notCarriage

/-- The same blanks with unified line ends. -/
def unifiedGap (gap : Gap) : Gap :=
  ⟨unifyLineEnds gap.1, fun char member => by
    rcases mem_of_mem_unifyLineEnds member with rfl | inside
    · rfl
    · exact gap.2 char inside⟩

theorem IsPortableGap.unified {gap : Gap} (portable : IsPortableGap gap) :
    IsPortableGap (unifiedGap gap) := by
  intro member
  rcases mem_of_mem_unifyLineEnds member with same | inside
  · exact absurd same (by decide)
  · exact portable inside

/-- The same name with unified line ends. -/
def Label.unified (label : Label) : Label :=
  { label with before := unifiedGap label.before, after := unifiedGap label.after }

theorem Label.IsPortable.unified {label : Label} (portable : label.IsPortable) :
    label.unified.IsPortable := by
  have kept : unifyLineEnds label.before.1 = label.before.1 := by
    have none : '\r' ∉ label.before.1 := fun member =>
      absurd (portable.inline _ member) (by decide)
    simpa [unifyLineEnds] using unifyLineEnds_append_of_not_mem none []
  have same : label.unified.before.1 = label.before.1 := kept
  refine ⟨portable.name, ?_, ?_, portable.after.unified⟩
  · rw [same]
    exact portable.inline
  · rw [same]
    exact portable.near

mutual

/-- The same value with unified line ends. -/
def Spelling.unified : Spelling → Spelling
  | .word word => .word word
  | .number numeral => .number numeral
  | .text pieces => .text pieces
  | .emptyList gap => .emptyList (unifiedGap gap)
  | .list gap items => .list (unifiedGap gap) items.unified
  | .emptyObject gap => .emptyObject (unifiedGap gap)
  | .object gap fields => .object (unifiedGap gap) fields.unified

/-- The same items with unified line ends. -/
def Items.unified : Items → Items
  | .last item gap => .last item.unified (unifiedGap gap)
  | .more item before after others =>
    .more item.unified (unifiedGap before) (unifiedGap after) others.unified

/-- The same fields with unified line ends. -/
def Fields.unified : Fields → Fields
  | .last label content gap => .last label.unified content.unified (unifiedGap gap)
  | .more label content before after others =>
    .more label.unified content.unified (unifiedGap before) (unifiedGap after) others.unified

end

mutual

theorem Spelling.value_unified : ∀ spelling : Spelling, spelling.unified.value = spelling.value
  | .word _ => rfl
  | .number _ => rfl
  | .text _ => rfl
  | .emptyList _ => rfl
  | .list gap items => by
    rw [Spelling.unified, Spelling.value, Spelling.value, items.values_unified]
  | .emptyObject _ => rfl
  | .object gap fields => by
    rw [Spelling.unified, Spelling.value, Spelling.value, fields.entries_unified]

theorem Items.values_unified : ∀ items : Items, items.unified.values = items.values
  | .last item gap => by
    rw [Items.unified, Items.values, Items.values, item.value_unified]
  | .more item before after others => by
    rw [Items.unified, Items.values, Items.values, item.value_unified, others.values_unified]

theorem Fields.entries_unified : ∀ fields : Fields, fields.unified.entries = fields.entries
  | .last label content gap => by
    rw [Fields.unified, Fields.entries, Fields.entries, content.value_unified]
    rfl
  | .more label content before after others => by
    rw [Fields.unified, Fields.entries, Fields.entries, content.value_unified,
      others.entries_unified]
    rfl

end

mutual

theorem Spelling.IsPortable.unified : ∀ {spelling : Spelling}, spelling.IsPortable →
    spelling.unified.IsPortable
  | .word _, portable => portable
  | .number _, portable => portable
  | .text _, portable => portable
  | .emptyList _, portable => IsPortableGap.unified portable
  | .list _ _, portable => ⟨portable.1.unified, Items.IsPortable.unified portable.2⟩
  | .emptyObject _, portable => IsPortableGap.unified portable
  | .object _ _, portable => ⟨portable.1.unified, Fields.IsPortable.unified portable.2⟩

theorem Items.IsPortable.unified : ∀ {items : Items}, items.IsPortable → items.unified.IsPortable
  | .last _ _, portable => ⟨Spelling.IsPortable.unified portable.1, portable.2.unified⟩
  | .more _ _ _ _, portable =>
    ⟨Spelling.IsPortable.unified portable.1, portable.2.1.unified, portable.2.2.1.unified,
      Items.IsPortable.unified portable.2.2.2⟩

theorem Fields.IsPortable.unified : ∀ {fields : Fields}, fields.IsPortable →
    fields.unified.IsPortable
  | .last _ _ _, portable =>
    ⟨portable.1.unified, Spelling.IsPortable.unified portable.2.1, portable.2.2.unified⟩
  | .more _ _ _ _ _, portable =>
    ⟨portable.1.unified, Spelling.IsPortable.unified portable.2.1, portable.2.2.1.unified,
      portable.2.2.2.1.unified, Fields.IsPortable.unified portable.2.2.2.2⟩

end

/-! ## The text with unified line ends -/

theorem carriage_not_mem {chars : List Char} (ink : ∀ char ∈ chars, IsInk char) : '\r' ∉ chars :=
  fun member => absurd (ink _ member) (by decide)

theorem carriage_not_mem_quotedRest (pieces : List Piece) : '\r' ∉ quotedRest pieces := by
  intro member
  rcases List.mem_append.mp member with inside | closing
  · rcases List.mem_flatMap.mp inside with ⟨piece, _, found⟩
    rcases Piece.isInk_of_mem found with ink | ⟨allowed, _⟩
    · exact absurd ink (by decide)
    · exact absurd allowed.2.2 (by decide)
  · exact absurd (List.mem_singleton.mp closing) (by decide)

theorem unifyLineEnds_cons_of_isInk (ink : IsInk char) (rest : List Char) :
    unifyLineEnds (char :: rest) = char :: unifyLineEnds rest :=
  unifyLineEnds_append_of_not_mem (carriage_not_mem (List.forall_mem_singleton.mpr ink)) rest

theorem Label.unify_chars (label : Label) {rest : List Char} (visible : StartsVisible rest) :
    unifyLineEnds (label.chars ++ rest) = label.unified.chars ++ unifyLineEnds rest := by
  have quoted := unifyLineEnds_append_of_not_mem (carriage_not_mem_quotedRest label.name)
  simp only [Label.chars, List.cons_append, List.append_assoc]
  rw [unifyLineEnds_cons_of_isInk (by decide), quoted,
    unifyLineEnds_append (.cons (by decide) _), unifyLineEnds_cons_of_isInk (by decide),
    unifyLineEnds_append visible]
  rfl

mutual

theorem Spelling.unify_chars : ∀ (spelling : Spelling) (rest : List Char),
    unifyLineEnds (spelling.chars ++ rest) = spelling.unified.chars ++ unifyLineEnds rest
  | .word word, rest =>
    unifyLineEnds_append_of_not_mem
      (carriage_not_mem fun _ member => (Word.isBare_of_mem member).isInk) rest
  | .number numeral, rest =>
    unifyLineEnds_append_of_not_mem
      (carriage_not_mem fun _ member => (Numeral.isBare_of_mem member).isInk) rest
  | .text pieces, rest =>
    unifyLineEnds_append_of_not_mem (List.not_mem_cons_of_ne_of_not_mem (by decide)
      (carriage_not_mem_quotedRest pieces)) rest
  | .emptyList gap, rest => by
    simp only [Spelling.chars, Spelling.unified, List.cons_append, List.append_assoc]
    rw [unifyLineEnds_cons_of_isInk (by decide), unifyLineEnds_append (.cons (by decide) _),
      unifyLineEnds_cons_of_isInk (by decide)]
    rfl
  | .list gap items, rest => by
    simp only [Spelling.chars, Spelling.unified, List.cons_append, List.append_assoc]
    rw [unifyLineEnds_cons_of_isInk (by decide),
      unifyLineEnds_append (items.startsVisible.append _), items.unify_chars (by decide),
      unifyLineEnds_cons_of_isInk (by decide)]
    rfl
  | .emptyObject gap, rest => by
    simp only [Spelling.chars, Spelling.unified, List.cons_append, List.append_assoc]
    rw [unifyLineEnds_cons_of_isInk (by decide), unifyLineEnds_append (.cons (by decide) _),
      unifyLineEnds_cons_of_isInk (by decide)]
    rfl
  | .object gap fields, rest => by
    simp only [Spelling.chars, Spelling.unified, List.cons_append, List.append_assoc]
    rw [unifyLineEnds_cons_of_isInk (by decide),
      unifyLineEnds_append (fields.startsVisible.append _), fields.unify_chars (by decide),
      unifyLineEnds_cons_of_isInk (by decide)]
    rfl

theorem Items.unify_chars : ∀ (items : Items) {closing : Char} (_ : IsInk closing)
    (rest : List Char), unifyLineEnds (items.chars ++ closing :: rest) =
      items.unified.chars ++ unifyLineEnds (closing :: rest)
  | .last item gap, _, ink, rest => by
    simp only [Items.chars, Items.unified, List.append_assoc]
    rw [item.unify_chars, unifyLineEnds_append (.cons ink _)]
    rfl
  | .more item before after others, _, ink, rest => by
    simp only [Items.chars, Items.unified, List.append_assoc, List.cons_append]
    rw [item.unify_chars, unifyLineEnds_append (.cons (by decide) _),
      unifyLineEnds_cons_of_isInk (by decide), unifyLineEnds_append (others.startsVisible.append _),
      others.unify_chars ink]
    rfl

theorem Fields.unify_chars : ∀ (fields : Fields) {closing : Char} (_ : IsInk closing)
    (rest : List Char), unifyLineEnds (fields.chars ++ closing :: rest) =
      fields.unified.chars ++ unifyLineEnds (closing :: rest)
  | .last label content gap, _, ink, rest => by
    simp only [Fields.chars, Fields.unified, List.append_assoc]
    rw [label.unify_chars (content.startsVisible.append _), content.unify_chars,
      unifyLineEnds_append (.cons ink _)]
    rfl
  | .more label content before after others, _, ink, rest => by
    simp only [Fields.chars, Fields.unified, List.append_assoc, List.cons_append]
    rw [label.unify_chars (content.startsVisible.append _), content.unify_chars,
      unifyLineEnds_append (.cons (by decide) _), unifyLineEnds_cons_of_isInk (by decide),
      unifyLineEnds_append (others.startsVisible.append _), others.unify_chars ink]
    rfl

end

/-- The same text with unified line ends. -/
def Document.unified (document : Document) : Document :=
  ⟨unifiedGap document.before, document.content.unified, unifiedGap document.after⟩

theorem Document.unify_chars (document : Document) :
    unifyLineEnds document.chars = document.unified.chars := by
  rw [Document.chars, unifyLineEnds_append (document.content.startsVisible.append _),
    document.content.unify_chars]
  rfl

theorem Document.IsPortable.unified {document : Document} (portable : document.IsPortable) :
    document.unified.IsPortable :=
  ⟨portable.before.unified, portable.content.unified, portable.after.unified⟩

end ImageCatalog.Json
