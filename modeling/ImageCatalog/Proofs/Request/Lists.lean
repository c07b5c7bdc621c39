import ImageCatalog.Proofs.Request.Sent
import ImageCatalog.Proofs.Text.Cut
import ImageCatalog.Request.Override

/-!
# Lists on the wire

A list is typed as one text and sent as one text. The typed text is cut at the separator of the
parameter, the empty items are left out, and the others are joined with the same separator. The text
that is sent is not always the one that was typed, but it means the same list.
-/

namespace ImageCatalog.PreparedRequest

open Config Override Results Text

theorem separatorText_ne_empty (field : ListField) : field.separatorText ≠ "" := by
  unfold ListField.separatorText
  split
  · decide
  · next text declared =>
      split
      · decide
      · next some => simpa using some

theorem wireText_texts (separator : String) (texts : List String) :
    wireText separator (.list (texts.map .text)) = .ok (joinText separator texts) := by
  rw [wireText_eq_ok_iff]
  refine .row rfl ?_
  rw [List.forall₂_map_left_iff, List.forall₂_same]
  intro text member
  rfl

/-- The items of a typed list. -/
def typedItems (field : ListField) (raw : String) : List String :=
  (splitAtText field.separatorText raw).filter fun item => !item.isEmpty

theorem coerce_list {parameter : Parameter} {field : ListField}
    (isList : parameter.kind = .list field) (raw : String) :
    coerce parameter raw = .ok (.list ((typedItems field raw).map .text)) := by
  rw [coerce, isList]
  rfl

/-- The items are what is not empty of the row of pieces into which the text is cut. -/
theorem typedItems_pieces (field : ListField) (raw : String) :
    ∃ pieces, IsCut field.separatorText.toList pieces ∧
      joinChars field.separatorText.toList pieces = raw.toList ∧
      (typedItems field raw).map String.toList = pieces.filter fun piece => !piece.isEmpty := by
  have some : field.separatorText.toList ≠ [] := by simpa using separatorText_ne_empty field
  rcases (splitAtTextFrom_eq_iff some).mp rfl with ⟨cut, joined⟩
  refine ⟨_, cut, joined, ?_⟩
  have sameEmpty (piece : List Char) : (String.ofList piece).isEmpty = piece.isEmpty := by
    cases piece <;> simp
  rw [typedItems, splitAtText, List.filter_map, List.map_map]
  simp [Function.comp_def, sameEmpty]

theorem typedItems_joinText (field : ListField) (raw : String) :
    typedItems field (joinText field.separatorText (typedItems field raw)) = typedItems field raw :=
  filter_splitAtText_joinText (separatorText_ne_empty field) rfl raw

/-- A text that is typed for a named list means the pieces into which it is cut, without the empty
ones. The list can be sent, and the text that is sent for it under the name means the same list. -/
theorem coerce_wireText {parameter : Parameter} {field : ListField} {name : String}
    (isList : parameter.kind = .list field) (named : parameter.sentName? = some name)
    (raw : String) :
    ∃ (pieces : List (List Char)) (items : List String) (wire : String),
      IsCut field.separatorText.toList pieces ∧
      joinChars field.separatorText.toList pieces = raw.toList ∧
      items.map String.toList = (pieces.filter fun piece => !piece.isEmpty) ∧
      coerce parameter raw = .ok (.list (items.map .text)) ∧
      wireText (separatorOf parameter) (.list (items.map .text)) = .ok wire ∧
      (∀ values index, ValueMap.present? index values = some (.list (items.map .text)) →
        namedTexts values [(index, parameter)] = .ok [(name, wire)]) ∧
      coerce parameter wire = .ok (.list (items.map .text)) := by
  have separator : separatorOf parameter = field.separatorText := by
    rw [separatorOf, isList]
  have spelt : wireText (separatorOf parameter) (.list ((typedItems field raw).map .text)) =
      .ok (joinText field.separatorText (typedItems field raw)) := by
    rw [separator]
    exact wireText_texts _ _
  rcases typedItems_pieces field raw with ⟨pieces, cut, joined, kept⟩
  refine ⟨pieces, typedItems field raw, _, cut, joined, kept, coerce_list isList raw, spelt, ?_, ?_⟩
  · intro values index present
    simp only [namedTexts, named, present, spelt]
    rfl
  · rw [coerce_list isList, typedItems_joinText]

/-- A separator that overlaps with itself and with the items around it. -/
theorem coerce_wireText_overlapping :
    let field : ListField := ⟨[], some "aa"⟩
    let parameter : Parameter := ⟨some "tag", "", true, .list field⟩
    parameter.kind = .list field ∧ parameter.sentName? = some "tag" ∧
    coerce parameter "aabaaaaa" = .ok (.list [.text "b", .text "a"]) ∧
    wireText (separatorOf parameter) (.list [.text "b", .text "a"]) = .ok "baaa" ∧
    coerce parameter "baaa" = .ok (.list [.text "b", .text "a"]) := by
  intro field parameter
  have isList : parameter.kind = .list field := rfl
  have named : parameter.sentName? = some "tag" := by decide
  rcases coerce_wireText isList named "aabaaaaa" with
    ⟨pieces, items, wire, cut, joined, kept, typed, spelt, sent, read⟩
  have means : coerce parameter "aabaaaaa" = .ok (.list [.text "b", .text "a"]) := by
    have cut : typedItems field "aabaaaaa" = ["b", "a"] := by decide
    rw [coerce_list isList, cut]
    rfl
  have same : items.map Value.text = [.text "b", .text "a"] := by
    rw [means] at typed
    exact (Value.list.inj (Except.ok.inj typed)).symm
  have goes : wireText (separatorOf parameter) (.list [.text "b", .text "a"]) = .ok "baaa" := by
    decide
  rw [same] at spelt read
  rw [goes] at spelt
  cases spelt
  exact ⟨isList, named, means, goes, read⟩

end ImageCatalog.PreparedRequest
