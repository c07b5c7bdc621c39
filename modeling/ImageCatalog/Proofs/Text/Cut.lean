import ImageCatalog.Text.Split
import Mathlib.Data.List.Infix

/-!
# Cutting at a separator

A separator of several characters can overlap with itself and with the pieces around it, so which
rows of pieces a text falls into is not a matter of which pieces are free of the separator: the piece
`ba` has no `aa` in it, and yet `baaa` is cut behind its `b`. `IsCut` describes the rows by what the
search from left to right finds, and `splitAtTextFrom_eq_iff` says that a text is cut into the one row
of that kind that it is joined from. Leaving pieces out of such a row leaves a row of that kind.
-/

namespace ImageCatalog.Text

variable {separator : List Char}

/-- The first separator in the piece with a separator behind it is the one behind it. -/
def LeadsTo (separator piece : List Char) : Prop :=
  ∀ back, back ≠ [] → back <:+ piece → ¬separator <+: back ++ separator

/-- The rows of pieces into which texts are cut. -/
inductive IsCut (separator : List Char) : List (List Char) → Prop where
  | last {piece : List Char} (absent : ¬separator <:+: piece) : IsCut separator [piece]
  | before {piece : List Char} {pieces : List (List Char)} (leads : LeadsTo separator piece)
      (later : IsCut separator pieces) : IsCut separator (piece :: pieces)

theorem leadsTo_nil : LeadsTo separator [] := by
  intro back some suffix
  have empty := List.suffix_nil.mp suffix
  contradiction

theorem leadsTo_cons {char : Char} {piece : List Char} :
    LeadsTo separator (char :: piece) ↔
      ¬separator <+: char :: (piece ++ separator) ∧ LeadsTo separator piece := by
  simp only [LeadsTo, List.suffix_cons_iff]
  constructor
  · intro leads
    refine ⟨leads (char :: piece) (by simp) (.inl rfl), fun back some suffix => ?_⟩
    exact leads back some (.inr suffix)
  · rintro ⟨here, further⟩ back some (rfl | suffix)
    · exact here
    · exact further back some suffix

theorem LeadsTo.absent (some : separator ≠ []) {piece : List Char}
    (leads : LeadsTo separator piece) : ¬separator <:+: piece := by
  rintro ⟨front, back, rfl⟩
  refine leads (separator ++ back) (by simp [some]) ⟨front, by simp⟩ ?_
  rw [List.append_assoc]
  exact List.prefix_append _ _

theorem IsCut.ne_nil {pieces : List (List Char)} (cut : IsCut separator pieces) : pieces ≠ [] := by
  cases cut <;> simp

theorem joinChars_cons (separator piece : List Char) {pieces : List (List Char)}
    (some : pieces ≠ []) :
    joinChars separator (piece :: pieces) = piece ++ separator ++ joinChars separator pieces := by
  cases pieces with
  | nil => contradiction
  | cons next others => rfl

theorem joinChars_consPiece (separator : List Char) (char : Char) (pieces : List (List Char)) :
    joinChars separator (consPiece char pieces) = char :: joinChars separator pieces := by
  match pieces with
  | [] => rfl
  | [piece] => rfl
  | piece :: next :: others => rfl

/-! ## The pieces of a joined text -/

theorem splitAtTextFrom_drop (separator : List Char) (skipped : Nat) (chars : List Char) :
    splitAtTextFrom separator skipped chars = splitAtTextFrom separator 0 (chars.drop skipped) := by
  induction chars generalizing skipped with
  | nil => simp [splitAtTextFrom]
  | cons char rest step =>
      cases skipped with
      | zero => rfl
      | succ skipped => simpa [splitAtTextFrom] using step skipped

theorem splitAtTextFrom_separator (some : separator ≠ []) (rest : List Char) :
    splitAtTextFrom separator 0 (separator ++ rest) = [] :: splitAtTextFrom separator 0 rest := by
  cases separator with
  | nil => contradiction
  | cons char others =>
      have starts : (char :: others).isPrefixOf (char :: (others ++ rest)) = true :=
        List.isPrefixOf_iff_prefix.mpr (List.prefix_append (char :: others) rest)
      rw [List.cons_append, splitAtTextFrom, if_pos starts, splitAtTextFrom_drop]
      simp

/-- The first piece ends where a separator is found first. -/
theorem splitAtTextFrom_append (some : separator ≠ []) {piece : List Char}
    (leads : LeadsTo separator piece) (rest : List Char) :
    splitAtTextFrom separator 0 (piece ++ separator ++ rest) =
      piece :: splitAtTextFrom separator 0 rest := by
  induction piece with
  | nil => exact splitAtTextFrom_separator some rest
  | cons char piece step =>
      rcases leadsTo_cons.mp leads with ⟨here, further⟩
      have goesOn : ¬separator.isPrefixOf (char :: (piece ++ separator ++ rest)) = true := by
        intro starts
        apply here
        apply List.prefix_of_prefix_length_le (List.isPrefixOf_iff_prefix.mp starts)
        · exact ⟨rest, by simp⟩
        · simp only [List.length_cons, List.length_append]
          omega
      rw [List.cons_append, List.cons_append, splitAtTextFrom, if_neg goesOn, step further,
        consPiece]

theorem splitAtTextFrom_of_absent {piece : List Char} (absent : ¬separator <:+: piece) :
    splitAtTextFrom separator 0 piece = [piece] := by
  induction piece with
  | nil => rfl
  | cons char piece step =>
      rw [List.infix_cons_iff, not_or] at absent
      have goesOn : ¬separator.isPrefixOf (char :: piece) = true := by
        intro starts
        exact absent.1 (List.isPrefixOf_iff_prefix.mp starts)
      rw [splitAtTextFrom, if_neg goesOn, step absent.2, consPiece]

theorem IsCut.split (some : separator ≠ []) {pieces : List (List Char)}
    (cut : IsCut separator pieces) :
    splitAtTextFrom separator 0 (joinChars separator pieces) = pieces := by
  induction cut with
  | last absent => exact splitAtTextFrom_of_absent absent
  | before leads later step =>
      rw [joinChars_cons _ _ later.ne_nil, splitAtTextFrom_append some leads, step]

/-! ## The pieces of every text -/

theorem IsCut.consPiece {char : Char} {pieces : List (List Char)} (cut : IsCut separator pieces)
    (goesOn : ¬separator <+: char :: joinChars separator pieces) :
    IsCut separator (consPiece char pieces) := by
  cases cut with
  | last absent =>
      apply IsCut.last
      rw [List.infix_cons_iff, not_or]
      exact ⟨goesOn, absent⟩
  | @before piece pieces leads later =>
      refine .before (leadsTo_cons.mpr ⟨?_, leads⟩) later
      intro starts
      apply goesOn
      rw [joinChars_cons _ _ later.ne_nil, ← List.cons_append]
      exact starts.trans (List.prefix_append _ _)

/-- Every text is joined from the pieces into which it is cut. -/
theorem isCut_splitAtTextFrom (some : separator ≠ []) (skipped : Nat) (chars : List Char) :
    IsCut separator (splitAtTextFrom separator skipped chars) ∧
      joinChars separator (splitAtTextFrom separator skipped chars) = chars.drop skipped := by
  induction chars generalizing skipped with
  | nil =>
      have absent : ¬separator <:+: [] := by simpa using some
      simpa [splitAtTextFrom] using ⟨IsCut.last absent, rfl⟩
  | cons char rest step =>
      cases skipped with
      | succ skipped => simpa [splitAtTextFrom] using step skipped
      | zero =>
          rw [splitAtTextFrom]
          split
          · next starts =>
              rcases step (separator.length - 1) with ⟨cut, joined⟩
              refine ⟨.before leadsTo_nil cut, ?_⟩
              rw [joinChars_cons _ _ cut.ne_nil, joined]
              rcases List.isPrefixOf_iff_prefix.mp starts with ⟨others, whole⟩
              cases separator with
              | nil => contradiction
              | cons first separator =>
                  cases whole
                  simp
          · next goesOn =>
              rcases step 0 with ⟨cut, joined⟩
              refine ⟨cut.consPiece ?_, ?_⟩
              · rw [joined]
                exact fun starts => goesOn (List.isPrefixOf_iff_prefix.mpr starts)
              · rw [joinChars_consPiece, joined]
                rfl

/-- A text is cut into the one row of pieces that it is joined from. -/
theorem splitAtTextFrom_eq_iff (some : separator ≠ []) {chars : List Char}
    {pieces : List (List Char)} :
    splitAtTextFrom separator 0 chars = pieces ↔
      IsCut separator pieces ∧ joinChars separator pieces = chars := by
  constructor
  · rintro rfl
    exact isCut_splitAtTextFrom some 0 chars
  · rintro ⟨cut, rfl⟩
    exact cut.split some

/-! ## Leaving out pieces -/

/-- Without some of its pieces a row is still one into which a text is cut, since every piece that
another one followed ends where a separator is found first, whatever comes behind that. -/
theorem IsCut.filter (some : separator ≠ []) {pieces : List (List Char)}
    (cut : IsCut separator pieces) (keep : List Char → Bool) :
    pieces.filter keep = [] ∨ IsCut separator (pieces.filter keep) := by
  induction cut with
  | @last piece absent =>
      by_cases kept : keep piece = true
      · rw [List.filter_cons_of_pos kept]
        exact .inr (.last absent)
      · rw [List.filter_cons_of_neg kept]
        exact .inl rfl
  | @before piece pieces leads later step =>
      by_cases kept : keep piece = true
      · rw [List.filter_cons_of_pos kept]
        rcases step with none | others
        · rw [none]
          exact .inr (.last (leads.absent some))
        · exact .inr (.before leads others)
      · rw [List.filter_cons_of_neg kept]
        exact step

/-- What is kept of the pieces of a text can be joined and cut again. -/
theorem filter_splitAtText_joinText {separator : String} (some : separator ≠ "")
    {keep : String → Bool} (noEmpty : keep "" = false) (text : String) :
    (splitAtText separator (joinText separator ((splitAtText separator text).filter keep))).filter
        keep =
      (splitAtText separator text).filter keep := by
  have someChars : separator.toList ≠ [] := by simpa using some
  have cut := (isCut_splitAtTextFrom someChars 0 text.toList).1
  have kept : (splitAtText separator text).filter keep =
      ((splitAtTextFrom separator.toList 0 text.toList).filter (keep ∘ String.ofList)).map
        String.ofList := by
    rw [splitAtText, List.filter_map]
  have chars (pieces : List (List Char)) :
      (joinText separator (pieces.map String.ofList)).toList =
        joinChars separator.toList pieces := by
    simp [joinText, Function.comp_def]
  rcases cut.filter someChars (keep ∘ String.ofList) with none | others
  · rw [kept, none]
    simp [splitAtText, joinText, joinChars, splitAtTextFrom, noEmpty]
  · have again : splitAtText separator
        (joinText separator ((splitAtText separator text).filter keep)) =
        (splitAtText separator text).filter keep := by
      rw [kept, splitAtText, chars, others.split someChars]
    rw [again, List.filter_filter]
    simp

end ImageCatalog.Text
