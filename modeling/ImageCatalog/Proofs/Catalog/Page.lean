import ImageCatalog.Catalog.Page
import ImageCatalog.Proofs.Results
import ImageCatalog.Proofs.Text.Entity
import Mathlib.Data.List.Infix

/-!
# Reading written pages

A `WrittenAnchor` is an anchor in the form in which servers write it. It is found wherever it
stands, with all of its label and nothing of what follows, so that a page with some anchors in a
text that starts none itself has exactly these anchors. `Renders` says that a page is of this kind.
-/

namespace ImageCatalog.Catalog

open Text

/-- An anchor as it is written in a page: its target has no blank and no line break, its class no
quote, its other attributes do not close the tag, and its label is on one line and has no tag. -/
structure WrittenAnchor where
  target : List Char
  classes : List Char
  attributes : List Char
  label : List Char
  target_plain : ∀ char ∈ target, char ≠ ' ' ∧ char ≠ '\n'
  classes_ne_nil : classes ≠ []
  classes_plain : '"' ∉ classes
  attributes_plain : '>' ∉ attributes ∧ '\n' ∉ attributes
  label_ne_nil : label ≠ []
  label_plain : '<' ∉ label ∧ '\n' ∉ label

namespace WrittenAnchor

/-- The text of an anchor from its class on. -/
def fromClass (anchor : WrittenAnchor) : List Char :=
  anchor.classes ++ '"' :: (anchor.attributes ++ '>' :: (anchor.label ++ "</a>".toList))

/-- The text of an anchor. -/
def chars (anchor : WrittenAnchor) : List Char :=
  anchorMark ++ ('"' :: anchor.target ++ '"' :: (classMark ++ anchor.fromClass))

/-- What is read of an anchor. -/
def read (anchor : WrittenAnchor) : Anchor :=
  ⟨anchor.classes, anchor.label⟩

end WrittenAnchor

/-- Whether a page consists of some anchors and of text that starts none. -/
inductive Renders : List Char → List WrittenAnchor → Prop
  | text {gap : List Char} (free : ¬anchorMark <:+: gap) : Renders gap []
  | anchor {gap rest : List Char} {anchor : WrittenAnchor} {anchors : List WrittenAnchor}
      (free : ¬anchorMark <:+: gap) (renders : Renders rest anchors) :
      Renders (gap ++ (anchor.chars ++ rest)) (anchor :: anchors)

/-! ## One anchor -/

theorem cutOnLine?_append {first : Char} {pattern chars : List Char} (absent : first ∉ chars)
    (oneLine : '\n' ∉ chars) (rest : List Char) :
    cutOnLine? (first :: pattern) (chars ++ (first :: pattern ++ rest)) = some (chars, rest) := by
  induction chars with
  | nil => simp [cutOnLine?, List.isPrefixOf_iff_prefix]
  | cons char others hypothesis =>
      rw [List.mem_cons, not_or] at absent oneLine
      have noMatch : (first :: pattern).isPrefixOf
          (char :: (others ++ (first :: pattern ++ rest))) = false := by
        simp [List.isPrefixOf, absent.1]
      rw [List.cons_append, cutOnLine?, noMatch, if_neg (by simp), if_neg (Ne.symm oneLine.1),
        hypothesis absent.2 oneLine.2]
      rfl

theorem label?_append {chars : List Char} (some : chars ≠ []) (noTag : '<' ∉ chars)
    (oneLine : '\n' ∉ chars) (rest : List Char) :
    label? (chars ++ ("</a>".toList ++ rest)) = .some (chars, rest) := by
  cases chars with
  | nil => exact absurd rfl some
  | cons char others =>
      rw [List.mem_cons, not_or] at noTag oneLine
      have cut : cutOnLine? "</a>".toList (others ++ ("</a>".toList ++ rest)) =
          .some (others, rest) := cutOnLine?_append noTag.2 oneLine.2 rest
      rw [List.cons_append, label?, if_neg (Ne.symm oneLine.1), cut]
      rfl

variable {anchor : WrittenAnchor} {gap rest : List Char}

theorem anchorFromClass?_append (anchor : WrittenAnchor) (rest : List Char) :
    anchorFromClass? (anchor.fromClass ++ rest) = some (anchor.read, rest) := by
  have split : anchor.fromClass ++ rest = anchor.classes ++ '"' :: (anchor.attributes ++
      (['>'] ++ (anchor.label ++ ("</a>".toList ++ rest)))) := by
    simp [WrittenAnchor.fromClass]
  have classes : (anchor.fromClass ++ rest).takeWhile (· != '"') = anchor.classes := by
    rw [split, List.takeWhile_append_of_pos, List.takeWhile_cons]
    · simp
    · intro char member
      rw [bne_iff_ne]
      rintro rfl
      exact anchor.classes_plain member
  have tag : cutOnLine? ['>']
      (anchor.attributes ++ (['>'] ++ (anchor.label ++ ("</a>".toList ++ rest)))) =
        some (anchor.attributes, anchor.label ++ ("</a>".toList ++ rest)) :=
    cutOnLine?_append anchor.attributes_plain.1 anchor.attributes_plain.2 _
  have labelled := label?_append anchor.label_ne_nil anchor.label_plain.1 anchor.label_plain.2 rest
  have some : anchor.classes.isEmpty = false := by simpa using anchor.classes_ne_nil
  unfold anchorFromClass?
  simp only [classes]
  rw [split, List.drop_left]
  simp only [some, tag, labelled, bind, Option.bind]
  rfl

theorem anchorBody?_skip {chars : List Char} (plain : ∀ char ∈ chars, char ≠ ' ' ∧ char ≠ '\n')
    (rest : List Char) : anchorBody? (chars ++ rest) = anchorBody? rest := by
  induction chars with
  | nil => rfl
  | cons char others hypothesis =>
      rw [List.forall_mem_cons] at plain
      have noClass : classMark.isPrefixOf (char :: (others ++ rest)) = false := by
        have mark : classMark = ' ' :: "class=\"".toList := rfl
        rw [mark, List.isPrefixOf]
        simp [Ne.symm plain.1.1]
      rw [List.cons_append, anchorBody?, noClass]
      simp only [Bool.false_eq_true, if_false, if_neg plain.1.2]
      exact hypothesis plain.2

/-- An anchor is found where it starts. -/
theorem anchor?_append (anchor : WrittenAnchor) (rest : List Char) :
    anchor? (anchor.chars ++ rest) = some (anchor.read, rest) := by
  have split : anchor.chars ++ rest = anchorMark ++
      (('"' :: anchor.target ++ ['"']) ++ (classMark ++ (anchor.fromClass ++ rest))) := by
    simp [WrittenAnchor.chars]
  have plain : ∀ char ∈ '"' :: anchor.target ++ ['"'], char ≠ ' ' ∧ char ≠ '\n' := by
    intro char member
    simp only [List.cons_append, List.mem_cons, List.mem_append, List.not_mem_nil, or_false]
      at member
    rcases member with rfl | inTarget | rfl
    · decide
    · exact anchor.target_plain char inTarget
    · decide
  have atClass : anchorBody? (classMark ++ (anchor.fromClass ++ rest)) =
      some (anchor.read, rest) := by
    have mark : classMark.isPrefixOf (classMark ++ (anchor.fromClass ++ rest)) = true := by
      simp [List.isPrefixOf_iff_prefix]
    have cons : classMark ++ (anchor.fromClass ++ rest) =
        ' ' :: ("class=\"".toList ++ (anchor.fromClass ++ rest)) := rfl
    rw [cons] at mark
    rw [cons, anchorBody?, mark, ← cons, List.drop_left]
    simp only [if_true, anchorFromClass?_append]
  rw [split, anchor?, if_pos (by simp [List.isPrefixOf_iff_prefix]), List.drop_left,
    anchorBody?_skip plain, atClass]

/-! ## Whole pages -/

theorem anchorsFrom_skip (skipped rest : List Char) :
    anchorsFrom skipped.length (skipped ++ rest) = anchorsFrom 0 rest := by
  induction skipped with
  | nil => rfl
  | cons char others hypothesis =>
      rw [List.length_cons, List.cons_append, anchorsFrom]
      exact hypothesis

theorem anchorsFrom_anchor (anchor : WrittenAnchor) (rest : List Char) :
    anchorsFrom 0 (anchor.chars ++ rest) = anchor.read :: anchorsFrom 0 rest := by
  have found := anchor?_append anchor rest
  cases written : anchor.chars with
  | nil => cases written
  | cons char others =>
      rw [written, List.cons_append] at found
      have length : (others ++ rest).length - rest.length = others.length := by simp
      rw [List.cons_append, anchorsFrom, found]
      simp only [length, anchorsFrom_skip]

/-- No anchor starts in a gap, not even one that the text behind the gap completes: the mark of an
anchor begins with a character that does not occur in it again. -/
theorem not_isPrefix_append {char : Char} (free : ¬anchorMark <:+: char :: gap)
    (behind : rest.head? = none ∨ rest.head? = some '<') :
    ¬anchorMark <+: char :: gap ++ rest := by
  intro marked
  have gapFirst : char :: gap <+: char :: gap ++ rest := List.prefix_append _ _
  -- The mark would end inside the gap, or what stands behind the gap would complete it.
  rcases Nat.le_total anchorMark.length (char :: gap).length with inGap | beyond
  · exact free (List.prefix_of_prefix_length_le marked gapFirst inGap).isInfix
  · rcases List.prefix_of_prefix_length_le gapFirst marked beyond with ⟨missing, whole⟩
    rcases marked with ⟨behindMark, same⟩
    rw [← whole, List.append_assoc, List.append_cancel_left_eq] at same
    have inTail : gap ++ missing = "a href=".toList := List.tail_eq_of_cons_eq whole
    have complete : missing ≠ [] := by
      rintro rfl
      rw [List.append_nil] at whole
      exact free (whole ▸ List.infix_rfl)
    rcases List.exists_cons_of_ne_nil complete with ⟨first, others, rfl⟩
    rw [← same, List.cons_append, List.head?_cons] at behind
    rcases behind with nothing | starts
    · cases nothing
    · cases starts
      have member : '<' ∈ "a href=".toList := by simp [← inTail]
      revert member
      decide

theorem anchorsFrom_gap (free : ¬anchorMark <:+: gap)
    (behind : rest.head? = none ∨ rest.head? = some '<') :
    anchorsFrom 0 (gap ++ rest) = anchorsFrom 0 rest := by
  induction gap with
  | nil => rfl
  | cons char others hypothesis =>
      have none : anchor? (char :: (others ++ rest)) = none := by
        rw [anchor?, if_neg]
        rw [List.isPrefixOf_iff_prefix]
        exact not_isPrefix_append free behind
      rw [List.cons_append, anchorsFrom, none]
      exact hypothesis fun inside => free (inside.trans (List.suffix_cons char others).isInfix)

/-- A written page has the anchors that were written. -/
theorem anchors_of_renders {page : List Char} {written : List WrittenAnchor}
    (renders : Renders page written) : anchors page = written.map WrittenAnchor.read := by
  unfold anchors
  induction renders with
  | @text gap free =>
      have atEnd : anchorsFrom 0 (gap ++ []) = anchorsFrom 0 [] := anchorsFrom_gap free (.inl rfl)
      rwa [List.append_nil] at atEnd
  | @anchor gap rest anchor anchors free renders hypothesis =>
      rw [anchorsFrom_gap free (.inr rfl), anchorsFrom_anchor, hypothesis, List.map_cons]

/-! ## Entries -/

/-- A label that escapes a text shows it without the blanks at its ends and without a final
slash. -/
theorem nameOfLabel_escape (shown : List Char) :
    nameOfLabel (shown.flatMap Entity.escapeChar) =
      .ok (if (trim shown).getLast? = some '/' then (trim shown).dropLast else trim shown) := by
  have resolved : Entity.resolveFrom 0 (shown.flatMap Entity.escapeChar) = .ok shown := by
    have whole := Entity.resolveFrom_escape shown []
    rw [List.append_nil] at whole
    rw [whole]
    exact congrArg Except.ok (List.append_nil shown)
  simp only [nameOfLabel, resolved, bind, Except.bind]
  rfl

/-- An anchor that shows a name is an entry if its class names a kind. -/
theorem entryOfAnchor?_of_nameOfLabel {anchor : Anchor} {name : List Char} (some : name ≠ [])
    (shows : nameOfLabel anchor.label = .ok name) :
    entryOfAnchor? anchor =
      .ok ((kindOfClasses? anchor.classes).map fun kind => ⟨String.ofList name, kind, none⟩) := by
  have nonempty : name.isEmpty = false := by simpa using some
  simp only [entryOfAnchor?, shows, bind, Except.bind, nonempty]
  rfl

theorem entryOfAnchor?_escape {name : List Char} {classes : List Char} {kind : EntryKind}
    (some : name ≠ []) (trimmed : trim name = name) (noSlash : name.getLast? ≠ .some '/')
    (isKind : kindOfClasses? classes = .some kind) :
    entryOfAnchor? ⟨classes, name.flatMap Entity.escapeChar⟩ =
      .ok (.some ⟨String.ofList name, kind, none⟩) := by
  have shows : nameOfLabel (name.flatMap Entity.escapeChar) = .ok name := by
    rw [nameOfLabel_escape, trimmed, if_neg noSlash]
  rw [entryOfAnchor?_of_nameOfLabel some shows, isKind]
  rfl

/-- A written page has the entries of the anchors that were written. -/
theorem readPage_of_renders {page : String} {written : List WrittenAnchor}
    {found : List (Option Entry)} (renders : Renders page.toList written)
    (read : List.Forall₂ (fun anchor entry? => entryOfAnchor? anchor.read = .ok entry?)
      written found) : readPage page = .ok (found.filterMap id) := by
  have each : (anchors page.toList).mapM entryOfAnchor? = .ok found := by
    rw [anchors_of_renders renders, Results.mapM_eq_ok_iff, List.forall₂_map_left_iff]
    exact read
  rw [readPage, each]
  rfl

end ImageCatalog.Catalog
