import ImageCatalog.Proofs.Yaml.Cursor

/-!
# Words and numbers in YAML

A word or a number that no quotes enclose is read up to the mark behind it, together with the blanks
in between: nothing that could go on with it stands there.
-/

namespace ImageCatalog.Yaml.Plain

open Cursor Json

/-! ## Characters -/

/-- The characters end what stands before them: there are none, or, in brackets, they start with a
mark. -/
def Closes (inFlow : Bool) (tail : List Char) : Prop :=
  tail = [] ∨ inFlow = true ∧ ∃ mark others, tail = mark :: others ∧ mark ∈ [',', ']', '\x7d']

variable {char : Char} {inFlow : Bool} {gap tail chars rest : List Char} {cursor : Cursor}

theorem isBlankOrBreak_of_isInk (ink : IsInk char) : isBlankOrBreak char = false := by
  have notSpace : char ≠ ' ' := fun same => absurd (same ▸ ink) (by decide)
  have notTab : char ≠ '\t' := fun same => absurd (same ▸ ink) (by decide)
  simp [Yaml.isBlankOrBreak, ink.isBreak, notSpace, notTab]

theorem Closes.startsPart (closes : Closes inFlow tail) : StartsPart tail := by
  rcases closes with rfl | ⟨_, mark, others, rfl, member⟩
  · intro char found
    cases found
  · intro char found
    cases found
    simp only [List.mem_cons, List.not_mem_nil, or_false] at member
    rcases member with rfl | rfl | rfl <;> decide

/-! ## Words -/

/-- Nothing that may go on with a word stands behind some blanks. -/
theorem word_blanks (blanks : AreBlanks gap) (closes : Closes inFlow tail) :
    word inFlow (gap ++ tail) = [] := by
  cases gap with
  | nil =>
      rcases closes with rfl | ⟨flow, mark, others, rfl, member⟩
      · rfl
      · rw [List.nil_append, word, if_pos]
        simp only [List.mem_cons, List.not_mem_nil, or_false] at member
        rcases member with rfl | rfl | rfl <;> simp [flow]
  | cons first others =>
      rw [List.cons_append, word, if_pos]
      rcases blanks first List.mem_cons_self with rfl | rfl | rfl <;> rfl

theorem word_append (bare : ∀ char ∈ chars, IsBare char) (ends : word inFlow rest = []) :
    word inFlow (chars ++ rest) = chars := by
  induction chars with
  | nil => exact ends
  | cons first others hypothesis =>
      rw [List.forall_mem_cons] at bare
      have noColon : (first == ':') = false :=
        beq_false_of_ne (bare.1.ne (by decide))
      have noMark : first ∉ [',', '?', '[', ']', '\x7b', '\x7d'] := by
        simp only [List.mem_cons, List.not_mem_nil, or_false, not_or]
        refine ⟨?_, ?_, ?_, ?_, ?_, ?_⟩ <;> exact bare.1.ne (by decide)
      rw [List.cons_append, word, if_neg, hypothesis bare.2]
      rw [isBlankOrBreak_of_isInk bare.1.isInk, noColon, List.contains_eq_mem,
        decide_eq_false noMark]
      simp

/-! ## Blanks behind a word -/

theorem atMark_of_head? {mark : Char} (differs : cursor.rest.head? ≠ some mark) :
    cursor.atMark mark = false := by
  rw [atMark]
  cases text : cursor.rest with
  | nil => rfl
  | cons first others =>
      have other : (mark == first) = false := by
        rw [beq_eq_false_iff_ne]
        rintro rfl
        exact differs (by rw [text, List.head?_cons])
      simp [List.isPrefixOf, other]

/-- Behind a word, no document begins or ends. -/
theorem atSeparator_blanks (blanks : AreBlanks gap) (closes : Closes inFlow tail)
    (text : cursor.rest = gap ++ tail) : cursor.atSeparator = false := by
  have differs : cursor.rest.head? ≠ some '-' ∧ cursor.rest.head? ≠ some '.' := by
    rw [text]
    cases gap with
    | nil =>
        rcases closes with rfl | ⟨_, mark, others, rfl, member⟩
        · simp
        · simp only [List.mem_cons, List.not_mem_nil, or_false] at member
          rcases member with rfl | rfl | rfl <;> simp
    | cons first others =>
        rcases blanks first List.mem_cons_self with rfl | rfl | rfl <;> simp
  rw [atSeparator, atMark_of_head? differs.1, atMark_of_head? differs.2, Bool.false_or]

theorem blankLines_eq (blanks : AreBlanks gap) (closes : Closes inFlow tail) {budget : Nat}
    (enough : gap.length < budget) (text : cursor.rest = gap ++ tail) :
    ∃ others behind, blankLines budget cursor = (others, false, behind) ∧ behind.rest = tail := by
  induction budget generalizing gap cursor with
  | zero => exact absurd enough (Nat.not_lt_zero _)
  | succ budget hypothesis =>
      rcases skipSpaces_cases blanks closes.startsPart text with
        ⟨inline, passed⟩ | ⟨ends, _, left, leftBlanks, fewer, passed⟩
      · exact ⟨[], cursor.skipSpaces, by simp [blankLines, inline], passed⟩
      · have apart := atSeparator_blanks leftBlanks closes passed
        rcases hypothesis leftBlanks (by omega) passed with ⟨others, behind, found, reached⟩
        exact ⟨cursor.skipSpaces.lineBreak.1 ++ others, behind,
          by simp [blankLines, ends, apart, found], reached⟩

theorem rest_behind_gap (blanks : AreBlanks gap) (closes : Closes inFlow tail)
    (text : cursor.rest = gap ++ tail) : (Plain.gap cursor).behind.rest = tail := by
  have same : (cursor.span (· == ' ')).2 = cursor.skipSpaces := rfl
  rcases skipSpaces_cases blanks closes.startsPart text with
    ⟨inline, passed⟩ | ⟨ends, _, left, leftBlanks, _, passed⟩
  · simp [Plain.gap, same, inline, passed]
  · have apart := atSeparator_blanks leftBlanks closes passed
    have enough : left.length < cursor.skipSpaces.lineBreak.2.rest.length + 1 := by
      rw [passed, List.length_append]
      omega
    rcases blankLines_eq leftBlanks closes enough passed with ⟨others, behind, found, reached⟩
    simp [Plain.gap, same, ends, apart, found, reached]

/-! ## Scalars -/

theorem readRest_end (ends : word inFlow cursor.rest = []) (indent budget : Nat)
    (spaces : List Char) (broken : Bool) :
    readRest inFlow indent budget spaces broken cursor = ⟨[], cursor, broken⟩ := by
  cases budget with
  | zero => rfl
  | succ budget => simp [readRest, ends]

/-- A word or a number is read up to the next mark. -/
theorem read_bare (bare : ∀ char ∈ chars, IsBare char) (nonempty : chars ≠ [])
    (blanks : AreBlanks gap) (closes : Closes inFlow tail) (indent : Nat)
    (text : cursor.rest = chars ++ (gap ++ tail)) :
    (Plain.read inFlow indent cursor).text = chars ∧
      (Plain.read inFlow indent cursor).behind.rest = tail := by
  have found : word inFlow cursor.rest = chars := by
    rw [text, word_append bare (word_blanks blanks closes)]
  have passed : (cursor.forward chars.length).rest = gap ++ tail := by
    rw [rest_forward, text, List.drop_left]
  have reached := rest_behind_gap blanks closes passed
  have noComment : cursor.peek ≠ some '#' := by
    intro same
    rcases List.exists_cons_of_ne_nil nonempty with ⟨first, others, rfl⟩
    rw [peek, text, List.cons_append, List.head?_cons, Option.some.injEq] at same
    exact (bare first List.mem_cons_self).ne (by decide) same
  have ends : word inFlow (Plain.gap (cursor.forward chars.length)).behind.rest = [] := by
    rw [reached]
    have blanks : AreBlanks [] := fun _ member => absurd member List.not_mem_nil
    exact word_blanks blanks closes
  have kept : chars.isEmpty = false := List.isEmpty_eq_false_iff.mpr nonempty
  simp only [Plain.read, readRest, found, noComment, kept, readRest_end ends, decide_false,
    Bool.or_self, Bool.false_eq_true, if_false]
  split <;> simp [reached]

end ImageCatalog.Yaml.Plain
