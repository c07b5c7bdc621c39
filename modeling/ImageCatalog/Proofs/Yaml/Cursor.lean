import ImageCatalog.Proofs.Json.Portable

/-!
# Moving over a text

What a cursor has in front of it after a move does not depend on where it is, and on a single line
the place follows from the number of characters that were passed. The blanks between the parts of a
text are passed as a whole, be they spaces or line ends.
-/

namespace ImageCatalog.Yaml

open Json

namespace Cursor

variable {cursor next last : Cursor} {chars others rest : List Char} {char : Char}

/-! ## What follows -/

theorem rest_step (cursor : Cursor) : cursor.step.rest = cursor.rest.tail := by
  unfold step
  split
  · next empty => rw [empty, List.tail_nil]
  · next char rest spelt =>
      rw [spelt, List.tail_cons]
      split
      · rfl
      · split <;> rfl

theorem rest_forward (count : Nat) (cursor : Cursor) :
    (cursor.forward count).rest = cursor.rest.drop count := by
  induction count generalizing cursor with
  | zero => rfl
  | succ count hypothesis => rw [forward, hypothesis, rest_step, List.drop_tail]

theorem rest_skip (inClass : Char → Bool) (cursor : Cursor) :
    (cursor.skip inClass).rest = cursor.rest.dropWhile inClass := by
  rw [skip, span, rest_forward]
  calc cursor.rest.drop (cursor.rest.takeWhile inClass).length
      = (cursor.rest.takeWhile inClass ++ cursor.rest.dropWhile inClass).drop
          (cursor.rest.takeWhile inClass).length := by rw [List.takeWhile_append_dropWhile]
    _ = cursor.rest.dropWhile inClass := List.drop_left

/-! ## Moves on a line -/

/-- The next cursor is behind the characters, on the same line. -/
structure Passes (cursor : Cursor) (chars : List Char) (next : Cursor) : Prop where
  text : cursor.rest = chars ++ next.rest
  index : next.index = cursor.index + chars.length
  line : next.line = cursor.line

theorem Passes.refl (cursor : Cursor) : cursor.Passes [] cursor :=
  ⟨rfl, rfl, rfl⟩

theorem Passes.trans (first : cursor.Passes chars next) (second : next.Passes others last) :
    cursor.Passes (chars ++ others) last := by
  refine ⟨?_, ?_, second.line.trans first.line⟩
  · rw [first.text, second.text, List.append_assoc]
  · rw [second.index, first.index, List.length_append, Nat.add_assoc]

theorem Passes.rest_eq (passes : cursor.Passes chars next) (text : cursor.rest = chars ++ rest) :
    next.rest = rest :=
  List.append_cancel_left (passes.text.symm.trans text)

theorem passes_step (text : cursor.rest = char :: rest) (inline : isBreak char = false) :
    cursor.Passes [char] cursor.step := by
  refine ⟨by rw [rest_step, text]; rfl, ?_, ?_⟩
  · simp only [step, text, inline, Bool.false_and, Bool.false_eq_true, if_false]
    split <;> rfl
  · simp only [step, text, inline, Bool.false_and, Bool.false_eq_true, if_false]
    split <;> rfl

theorem passes_forward (text : cursor.rest = chars ++ rest)
    (inline : ∀ char ∈ chars, isBreak char = false) :
    cursor.Passes chars (cursor.forward chars.length) := by
  induction chars generalizing cursor with
  | nil => exact .refl cursor
  | cons first others hypothesis =>
      rw [List.forall_mem_cons] at inline
      have step := passes_step text inline.1
      exact step.trans (hypothesis (step.rest_eq text) inline.2)

/-! ## Blanks -/

/-- All characters are spaces or belong to the ends of lines. -/
def AreBlanks (chars : List Char) : Prop :=
  ∀ char ∈ chars, char = ' ' ∨ char = '\n' ∨ char = '\r'

/-- The characters do not start with blanks or a comment. -/
def StartsPart (chars : List Char) : Prop :=
  ∀ char ∈ chars.head?, IsInk char ∧ char ≠ '#'

variable {gap tail : List Char}

theorem StartsPart.head?_ne (starts : StartsPart tail) (notInk : ¬IsInk char) :
    tail.head? ≠ some char := fun same => notInk (starts char same).1

theorem dropSpaces_append (starts : StartsPart tail) (gap : List Char) :
    (gap ++ tail).dropWhile (· == ' ') = gap.dropWhile (· == ' ') ++ tail := by
  induction gap with
  | nil =>
      cases tail with
      | nil => rfl
      | cons first others =>
          have notSpace : first ≠ ' ' := fun same =>
            starts.head?_ne (by decide) (congrArg some same)
          simp [notSpace]
  | cons first others hypothesis =>
      rw [List.cons_append, List.dropWhile_cons, List.dropWhile_cons]
      split
      · exact hypothesis
      · rfl

theorem rest_skipSpaces (starts : StartsPart tail) (text : cursor.rest = gap ++ tail) :
    cursor.skipSpaces.rest = gap.dropWhile (· == ' ') ++ tail := by
  rw [skipSpaces, rest_skip, text, dropSpaces_append starts]

/-- Behind the spaces, the blanks are over or a line ends. -/
theorem dropSpaces_cases (blanks : AreBlanks gap) :
    gap.dropWhile (· == ' ') = [] ∨
      ∃ first others, gap.dropWhile (· == ' ') = first :: others ∧
        (first = '\n' ∨ first = '\r') := by
  cases found : gap.dropWhile (· == ' ') with
  | nil => exact .inl rfl
  | cons first others =>
      have member : first ∈ gap := (List.dropWhile_suffix _).subset (found ▸ List.mem_cons_self)
      have notSpace : ¬(first == ' ') = true := by
        have head := List.head_dropWhile_not (· == ' ') (l := gap) (by simp [found])
        simpa [found] using head
      exact .inr ⟨first, others, rfl, (blanks first member).resolve_left (by simpa using notSpace)⟩

theorem atBreak_of_startsPart (starts : StartsPart tail) (text : cursor.rest = tail) :
    cursor.atBreak = false := by
  unfold atBreak peek
  rw [text]
  split
  · next char found => exact (starts char found).1.isBreak
  · rfl

theorem atBreak_of_cons (ends : char = '\n' ∨ char = '\r') (text : cursor.rest = char :: rest) :
    cursor.atBreak = true := by
  rw [atBreak, peek, text]
  rcases ends with rfl | rfl <;> rfl

/-- The end of a line is passed, and other blanks are left before the next part. -/
theorem lineBreak_eq (starts : StartsPart tail) (ends : char = '\n' ∨ char = '\r')
    (text : cursor.rest = char :: (gap ++ tail)) :
    cursor.lineBreak.1 = ['\n'] ∧
      ∃ left, left <:+ gap ∧ cursor.lineBreak.2.rest = left ++ tail := by
  have passed : cursor.step.rest = gap ++ tail := by
    rw [rest_step, text, List.tail_cons]
  unfold lineBreak
  split
  · next others both =>
      refine ⟨rfl, ?_⟩
      rw [text] at both
      obtain ⟨rfl, feed⟩ := List.cons.inj both
      cases gap with
      | nil => exact absurd (congrArg List.head? feed) (starts.head?_ne (by decide))
      | cons second more =>
          refine ⟨more, List.suffix_cons second more, ?_⟩
          rw [rest_forward, text]
          rfl
  · next first others notBoth spelt =>
      rw [text] at spelt
      obtain ⟨rfl, -⟩ := List.cons.inj spelt
      rcases ends with rfl | rfl
      · exact ⟨rfl, gap, List.suffix_refl gap, passed⟩
      · exact ⟨rfl, gap, List.suffix_refl gap, passed⟩
  · next empty => simp [text] at empty

theorem AreBlanks.of_suffix {left : List Char} (blanks : AreBlanks gap) (suffix : left <:+ gap) :
    AreBlanks left :=
  fun char member => blanks char (suffix.subset member)

/-- Behind the spaces of some blanks either the next part is reached or a line ends, and the blanks
on the lines that follow are fewer. -/
theorem skipSpaces_cases (blanks : AreBlanks gap) (starts : StartsPart tail)
    (text : cursor.rest = gap ++ tail) :
    (cursor.skipSpaces.atBreak = false ∧ cursor.skipSpaces.rest = tail) ∨
      (cursor.skipSpaces.atBreak = true ∧ cursor.skipSpaces.lineBreak.1 = ['\n'] ∧
        ∃ left, AreBlanks left ∧ left.length < gap.length ∧
          cursor.skipSpaces.lineBreak.2.rest = left ++ tail) := by
  have spaces := rest_skipSpaces starts text
  rcases dropSpaces_cases blanks with none | ⟨first, others, some, ends⟩
  · rw [none, List.nil_append] at spaces
    exact .inl ⟨atBreak_of_startsPart starts spaces, spaces⟩
  · rw [some, List.cons_append] at spaces
    have suffix : first :: others <:+ gap := some ▸ List.dropWhile_suffix _
    rcases lineBreak_eq starts ends spaces with ⟨feed, left, shorter, passed⟩
    refine .inr ⟨atBreak_of_cons ends spaces, feed, left, ?_, ?_, passed⟩
    · exact blanks.of_suffix ((shorter.trans (List.suffix_cons first others)).trans suffix)
    · exact Nat.lt_of_le_of_lt shorter.length_le suffix.length_le

end Cursor

end ImageCatalog.Yaml
