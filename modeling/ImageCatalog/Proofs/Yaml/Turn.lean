import ImageCatalog.Proofs.Yaml.Plain
import ImageCatalog.Proofs.Yaml.Quoted

/-!
# One token of a YAML document

Inside brackets, and before the first of them, no indentation matters: reading goes on from token to
token, and all that is kept besides are the places of possible keys. `Stands` says how far the
reading has come, and `Reaches` that it comes from one place to another. Each kind of token that the
texts of JSON have takes one turn of the reading.
-/

namespace ImageCatalog.Yaml.Lexer

open Cursor Json

variable {lexer next last : Lexer} {depth : Nat} {written : List Token} {rest gap : List Char}
  {char : Char}

/-! ## Where the reading stands -/

/-- The reading has found some tokens and has blanks and the rest of the text before it. No
collection is open that indentation could close, and no token must turn out to be a key. -/
structure Stands (depth : Nat) (written : List Token) (rest : List Char) (lexer : Lexer) :
    Prop where
  text : ∃ gap, AreBlanks gap ∧ lexer.cursor.rest = gap ++ rest
  tokens : lexer.reversed = written.reverse
  count : lexer.count = written.length
  indents : lexer.indents = []
  depth : lexer.depth = depth
  optional : ∀ entry ∈ lexer.possible, entry.2.required = false

theorem Stands.forget (stands : Stands depth written rest lexer)
    {possible : List (Nat × PossibleKey)} (fewer : ∀ entry ∈ possible, entry ∈ lexer.possible) :
    Stands depth written rest { lexer with possible } :=
  { stands with optional := fun entry member => stands.optional entry (fewer entry member) }

theorem Stands.skip (stands : Stands depth written (gap ++ rest) lexer) (blanks : AreBlanks gap) :
    Stands depth written rest lexer := by
  rcases stands.text with ⟨front, frontBlanks, text⟩
  refine { stands with text := ⟨front ++ gap, ?_, ?_⟩ }
  · exact List.forall_mem_append.mpr ⟨frontBlanks, blanks⟩
  · rw [text, List.append_assoc]

/-- The reading comes from one place to another in some turns, each of which takes a character or
more. -/
def Reaches (lexer next : Lexer) : Prop :=
  ∃ turns, turns + next.cursor.rest.length ≤ lexer.cursor.rest.length ∧
    ∀ budget, lexer.readAll (turns + budget) = next.readAll budget

theorem Reaches.refl (lexer : Lexer) : Reaches lexer lexer :=
  ⟨0, by omega, fun budget => by rw [Nat.zero_add]⟩

theorem Reaches.trans (first : Reaches lexer next) (second : Reaches next last) :
    Reaches lexer last := by
  rcases first with ⟨firstTurns, firstLength, firstReads⟩
  rcases second with ⟨secondTurns, secondLength, secondReads⟩
  refine ⟨firstTurns + secondTurns, by omega, fun budget => ?_⟩
  rw [Nat.add_assoc, firstReads, secondReads]

/-! ## Before a token -/

/-- The state before the next token: blanks are skipped and stale keys forgotten. -/
def settled (lexer : Lexer) : Lexer :=
  let skipped := lexer.skipMark.skipBlanks (lexer.cursor.rest.length + 1)
  { skipped with possible := skipped.possible.filter fun (_, key) => !skipped.isStale key }

theorem skipComment_eq {cursor : Cursor} (noComment : cursor.rest.head? ≠ some '#') :
    cursor.skipComment = cursor :=
  if_neg noComment

theorem skipMark_eq (visible : ∀ char ∈ lexer.cursor.rest.head?, char.toNat < 0xFEFF) :
    lexer.skipMark = lexer := by
  unfold skipMark
  rw [if_neg]
  intro mark
  rw [Bool.and_eq_true, beq_iff_eq, Option.map_eq_some_iff] at mark
  rcases mark.2 with ⟨char, found, code⟩
  exact absurd code (Nat.ne_of_lt (visible char found))

/-- Skipping blanks moves the cursor only, and outside brackets it may allow a key. -/
theorem skipBlanks_eq (blanks : AreBlanks gap) (starts : StartsPart rest) {budget : Nat}
    (enough : gap.length < budget) (text : lexer.cursor.rest = gap ++ rest) :
    ∃ cursor allowed, lexer.skipBlanks budget = { lexer with cursor, allowed } ∧
      cursor.rest = rest ∧ (lexer.depth ≠ 0 → allowed = lexer.allowed) := by
  induction budget generalizing gap lexer with
  | zero => exact absurd enough (Nat.not_lt_zero _)
  | succ budget hypothesis =>
      rcases skipSpaces_cases blanks starts text with
        ⟨inline, passed⟩ | ⟨ends, _, left, leftBlanks, fewer, passed⟩
      · have noComment : lexer.cursor.skipSpaces.rest.head? ≠ some '#' := by
          rw [passed]
          exact fun same => (starts _ same).2 rfl
        refine ⟨lexer.cursor.skipSpaces, lexer.allowed, ?_, passed, fun _ => rfl⟩
        simp only [skipBlanks, skipComment_eq noComment, inline, Bool.false_eq_true, if_false,
          moveTo]
      · have noComment : lexer.cursor.skipSpaces.rest.head? ≠ some '#' := by
          intro same
          rw [atBreak, peek, same] at ends
          exact absurd ends (by decide)
        let broken := lexer.moveTo lexer.cursor.skipSpaces.lineBreak.2
        have onward : lexer.skipBlanks (budget + 1) =
            skipBlanks budget (if lexer.inFlow then broken else broken.allow true) := by
          simp only [skipBlanks, skipComment_eq noComment, ends, if_true, broken]
        have below : left.length < budget := by omega
        rw [onward]
        split
        · rcases hypothesis leftBlanks below (show broken.cursor.rest = left ++ rest from passed)
            with ⟨cursor, allowed, found, reached, kept⟩
          exact ⟨cursor, allowed, found, reached, kept⟩
        · next outside =>
            rcases hypothesis leftBlanks below
              (show (broken.allow true).cursor.rest = left ++ rest from passed)
              with ⟨cursor, allowed, found, reached, _⟩
            refine ⟨cursor, allowed, found, reached, fun inside => ?_⟩
            exact absurd (bne_iff_ne.mpr inside) outside

/-- Spaces are skipped without leaving the line. -/
theorem skipBlanks_inline (inline : ∀ char ∈ gap, char = ' ') (starts : StartsPart rest)
    (budget : Nat) (text : lexer.cursor.rest = gap ++ rest) :
    ∃ cursor, lexer.skipBlanks (budget + 1) = lexer.moveTo cursor ∧
      lexer.cursor.Passes gap cursor := by
  have run : lexer.cursor.rest.takeWhile (· == ' ') = gap := by
    rw [text, List.takeWhile_append_of_pos fun char member => beq_iff_eq.mpr (inline char member)]
    cases rest with
    | nil => simp
    | cons first others =>
        have notSpace : first ≠ ' ' := fun same => absurd (same ▸ (starts first rfl).1) (by decide)
        simp [notSpace]
  have passes : lexer.cursor.Passes gap lexer.cursor.skipSpaces := by
    rw [skipSpaces, skip, span]
    simp only [run]
    exact passes_forward text fun char member => by rw [inline char member]; rfl
  have passed := passes.rest_eq text
  have noComment : lexer.cursor.skipSpaces.rest.head? ≠ some '#' := by
    rw [passed]
    exact fun same => (starts _ same).2 rfl
  refine ⟨lexer.cursor.skipSpaces, ?_, passes⟩
  simp only [skipBlanks, skipComment_eq noComment, atBreak_of_startsPart starts passed,
    Bool.false_eq_true, if_false]

theorem visible_of_blanks (blanks : AreBlanks gap) (starts : StartsPart rest)
    (text : lexer.cursor.rest = gap ++ rest) :
    ∀ char ∈ lexer.cursor.rest.head?, char.toNat < 0xFEFF := by
  intro char found
  rw [text] at found
  cases gap with
  | nil =>
      have ink : char.toNat ≤ 0x7E := (starts char found).1.2
      omega
  | cons first others =>
      cases found
      rcases blanks char List.mem_cons_self with rfl | rfl | rfl <;> decide

/-- Before a token, the cursor and whether a key is allowed may have changed, and some of the
possible keys may be missing. -/
theorem Stands.exists_skipped (stands : Stands depth written rest lexer)
    (starts : StartsPart rest) :
    ∃ cursor allowed, lexer.skipMark.skipBlanks (lexer.cursor.rest.length + 1) =
        { lexer with cursor, allowed } ∧
      cursor.rest = rest ∧ (depth ≠ 0 → allowed = lexer.allowed) := by
  rcases stands.text with ⟨gap, blanks, text⟩
  have enough : gap.length < lexer.cursor.rest.length + 1 := by
    rw [text, List.length_append]
    omega
  rw [skipMark_eq (visible_of_blanks blanks starts text)]
  rcases skipBlanks_eq blanks starts enough text with ⟨cursor, allowed, found, reached, kept⟩
  exact ⟨cursor, allowed, found, reached, fun inside => kept (stands.depth ▸ inside)⟩

theorem Stands.settled (stands : Stands depth written rest lexer) (starts : StartsPart rest) :
    Stands depth written rest lexer.settled ∧ lexer.settled.cursor.rest = rest ∧
      (depth ≠ 0 → lexer.settled.allowed = lexer.allowed) := by
  rcases stands.exists_skipped starts with ⟨cursor, allowed, skipped, reached, kept⟩
  unfold Lexer.settled
  rw [skipped]
  refine ⟨⟨⟨[], fun char member => absurd member List.not_mem_nil, reached⟩, stands.tokens,
    stands.count, stands.indents, stands.depth, fun entry member =>
      stands.optional entry (List.mem_filter.mp member).1⟩, reached, kept⟩

theorem dropStale_eq (optional : ∀ entry ∈ lexer.possible, entry.2.required = false) :
    lexer.dropStale = .ok { lexer with
      possible := lexer.possible.filter fun (_, key) => !lexer.isStale key } := by
  have none : (lexer.possible.any fun (_, key) => lexer.isStale key && key.required) = false := by
    rw [List.any_eq_false]
    intro entry member
    simp [optional entry member]
  rw [dropStale, none]
  rfl

theorem unwind_eq (indents : lexer.indents = []) (column : Option Nat) :
    lexer.unwind column = lexer := by
  unfold unwind
  split
  · rfl
  · rw [indents]
    simp only [unwindFrom, List.replicate_zero, List.nil_append, Nat.add_zero]
    rw [← indents]

/-- Where nothing is indented and no key is required, a turn is the reading of a token; without one
the reading is over. -/
theorem readNext_eq (stands : Stands depth written rest lexer) (starts : StartsPart rest) :
    lexer.readNext =
      match rest.head? with
      | some char => (lexer.settled.readToken char).map .inl
      | none => lexer.settled.dropPossible.map fun cleared => .inr cleared.reversed.reverse := by
  rcases stands.exists_skipped starts with ⟨cursor, allowed, skipped, reached, kept⟩
  have settledStands := (stands.settled starts).1
  have fresh : (lexer.skipMark.skipBlanks (lexer.cursor.rest.length + 1)).dropStale =
      .ok lexer.settled := by
    rw [Lexer.settled, skipped]
    exact dropStale_eq stands.optional
  have peek : lexer.settled.cursor.peek = rest.head? := by
    rw [Cursor.peek, (stands.settled starts).2.1]
  rw [readNext]
  simp only [fresh, bind, Except.bind, unwind_eq settledStands.indents, peek]
  cases rest.head? with
  | some char => cases lexer.settled.readToken char <;> rfl
  | none => cases lexer.settled.dropPossible <;> rfl

/-! ## Possible keys -/

theorem dropPossible_eq (optional : ∀ entry ∈ lexer.possible, entry.2.required = false) :
    ∃ possible, lexer.dropPossible = .ok { lexer with possible } ∧
      ∀ entry ∈ possible, entry.2.required = false := by
  unfold dropPossible
  split
  · exact ⟨lexer.possible, rfl, optional⟩
  · next key found =>
      have notRequired : key.required = false := by
        rcases List.lookup_eq_some_iff.mp found with ⟨front, back, split, _⟩
        exact optional (lexer.depth, key) (by simp [split])
      rw [notRequired]
      exact ⟨_, rfl, fun entry member => optional entry (List.mem_filter.mp member).1⟩

/-- The place of a token is kept, if it may begin a key. -/
theorem savePossible_eq (indents : lexer.indents = [])
    (optional : ∀ entry ∈ lexer.possible, entry.2.required = false) :
    ∃ possible, lexer.savePossible = .ok { lexer with possible } ∧
      (∀ entry ∈ possible, entry.2.required = false) ∧
      (lexer.allowed = true → ∃ column others, possible = (lexer.depth,
        ⟨lexer.count, false, lexer.cursor.index, lexer.cursor.line, column⟩) :: others) := by
  unfold savePossible
  split
  · next allowed =>
      rcases dropPossible_eq optional with ⟨possible, dropped, others⟩
      rw [dropped, indents]
      refine ⟨_, rfl, ?_, fun _ => ⟨lexer.cursor.column, possible, by simp⟩⟩
      rw [List.forall_mem_cons]
      exact ⟨by simp, others⟩
  · next closed => exact ⟨lexer.possible, rfl, optional, fun allowed => absurd allowed closed⟩

/-! ## Marks -/

theorem reaches_of_readToken (stands : Stands depth written (char :: rest) lexer)
    (starts : StartsPart (char :: rest)) (reads : lexer.settled.readToken char = .ok next)
    (shorter : next.cursor.rest.length ≤ rest.length) : Reaches lexer next := by
  rcases stands.text with ⟨gap, _, text⟩
  refine ⟨1, ?_, fun budget => ?_⟩
  · rw [text, List.length_append, List.length_cons]
    omega
  · rw [Nat.add_comm, readAll, readNext_eq stands starts, List.head?_cons]
    simp only [reads]
    rfl

/-- How the tokens that start with a mark of their own are read. -/
def readMark? : Char → Option (Lexer → Except Fault Lexer)
  | '[' => some (openBracket .flowSequenceStart)
  | '\x7b' => some (openBracket .flowMappingStart)
  | ']' => some (closeBracket .flowSequenceEnd)
  | '\x7d' => some (closeBracket .flowMappingEnd)
  | ',' => some readFlowEntry
  | '"' => some (readQuoted true)
  | _ => none

theorem startsPart_of_mark {read : Lexer → Except Fault Lexer}
    (mark : readMark? char = some read) (rest : List Char) : StartsPart (char :: rest) := by
  intro first found
  cases found
  unfold readMark? at mark
  split at mark
  all_goals first | decide | cases mark

theorem readToken_mark {read : Lexer → Except Fault Lexer} (mark : readMark? char = some read)
    (text : lexer.cursor.rest = char :: rest) : lexer.readToken char = read lexer := by
  have notMark (other : Char) (differs : char ≠ other) : lexer.cursor.atMark other = false :=
    Plain.atMark_of_head? (by rw [text]; simpa using differs)
  unfold readMark? at mark
  split at mark
  all_goals
    first
    | (cases mark
       simp [readToken, notMark '-' (by decide), notMark '.' (by decide)])
    | cases mark

/-- The state behind a token of one character. -/
theorem stands_mark (stands : Stands depth written (char :: rest) lexer)
    (text : lexer.cursor.rest = char :: rest) {possible : List (Nat × PossibleKey)}
    (optional : ∀ entry ∈ possible, entry.2.required = false) (token : Token) (allowed : Bool)
    (inner : Nat) :
    Stands inner (written ++ [token]) rest
      ({ lexer with possible, depth := inner, allowed }.mark 1 token) := by
  refine ⟨⟨[], fun char member => absurd member List.not_mem_nil, ?_⟩, ?_, ?_, stands.indents, rfl,
    optional⟩
  · simp [mark, push, moveTo, rest_forward, text]
  · simp [mark, push, moveTo, stands.tokens]
  · simp [mark, push, moveTo, stands.count]

theorem rest_mark (text : lexer.cursor.rest = char :: rest) (token : Token) :
    (lexer.mark 1 token).cursor.rest = rest := by
  simp [mark, push, moveTo, rest_forward, text]

variable {token : Token}

/-- An opening bracket leads further inside, where a key is allowed. -/
theorem reaches_open (mark : readMark? char = some (openBracket token))
    (stands : Stands depth written (char :: rest) lexer) :
    ∃ next, Reaches lexer next ∧ Stands (depth + 1) (written ++ [token]) rest next ∧
      next.allowed = true := by
  have starts := startsPart_of_mark mark rest
  rcases stands.settled starts with ⟨placed, text, _⟩
  rcases savePossible_eq placed.indents placed.optional with ⟨possible, saved, optional, _⟩
  refine ⟨_, reaches_of_readToken stands starts ((readToken_mark mark text).trans ?_) ?_,
    stands_mark placed text optional token true (depth + 1), rfl⟩
  · simp only [openBracket, saved, placed.depth, bind, Except.bind]
    rfl
  · exact Nat.le_of_eq (congrArg List.length (rest_mark text token))

/-- A closing bracket leads outside again. -/
theorem reaches_close (mark : readMark? char = some (closeBracket token))
    (stands : Stands (depth + 1) written (char :: rest) lexer) :
    ∃ next, Reaches lexer next ∧ Stands depth (written ++ [token]) rest next := by
  have starts := startsPart_of_mark mark rest
  rcases stands.settled starts with ⟨placed, text, _⟩
  rcases dropPossible_eq placed.optional with ⟨possible, dropped, optional⟩
  refine ⟨_, reaches_of_readToken stands starts ((readToken_mark mark text).trans ?_) ?_,
    stands_mark placed text optional token false depth⟩
  · simp only [closeBracket, dropped, placed.depth, bind, Except.bind]
    rfl
  · exact Nat.le_of_eq (congrArg List.length (rest_mark text token))

section Enclosed

variable {opening closing : Char} {start finish : Token} {inner tail : List Char}
  (opens : readMark? opening = some (openBracket start))
  (closes : readMark? closing = some (closeBracket finish)) (innerBlanks : AreBlanks inner)
  (blanks : AreBlanks gap)

include opens closes innerBlanks blanks

/-- What stands between two brackets is read from the opening one to the closing one. -/
theorem reaches_enclosed {body : List Char} {inside : List Token}
    (within : ∀ opened : Lexer, opened.allowed = true →
      Stands (depth + 1) (written ++ [start]) body opened →
        ∃ behind, Reaches opened behind ∧
          Stands (depth + 1) (written ++ [start] ++ inside) (closing :: (gap ++ tail)) behind)
    (stands : Stands depth written (opening :: (inner ++ body)) lexer) :
    ∃ next, Reaches lexer next ∧
      Stands depth (written ++ start :: (inside ++ [finish])) tail next := by
  rcases reaches_open opens stands with ⟨opened, toOpened, atOpened, allowed⟩
  rcases within opened allowed (atOpened.skip innerBlanks) with ⟨behind, toBehind, atBehind⟩
  rcases reaches_close closes atBehind with ⟨closed, toClosed, atClosed⟩
  rw [List.append_assoc, List.append_assoc] at atClosed
  exact ⟨closed, toOpened.trans (toBehind.trans toClosed), atClosed.skip blanks⟩

theorem reaches_empty
    (stands : Stands depth written (opening :: (inner ++ closing :: (gap ++ tail))) lexer) :
    ∃ next, Reaches lexer next ∧ Stands depth (written ++ [start, finish]) tail next := by
  show ∃ next, Reaches lexer next ∧ Stands depth (written ++ start :: ([] ++ [finish])) tail next
  refine reaches_enclosed opens closes innerBlanks blanks (fun opened _ atOpened => ?_) stands
  exact ⟨opened, .refl opened, (List.append_nil (written ++ [start])).symm ▸ atOpened⟩

end Enclosed

/-- Behind a comma a key is allowed. -/
theorem reaches_comma (stands : Stands depth written (',' :: rest) lexer) :
    ∃ next, Reaches lexer next ∧ Stands depth (written ++ [.flowEntry]) rest next ∧
      next.allowed = true := by
  have mark : readMark? ',' = some readFlowEntry := rfl
  have starts := startsPart_of_mark mark rest
  rcases stands.settled starts with ⟨placed, text, _⟩
  have keyAllowed : ∀ entry ∈ (lexer.settled.allow true).possible, entry.2.required = false :=
    placed.optional
  rcases dropPossible_eq keyAllowed with ⟨possible, dropped, optional⟩
  refine ⟨_, reaches_of_readToken stands starts ((readToken_mark mark text).trans ?_) ?_,
    stands_mark placed text optional .flowEntry true depth, rfl⟩
  · simp only [readFlowEntry, dropped, ← placed.depth, bind, Except.bind]
    rfl
  · exact Nat.le_of_eq (congrArg List.length (rest_mark text .flowEntry))

/-! ## Scalars -/

/-- The state behind a scalar. -/
theorem stands_scalar {cursor : Cursor} (stands : Stands depth written (char :: rest) lexer)
    {tail : List Char} (passed : cursor.rest = tail) {possible : List (Nat × PossibleKey)}
    (optional : ∀ entry ∈ possible, entry.2.required = false) (token : Token) (allowed : Bool) :
    Stands depth (written ++ [token]) tail
      ((({ lexer with possible }.allow allowed).moveTo cursor).push token) := by
  refine ⟨⟨[], fun char member => absurd member List.not_mem_nil, passed⟩, ?_, ?_, stands.indents,
    stands.depth, optional⟩
  · simp [push, moveTo, allow, stands.tokens]
  · simp [push, moveTo, allow, stands.count]

/-- A quoted text is a token, and if a key is allowed, its place is kept as that of the newest one.
-/
theorem reaches_quoted {pieces : List Piece} (portable : IsPortableText pieces)
    (stands : Stands depth written ('"' :: (quotedRest pieces ++ rest)) lexer) :
    ∃ next, Reaches lexer next ∧
      Stands depth (written ++ [.scalar (textOf pieces) false]) rest next ∧
      next.cursor.rest = rest ∧
      (depth ≠ 0 → lexer.allowed = true → ∃ key others, next.possible = (depth, key) :: others ∧
        key.number = written.length ∧ key.line = next.cursor.line ∧
        key.index + 1 + (quotedRest pieces).length = next.cursor.index) := by
  have mark : readMark? '"' = some (readQuoted true) := rfl
  have starts := startsPart_of_mark mark (quotedRest pieces ++ rest)
  rcases stands.settled starts with ⟨placed, text, allowed⟩
  rcases savePossible_eq placed.indents placed.optional with ⟨possible, saved, optional, newest⟩
  rcases Quoted.read_quoted portable text with ⟨behind, passes, read⟩
  have passed : behind.rest = rest := passes.rest_eq text
  refine ⟨_, reaches_of_readToken stands starts ((readToken_mark mark text).trans ?_) ?_,
    stands_scalar placed passed optional _ false, passed, fun inside keyAllowed => ?_⟩
  · simp only [readQuoted, saved, read, bind, Except.bind]
    rfl
  · show behind.rest.length ≤ _
    rw [passed, List.length_append]
    omega
  · rcases newest ((allowed inside).trans keyAllowed) with ⟨column, others, found⟩
    refine ⟨_, others, by rw [← placed.depth]; exact found, placed.count, passes.line.symm, ?_⟩
    have index := passes.index
    rw [List.length_cons] at index
    show lexer.settled.cursor.index + 1 + _ = behind.index
    omega

/-- The characters start with a letter or a digit, if need be behind a minus sign. -/
def StartsBare (chars : List Char) : Prop :=
  ∃ first others, first.isAlphanum = true ∧
    (chars = first :: others ∨ chars = '-' :: first :: others)

theorem readToken_bare {chars : List Char} (starts : StartsBare chars)
    (text : lexer.cursor.rest = chars ++ rest) :
    ∃ first others, chars = first :: others ∧ lexer.readToken first = lexer.readPlain := by
  rcases starts with ⟨first, others, letter, rfl | rfl⟩
  · have bare : IsBare first := .inl letter
    have differs (other : Char) (noLetter : other.isAlphanum = false) : first ≠ other := by
      rintro rfl
      rw [letter] at noLetter
      cases noLetter
    have notMark (other : Char) (noLetter : other.isAlphanum = false) :
        lexer.cursor.atMark other = false :=
      Plain.atMark_of_head? (by rw [text]; simpa using differs other noLetter)
    refine ⟨first, others, rfl, ?_⟩
    have plain : startsPlain lexer.inFlow first (lexer.cursor.peekAt 1) = true := by
      simp [startsPlain, Plain.isBlankOrBreak_of_isInk bare.isInk, differs]
    simp [readToken, notMark, differs, plain]
  · refine ⟨'-', first :: others, rfl, ?_⟩
    have bare : IsBare first := .inl letter
    have next : lexer.cursor.peekAt 1 = some first := by
      rw [peekAt, text]
      rfl
    have alone : endsOr isBlankOrBreak (some first) = false :=
      Plain.isBlankOrBreak_of_isInk bare.isInk
    have notDash : lexer.cursor.atMark '-' = false := by
      have other : ('-' == first) = false := by
        rw [beq_eq_false_iff_ne]
        rintro rfl
        cases letter
      simp [atMark, text, List.isPrefixOf, other]
    have notDot : lexer.cursor.atMark '.' = false :=
      Plain.atMark_of_head? (by rw [text]; simp)
    have plain : startsPlain lexer.inFlow '-' (some first) = true := by
      simp [startsPlain, alone]
    simp [readToken, notDash, notDot, next, alone, plain]

/-- A word or a number is a token, and the blanks behind it are passed with it. -/
theorem reaches_bare {chars tail : List Char} (bare : ∀ char ∈ chars, IsBare char)
    (starts : StartsBare chars) (blanks : AreBlanks gap) (closes : Plain.Closes (depth != 0) tail)
    (stands : Stands depth written (chars ++ (gap ++ tail)) lexer) :
    ∃ next, Reaches lexer next ∧
      Stands depth (written ++ [.scalar (String.ofList chars) true]) tail next := by
  have nonempty : chars ≠ [] := by
    rcases starts with ⟨first, others, _, rfl | rfl⟩ <;> exact List.cons_ne_nil _ _
  have startsPart : StartsPart (chars ++ (gap ++ tail)) := by
    rcases starts with ⟨first, others, letter, rfl | rfl⟩
    · intro char found
      cases found
      have inner : IsBare first := .inl letter
      exact ⟨inner.isInk, inner.ne (by decide)⟩
    · intro char found
      cases found
      decide
  rcases stands.settled startsPart with ⟨placed, text, _⟩
  rcases savePossible_eq placed.indents placed.optional with ⟨possible, saved, optional, _⟩
  rcases readToken_bare starts text with ⟨first, others, rfl, reads⟩
  have closesHere : Plain.Closes lexer.settled.inFlow tail := by
    rw [inFlow, placed.depth]
    exact closes
  rcases Plain.read_bare bare nonempty blanks closesHere lexer.settled.indent text with
    ⟨read, passed⟩
  have behind :=
    stands_scalar placed passed optional (.scalar (String.ofList (first :: others)) true)
      (Plain.read lexer.settled.inFlow lexer.settled.indent lexer.settled.cursor).broken
  refine ⟨_, reaches_of_readToken stands startsPart (reads.trans ?_) ?_, behind⟩
  · simp only [readPlain, saved, read, bind, Except.bind]
    rfl
  · show (Plain.read lexer.settled.inFlow lexer.settled.indent
      lexer.settled.cursor).behind.rest.length ≤ (others ++ (gap ++ tail)).length
    rw [passed, List.length_append, List.length_append]
    omega

/-! ## Keys -/

/-- The mark of a key is put in front of the token that turns out to be one. -/
theorem stands_insert (stands : Stands depth (written ++ [token]) rest lexer) :
    Stands depth (written ++ [.key, token]) rest (lexer.insert written.length .key) := by
  have later : lexer.count - written.length = 1 := by
    rw [stands.count, List.length_append, List.length_singleton]
    omega
  refine ⟨stands.text, ?_, ?_, stands.indents, stands.depth, stands.optional⟩
  · simp only [insert, later, stands.tokens, List.reverse_append]
    rfl
  · simp [insert, stands.count]

/-- On the line of a possible key, and not too far behind it, it is not forgotten. -/
theorem settled_possible {key : PossibleKey} {others : List (Nat × PossibleKey)}
    (inline : ∀ char ∈ gap, char = ' ') (starts : StartsPart rest)
    (text : lexer.cursor.rest = gap ++ rest) (possible : lexer.possible = (depth, key) :: others)
    (line : key.line = lexer.cursor.line)
    (near : lexer.cursor.index + gap.length ≤ key.index + 1024) :
    ∃ fewer, lexer.settled.possible = (depth, key) :: fewer := by
  have blanks : AreBlanks gap := fun char member => .inl (inline char member)
  rcases skipBlanks_inline inline starts lexer.cursor.rest.length text with ⟨cursor, found, passes⟩
  have fresh : (lexer.moveTo cursor).isStale key = false := by
    have index : cursor.index = lexer.cursor.index + gap.length := passes.index
    have sameLine : cursor.line = lexer.cursor.line := passes.line
    rw [isStale, Bool.or_eq_false_iff]
    refine ⟨?_, decide_eq_false ?_⟩
    · simp [moveTo, sameLine, line]
    · show ¬1024 < cursor.index - key.index
      omega
  have same : (lexer.moveTo cursor).possible = (depth, key) :: others := possible
  refine ⟨others.filter fun (_, key) => !(lexer.moveTo cursor).isStale key, ?_⟩
  rw [settled]
  simp only [skipMark_eq (visible_of_blanks blanks starts text), found, same, List.filter_cons,
    fresh, Bool.not_false, if_true]

theorem readToken_colon (inside : lexer.depth ≠ 0) (text : lexer.cursor.rest = ':' :: rest) :
    lexer.readToken ':' = lexer.readValue := by
  have notMark (other : Char) (differs : ':' ≠ other) : lexer.cursor.atMark other = false :=
    Plain.atMark_of_head? (by rw [text]; simpa using differs)
  have inFlow : lexer.inFlow = true := bne_iff_ne.mpr inside
  simp [readToken, notMark '-' (by decide), notMark '.' (by decide), inFlow]

/-- A colon turns the token before it into a key, if its place is kept. -/
theorem readValue_eq {key : PossibleKey} {others : List (Nat × PossibleKey)}
    (inside : lexer.depth ≠ 0) (possible : lexer.possible = (lexer.depth, key) :: others) :
    ∃ fewer, (∀ entry ∈ fewer, entry ∈ lexer.possible) ∧
      lexer.readValue = .ok ((({ lexer with possible := fewer }.insert key.number .key).allow
        false).mark 1 .value) := by
  have inFlow : lexer.inFlow = true := bne_iff_ne.mpr inside
  have found : lexer.possible.lookup lexer.depth = some key := by
    rw [possible, List.lookup_cons_self]
  refine ⟨lexer.possible.filter fun (depth, _) => depth != lexer.depth,
    fun entry member => (List.mem_filter.mp member).1, ?_⟩
  simp only [readValue, found, inFlow, if_true]
  rfl

theorem areBlanks_of_isPortableGap {gap : Gap} (portable : IsPortableGap gap) : AreBlanks gap.1 :=
  fun _ => portable.cases

/-- The name of a field and its colon are a key. -/
theorem reaches_label {label : Label} (portable : label.IsPortable)
    (stands : Stands (depth + 1) written (label.chars ++ rest) lexer)
    (allowed : lexer.allowed = true) :
    ∃ next, Reaches lexer next ∧ Stands (depth + 1)
      (written ++ [.key, .scalar (textOf label.name) false, .value]) rest next := by
  have inside : depth + 1 ≠ 0 := Nat.succ_ne_zero depth
  have spelt : label.chars ++ rest = '"' :: (quotedRest label.name ++
      (label.before.1 ++ ':' :: (label.after.1 ++ rest))) := by
    simp [Label.chars]
  rw [spelt] at stands
  rcases reaches_quoted portable.name stands with ⟨named, toName, atName, text, keys⟩
  rcases keys inside allowed with ⟨key, others, possible, number, line, index⟩
  have starts : StartsPart (':' :: (label.after.1 ++ rest)) := by
    intro first found
    cases found
    decide
  have near : named.cursor.index + label.before.1.length ≤ key.index + 1024 := by
    have bound := portable.near
    omega
  rcases settled_possible portable.inline starts text possible line near with ⟨fewer, kept⟩
  have atColon := atName.skip fun char member => .inl (portable.inline char member)
  rcases atColon.settled starts with ⟨placed, colon, _⟩
  have insideStill : named.settled.depth ≠ 0 := placed.depth.symm ▸ inside
  rw [← placed.depth] at kept
  rcases readValue_eq insideStill kept with ⟨left, subset, read⟩
  have keyed := stands_insert (placed.forget subset)
  rw [number] at read
  have behind := stands_mark keyed colon keyed.optional .value false (depth + 1)
  rw [List.append_assoc] at behind
  refine ⟨_, toName.trans (reaches_of_readToken atColon starts
    ((readToken_colon insideStill colon).trans (read.trans ?_)) ?_),
    behind.skip (areBlanks_of_isPortableGap portable.after)⟩
  · rw [← placed.depth]
    rfl
  · have passed : ((({ named.settled with possible := left }.insert written.length .key).allow
        false).mark 1 .value).cursor.rest = label.after.1 ++ rest := rest_mark colon .value
    exact Nat.le_of_eq (congrArg List.length passed)

/-! ## The end -/

/-- At the end of the text the reading is over, and its tokens are those that were found. -/
theorem readAll_end (stands : Stands depth written [] lexer) (budget : Nat) :
    lexer.readAll (budget + 1) = ⟨written, none⟩ := by
  have starts : StartsPart [] := fun char found => by cases found
  have placed := (stands.settled starts).1
  rcases dropPossible_eq placed.optional with ⟨possible, dropped, _⟩
  rw [readAll, readNext_eq stands starts]
  simp only [List.head?_nil, dropped, Except.map, placed.tokens, List.reverse_reverse]

end ImageCatalog.Yaml.Lexer
