import ImageCatalog.Proofs.Json.Text
import ImageCatalog.Proofs.Yaml.Cursor

/-!
# Quoted texts in YAML

A portable text between double quotes is read in YAML as it is in JSON: the escapes of JSON are
escapes of YAML with the same meaning, and spaces stay where no line ends among them. Code units are
not joined there, so that the halves of pairs must not come together.
-/

namespace ImageCatalog.Yaml.Quoted

open Cursor Json Text

/-! ## Code units -/

/-- Where no halves of pairs come together, every code unit is a character. -/
theorem joinUnits_of_unpaired {units : List Nat}
    (unpaired : units.IsChain fun high low => ¬IsPair high low) :
    joinUnits units = units.map ofCodePoint := by
  induction units using joinUnits.induct with
  | case1 => rfl
  | case2 unit => rfl
  | case3 high low rest pair hypothesis =>
      exact absurd pair (List.isChain_cons_cons.mp unpaired).1
  | case4 high low rest noPair hypothesis =>
      rw [joinUnits, if_neg noPair, hypothesis unpaired.tail]
      rfl

/-! ## Escapes -/

variable {cursor : Cursor} {rest : List Char}

theorem replacement?_of_shortEscape? {letter char : Char}
    (means : shortEscape? letter = some char) : replacement? letter = some char.toNat := by
  unfold shortEscape? at means
  split at means
  all_goals first | (cases means; rfl) | cases means

theorem charOfCode_eq {value : Nat} (small : value < 0x10000) :
    charOfCode value = .ok (ofCodePoint value) := by
  rw [charOfCode, if_neg (by omega)]

theorem readEscape_short {letter char : Char} (means : shortEscape? letter = some char)
    (text : cursor.rest = letter :: rest) :
    readEscape cursor = .ok ([char], cursor.step) := by
  have peek : cursor.peek = some letter := by rw [Cursor.peek, text, List.head?_cons]
  simp only [readEscape, peek, replacement?_of_shortEscape? means, Char.ofNat_toNat]

theorem readEscape_code {a b c d : Char} {value : Nat}
    (means : hexToNat? [a, b, c, d] = some value)
    (text : cursor.rest = 'u' :: a :: b :: c :: d :: rest) :
    readEscape cursor = .ok ([ofCodePoint value], cursor.forward 5) := by
  have peek : cursor.peek = some 'u' := by rw [Cursor.peek, text, List.head?_cons]
  have digits : cursor.step.rest.take 4 = [a, b, c, d] := by
    rw [rest_step, text]
    rfl
  have noLetter : replacement? 'u' = none := rfl
  have width : codeWidth? 'u' = some 4 := rfl
  simp only [readEscape, peek, noLetter, width, digits, means, charOfCode_eq (of_hexToNat? means).2]
  rfl

/-! ## Spaces -/

/-- A space that stands for itself. -/
def space : Piece :=
  .plain ' ' (by decide)

theorem exists_spaces (pieces : List Piece) :
    ∃ count others, pieces = List.replicate count space ++ others ∧ others.head? ≠ some space := by
  induction pieces with
  | nil => exact ⟨0, [], rfl, by simp⟩
  | cons piece rest hypothesis =>
      by_cases isSpace : piece = space
      · rcases hypothesis with ⟨count, others, rfl, notSpace⟩
        exact ⟨count + 1, others, by rw [isSpace]; rfl, notSpace⟩
      · exact ⟨0, piece :: rest, rfl, by simpa using isSpace⟩

theorem quotedRest_spaces (count : Nat) (others : List Piece) :
    quotedRest (List.replicate count space ++ others) =
      List.replicate count ' ' ++ quotedRest others := by
  have spelt : (List.replicate count space).flatMap Piece.chars = List.replicate count ' ' := by
    induction count with
    | zero => rfl
    | succ count hypothesis =>
        rw [List.replicate_succ, List.flatMap_cons, hypothesis]
        rfl
  rw [quotedRest, List.flatMap_append, spelt, List.append_assoc]
  rfl

theorem solid_of_plain {char : Char} {allowed : char ≠ '"' ∧ char ≠ '\\' ∧ 0x20 ≤ char.toNat}
    (portable : (Piece.plain char allowed).IsPortable)
    (notSpace : Piece.plain char allowed ≠ space) : isBlankOrBreak char = false := by
  have inline : isBreak char = false := portable.2
  have solid : char ≠ ' ' := by
    rintro rfl
    exact notSpace rfl
  have visible : char ≠ '\t' := by
    rintro rfl
    exact absurd allowed.2.2 (by decide)
  simp [isBlankOrBreak, inline, solid, visible]

/-- What does not start with a space starts with a character inside a line. -/
theorem exists_head_quotedRest {pieces : List Piece}
    (portable : ∀ piece ∈ pieces, piece.IsPortable) (notSpace : pieces.head? ≠ some space) :
    ∃ head others, quotedRest pieces = head :: others ∧ isBlankOrBreak head = false := by
  cases pieces with
  | nil => exact ⟨'"', [], rfl, by decide⟩
  | cons piece rest =>
      cases piece with
      | plain char allowed =>
          exact ⟨char, _, rfl, solid_of_plain (portable _ List.mem_cons_self) fun same =>
            notSpace (congrArg some same)⟩
      | short letter char means => exact ⟨'\\', _, rfl, by decide⟩
      | code a b c d value means => exact ⟨'\\', _, rfl, by decide⟩

theorem blanks_spaces {count : Nat} {head : Char} (solid : isBlankOrBreak head = false)
    (text : cursor.rest = List.replicate count ' ' ++ head :: rest) :
    ∃ next, blanks cursor = .ok (List.replicate count ' ', next) ∧
      cursor.Passes (List.replicate count ' ') next := by
  simp only [isBlankOrBreak, Bool.or_eq_false_iff, beq_eq_false_iff_ne] at solid
  obtain ⟨⟨notSpace, notTab⟩, inline⟩ := solid
  have run : cursor.rest.takeWhile (fun char => char == ' ' || char == '\t') =
      List.replicate count ' ' := by
    rw [text, List.takeWhile_append_of_pos]
    · simp [notSpace, notTab]
    · intro char member
      rw [List.eq_of_mem_replicate member]
      rfl
  have passes : cursor.Passes (List.replicate count ' ')
      (cursor.forward (List.replicate count ' ').length) := by
    refine passes_forward text fun char member => ?_
    rw [List.eq_of_mem_replicate member]
    rfl
  refine ⟨_, ?_, passes⟩
  have left := passes.rest_eq text
  have atEnd : (cursor.forward (List.replicate count ' ').length).atEnd = false := by
    rw [Cursor.atEnd, left]
    rfl
  have atBreak : (cursor.forward (List.replicate count ' ').length).atBreak = false := by
    rw [Cursor.atBreak, Cursor.peek, left]
    exact inline
  simp only [blanks, span, run, atEnd, atBreak, Bool.false_eq_true, if_false]

/-! ## Texts -/

theorem readRest_closing (budget : Nat) (text : cursor.rest = '"' :: rest) :
    readRest true (budget + 1) cursor = .ok ([], cursor.step) := by
  have peek : cursor.peek = some '"' := by rw [Cursor.peek, text, List.head?_cons]
  have solid : isBlankOrBreak '"' = false := by decide
  simp only [readRest, peek, solid]
  rfl

/-- An escape is read on its own. -/
theorem readRest_escape {found : List Char} {next : Cursor} (budget : Nat)
    (text : cursor.rest = '\\' :: rest) (escape : readEscape cursor.step = .ok (found, next)) :
    readRest true (budget + 1) cursor =
      (readRest true budget next).map fun (others, behind) => (found ++ others, behind) := by
  have peek : cursor.peek = some '\\' := by rw [Cursor.peek, text, List.head?_cons]
  have solid : isBlankOrBreak '\\' = false := by decide
  have notQuote : '\\' ≠ '"' := by decide
  simp only [readRest, peek, solid, escape, notQuote, Bool.false_eq_true, if_false, if_true,
    Bool.true_and, beq_self_eq_true]
  rfl

/-- A piece that is no space is read on its own. -/
theorem readRest_piece {piece : Piece} (portable : piece.IsPortable) (notSpace : piece ≠ space)
    (budget : Nat) (text : cursor.rest = piece.chars ++ rest) :
    ∃ next, cursor.Passes piece.chars next ∧ readRest true (budget + 1) cursor =
      (readRest true budget next).map fun (others, behind) =>
        (ofCodePoint piece.unit :: others, behind) := by
  cases piece with
  | plain char allowed =>
      have peek : cursor.peek = some char := by
        rw [Cursor.peek, text]
        rfl
      have notEscape : (char == '\\') = false := beq_false_of_ne allowed.2.1
      refine ⟨cursor.step, passes_step text portable.2, ?_⟩
      simp only [readRest, peek, solid_of_plain portable notSpace, allowed.1, notEscape,
        Bool.false_eq_true, if_false, if_true, Bool.and_false, Piece.unit, ofCodePoint_toNat]
  | short letter char means =>
      have slash := passes_step text (by decide)
      have behind : cursor.step.rest = letter :: rest := slash.rest_eq text
      have passed := passes_step behind (isInk_of_shortEscape? means).isBreak
      refine ⟨cursor.step.step, slash.trans passed, ?_⟩
      rw [readRest_escape budget text (readEscape_short means behind), Piece.unit,
        ofCodePoint_toNat]
      rfl
  | code a b c d value means =>
      have slash := passes_step text (by decide)
      have behind : cursor.step.rest = ['u', a, b, c, d] ++ rest := slash.rest_eq text
      have inline : ∀ char ∈ ['u', a, b, c, d], isBreak char = false :=
        List.forall_mem_cons.mpr ⟨by decide, fun char member =>
          (isInk_of_isAlphanum ((of_hexToNat? means).1 char member)).isBreak⟩
      refine ⟨cursor.step.forward 5, slash.trans (passes_forward behind inline), ?_⟩
      rw [readRest_escape budget text (readEscape_code means behind)]
      rfl

/-- Spaces that stand together are read at once. -/
theorem readRest_spaces {count : Nat} {head : Char} (solid : isBlankOrBreak head = false)
    (budget : Nat) (text : cursor.rest = List.replicate (count + 1) ' ' ++ head :: rest) :
    ∃ next, cursor.Passes (List.replicate (count + 1) ' ') next ∧
      readRest true (budget + 1) cursor = (readRest true budget next).map
        fun (others, behind) => (List.replicate (count + 1) ' ' ++ others, behind) := by
  rcases blanks_spaces solid text with ⟨next, read, passes⟩
  have peek : cursor.peek = some ' ' := by
    rw [Cursor.peek, text]
    rfl
  have blank : isBlankOrBreak ' ' = true := by decide
  refine ⟨next, passes, ?_⟩
  simp only [readRest, peek, blank, if_true, read]
  rfl

/-- The pieces of a text are read one after the other, up to the closing quote. The induction is on
the number of pieces, since it skips over spaces that are read together. -/
theorem readRest_quotedRest {pieces : List Piece}
    (portable : ∀ piece ∈ pieces, piece.IsPortable) {budget : Nat}
    (enough : pieces.length < budget) (text : cursor.rest = quotedRest pieces ++ rest) :
    ∃ behind, cursor.Passes (quotedRest pieces) behind ∧ readRest true budget cursor =
      .ok (pieces.map fun piece => ofCodePoint piece.unit, behind) := by
  induction length : pieces.length using Nat.strong_induction_on
    generalizing pieces budget cursor with
  | h total hypothesis =>
      obtain ⟨budget, rfl⟩ := Nat.exists_eq_succ_of_ne_zero (Nat.ne_zero_of_lt enough)
      rcases exists_spaces pieces with ⟨count, others, rfl, notSpace⟩
      cases count with
      | succ count =>
          have later : ∀ piece ∈ others, piece.IsPortable := fun piece member =>
            portable piece (List.mem_append_right _ member)
          rcases exists_head_quotedRest later notSpace with ⟨head, more, spelt, solid⟩
          rw [quotedRest_spaces, List.append_assoc] at text
          have headed := text
          rw [spelt] at headed
          rcases readRest_spaces solid budget headed with ⟨next, passes, read⟩
          rw [List.length_append, List.length_replicate] at enough length
          have fits : others.length < budget := by omega
          rcases hypothesis others.length (by omega) later fits (passes.rest_eq text) rfl with
            ⟨behind, onward, found⟩
          refine ⟨behind, ?_, ?_⟩
          · rw [quotedRest_spaces]
            exact passes.trans onward
          · rw [read, found, List.map_append, List.map_replicate]
            rfl
      | zero =>
          cases others with
          | nil => exact ⟨cursor.step, passes_step text (by decide), readRest_closing budget text⟩
          | cons piece others =>
              rw [List.replicate_zero, List.nil_append] at portable enough length text ⊢
              rw [List.forall_mem_cons] at portable
              rw [List.length_cons] at enough length
              have isPiece : piece ≠ space := fun same => notSpace (congrArg some same)
              have spelt : quotedRest (piece :: others) = piece.chars ++ quotedRest others := by
                rw [quotedRest, List.flatMap_cons, List.append_assoc]
                rfl
              rw [spelt, List.append_assoc] at text
              rcases readRest_piece portable.1 isPiece budget text with ⟨next, passes, read⟩
              have fits : others.length < budget := by omega
              rcases hypothesis others.length (by omega) portable.2 fits
                (passes.rest_eq text) rfl with ⟨behind, onward, found⟩
              refine ⟨behind, ?_, ?_⟩
              · rw [spelt]
                exact passes.trans onward
              · rw [read, found]
                rfl

theorem length_le_quotedRest (pieces : List Piece) :
    pieces.length ≤ (quotedRest pieces).length := by
  have each (piece : Piece) : 1 ≤ piece.chars.length := by
    cases piece <;> simp [Piece.chars]
  induction pieces with
  | nil => exact Nat.zero_le _
  | cons piece others hypothesis =>
      have first := each piece
      rw [quotedRest, List.length_append] at hypothesis ⊢
      rw [List.flatMap_cons, List.length_append, List.length_cons]
      omega

/-- A portable text is read as the text that it stands for. -/
theorem read_quoted {pieces : List Piece} (portable : IsPortableText pieces)
    (text : cursor.rest = '"' :: (quotedRest pieces ++ rest)) :
    ∃ behind, cursor.Passes ('"' :: quotedRest pieces) behind ∧
      read true cursor = .ok (textOf pieces, behind) := by
  have opening := passes_step text (by decide)
  have inner : cursor.step.rest = quotedRest pieces ++ rest := opening.rest_eq text
  have enough : pieces.length < cursor.rest.length + 1 := by
    have spelt := length_le_quotedRest pieces
    rw [text, List.length_cons, List.length_append]
    omega
  rcases readRest_quotedRest portable.each enough inner with ⟨behind, passes, found⟩
  refine ⟨behind, opening.trans passes, ?_⟩
  rw [read, found, textOf, joinUnits_of_unpaired portable.unpaired, List.map_map]
  rfl

end ImageCatalog.Yaml.Quoted
