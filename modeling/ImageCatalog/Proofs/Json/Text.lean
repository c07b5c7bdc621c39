import ImageCatalog.Json.Reader
import ImageCatalog.Json.Writer
import ImageCatalog.Proofs.Text.Utf8
import Mathlib.Tactic.SplitIfs

/-!
# Reading texts back

A quoted text is a row of pieces, each of which spells one code unit, and the reader takes it apart
in the same way: one of its passes finds the closing quote, the next one undoes the escapes, and the
last one puts the halves of pairs together. `readText_pieces` says what it makes of any pieces. A
text is written as one piece for each character, and since no character is half of a pair, the last
pass has nothing to do there, which is `readText_append`.
-/

namespace ImageCatalog.Json

open Text

/-! ## Pieces -/

/-- How one code unit of a quoted text is spelt: as a character, with a short escape, or with its
number. -/
inductive Piece
  | plain (char : Char) (allowed : char ≠ '"' ∧ char ≠ '\\' ∧ 0x20 ≤ char.toNat)
  | short (letter char : Char) (means : shortEscape? letter = some char)
  | code (a b c d : Char) (value : Nat) (means : hexToNat? [a, b, c, d] = some value)

namespace Piece

/-- The characters of a piece. -/
def chars : Piece → List Char
  | .plain char _ => [char]
  | .short letter _ _ => ['\\', letter]
  | .code a b c d _ _ => ['\\', 'u', a, b, c, d]

/-- The code unit that a piece stands for. -/
def unit : Piece → Nat
  | .plain char _ => char.toNat
  | .short _ char _ => char.toNat
  | .code _ _ _ _ value _ => value

end Piece

/-- The characters of a quoted text, with the closing quote but without the opening one. -/
def quotedRest (pieces : List Piece) : List Char :=
  pieces.flatMap Piece.chars ++ ['"']

/-- The text that some pieces stand for. -/
def textOf (pieces : List Piece) : String :=
  String.ofList (joinUnits (pieces.map Piece.unit))

variable {char : Char} {rest : List Char}

/-! ## The closing quote -/

theorem splitQuoted_plain (notQuote : char ≠ '"') (notSlash : char ≠ '\\') :
    splitQuoted (char :: rest) = (splitQuoted rest).map fun (raw, left) => (char :: raw, left) := by
  rw [splitQuoted]
  · exact notQuote
  · intro _ _ slash
    exact absurd slash notSlash

/-- The codes of the letters and digits of ASCII. -/
theorem isAlphanum_iff : char.isAlphanum = true ↔
    ((65 ≤ char.toNat ∧ char.toNat ≤ 90) ∨ (97 ≤ char.toNat ∧ char.toNat ≤ 122)) ∨
      (48 ≤ char.toNat ∧ char.toNat ≤ 57) := by
  have spelled : char.isAlphanum =
      ((decide (65 ≤ char.val ∧ char.val ≤ 90) ||
        decide (97 ≤ char.val) && decide (char.val ≤ 122)) ||
        decide (48 ≤ char.val) && decide (char.val ≤ 57)) := rfl
  simp only [spelled, Bool.or_eq_true, Bool.and_eq_true, decide_eq_true_eq,
    UInt32.le_iff_toNat_le]
  rfl

/-- A hexadecimal digit is a letter or a digit. -/
theorem isAlphanum_of_hexValue? {char : Char} {value : Nat} (means : hexValue? char = some value) :
    char.isAlphanum = true ∧ value < 16 := by
  have code : char.toNat = char.val.toNat := rfl
  unfold hexValue? at means
  simp only [Char.le_def, UInt32.le_iff_toNat_le] at means
  rw [isAlphanum_iff, code]
  split_ifs at means with digit small capital <;> cases means
  · have upper : char.val.toNat ≤ 57 := digit.2
    exact ⟨.inr digit, by omega⟩
  · have upper : char.val.toNat ≤ 102 := small.2
    have lower : 97 ≤ char.val.toNat := small.1
    exact ⟨.inl (.inr ⟨lower, by omega⟩), by omega⟩
  · have upper : char.val.toNat ≤ 70 := capital.2
    have lower : 65 ≤ char.val.toNat := capital.1
    exact ⟨.inl (.inl ⟨lower, by omega⟩), by omega⟩

/-- The four digits of a number, and its size. -/
theorem of_hexToNat? {a b c d : Char} {value : Nat} (means : hexToNat? [a, b, c, d] = some value) :
    (∀ digit ∈ [a, b, c, d], digit.isAlphanum = true) ∧ value < 0x10000 := by
  simp only [hexToNat?, List.foldl_cons, List.foldl_nil, Option.bind_eq_some_iff,
    Option.map_eq_some_iff, Option.some.injEq] at means
  rcases means with ⟨abc, ⟨ab, ⟨a', ⟨start, rfl, first, isFirst, rfl⟩, second, isSecond, rfl⟩,
    third, isThird, rfl⟩, fourth, isFourth, rfl⟩
  have firstDigit := isAlphanum_of_hexValue? isFirst
  have secondDigit := isAlphanum_of_hexValue? isSecond
  have thirdDigit := isAlphanum_of_hexValue? isThird
  have fourthDigit := isAlphanum_of_hexValue? isFourth
  constructor
  · simp [firstDigit, secondDigit, thirdDigit, fourthDigit]
  · omega

theorem splitQuoted_alphanum {char : Char} (isAlphanum : char.isAlphanum = true)
    (chars : List Char) :
    splitQuoted (char :: chars) =
      (splitQuoted chars).map fun (raw, left) => (char :: raw, left) := by
  refine splitQuoted_plain ?_ ?_
  · rintro rfl
    cases isAlphanum
  · rintro rfl
    cases isAlphanum

theorem splitQuoted_piece (piece : Piece) (rest : List Char) :
    splitQuoted (piece.chars ++ rest) =
      (splitQuoted rest).map fun (raw, left) => (piece.chars ++ raw, left) := by
  cases piece with
  | plain char allowed => exact splitQuoted_plain allowed.1 allowed.2.1
  | short letter char means => rfl
  | code a b c d value means =>
      have digits := (of_hexToNat? means).1
      simp only [List.forall_mem_cons] at digits
      obtain ⟨first, second, third, fourth, _⟩ := digits
      simp only [Piece.chars, List.cons_append, List.nil_append, splitQuoted,
        splitQuoted_alphanum first, splitQuoted_alphanum second, splitQuoted_alphanum third,
        splitQuoted_alphanum fourth, Option.map_map]
      rfl

theorem splitQuoted_pieces (pieces : List Piece) (rest : List Char) :
    splitQuoted (quotedRest pieces ++ rest) = some (pieces.flatMap Piece.chars, rest) := by
  induction pieces with
  | nil => rfl
  | cons piece others hypothesis =>
      rw [quotedRest, List.append_assoc] at hypothesis ⊢
      rw [List.flatMap_cons, List.append_assoc, splitQuoted_piece, hypothesis]
      rfl

/-! ## Code units -/

theorem readUnits_piece (piece : Piece) (rest : List Char) :
    readUnits (piece.chars ++ rest) = (readUnits rest).map (piece.unit :: ·) := by
  cases piece with
  | plain char allowed =>
      rw [Piece.chars, List.singleton_append, readUnits]
      · rw [if_neg (not_or.mpr ⟨allowed.2.1, Nat.not_lt.mpr allowed.2.2⟩)]
        rfl
      · intro _ _ _ _ _ slash
        exact absurd slash allowed.2.1
      · intro _ _ slash
        exact absurd slash allowed.2.1
  | short letter char means =>
      rw [Piece.chars, List.cons_append, List.singleton_append, readUnits]
      · rw [means]
        cases readUnits rest <;> rfl
      · rintro _ _ _ _ _ rfl
        cases means
  | code a b c d value means =>
      simp only [Piece.chars, List.cons_append, List.nil_append, readUnits, means]
      cases readUnits rest <;> rfl

theorem readUnits_pieces (pieces : List Piece) :
    readUnits (pieces.flatMap Piece.chars) = some (pieces.map Piece.unit) := by
  induction pieces with
  | nil => rfl
  | cons piece others hypothesis =>
      rw [List.flatMap_cons, readUnits_piece, hypothesis]
      rfl

/-- Pieces are read as the text that they stand for, whatever follows. -/
theorem readText_pieces (pieces : List Piece) (rest : List Char) :
    readText (quotedRest pieces ++ rest) = .ok (textOf pieces, rest) := by
  simp only [readText, splitQuoted_pieces, readUnits_pieces]
  rfl

/-! ## Written characters -/

/-- A character is written as one piece that stands for it. -/
theorem exists_piece_of_writeChar (char : Char) :
    ∃ piece : Piece, piece.chars = writeChar char ∧ piece.unit = char.toNat := by
  have ofCode {code : Nat} (same : char.toNat = code) : Char.ofNat code = char := by
    rw [← same, Char.ofNat_toNat]
  have short {letter : Char} (escaped : shortEscape? letter = some char) :
      ∃ piece : Piece, piece.chars = ['\\', letter] ∧ piece.unit = char.toNat :=
    ⟨.short letter char escaped, rfl, rfl⟩
  have field : ∀ code < 0x20, hexToNat? (hexField 4 code) = some code := by decide
  unfold writeChar
  split_ifs with quote slash line carriage tab backspace feed control
  · exact short (by rw [quote]; rfl)
  · exact short (by rw [slash]; rfl)
  · exact short (by rw [line]; rfl)
  · exact short (by rw [carriage]; rfl)
  · exact short (by rw [tab]; rfl)
  · exact short (congrArg some (ofCode backspace))
  · exact short (congrArg some (ofCode feed))
  · exact ⟨.code _ _ _ _ char.toNat (field _ control), rfl, rfl⟩
  · exact ⟨.plain char ⟨quote, slash, Nat.not_lt.mp control⟩, rfl, rfl⟩

/-- A text is written in pieces that stand for its characters. -/
theorem exists_pieces_of_writeChars (chars : List Char) :
    ∃ pieces : List Piece, pieces.flatMap Piece.chars = chars.flatMap writeChar ∧
      pieces.map Piece.unit = chars.map Char.toNat := by
  induction chars with
  | nil => exact ⟨[], rfl, rfl⟩
  | cons char others hypothesis =>
      rcases exists_piece_of_writeChar char with ⟨piece, spelt, unit⟩
      rcases hypothesis with ⟨pieces, othersSpelt, units⟩
      refine ⟨piece :: pieces, ?_, ?_⟩
      · rw [List.flatMap_cons, List.flatMap_cons, spelt, othersSpelt]
      · rw [List.map_cons, List.map_cons, unit, units]

theorem not_surrogate (char : Char) : ¬(0xD800 ≤ char.toNat ∧ char.toNat ≤ 0xDFFF) := by
  have valid := Utf8.toNat_valid char
  omega

theorem ofCodePoint_toNat (char : Char) : ofCodePoint char.toNat = char := by
  have single := not_surrogate char
  have noHalf : isHalfCode char.toNat = false := by
    simpa [isHalfCode] using single
  rw [ofCodePoint, noHalf, if_neg Bool.false_ne_true, Char.ofNat_toNat]

theorem joinUnits_cons (char : Char) (units : List Nat) :
    joinUnits (char.toNat :: units) = char :: joinUnits units := by
  have single := not_surrogate char
  cases units with
  | nil => simp only [joinUnits, ofCodePoint_toNat]
  | cons low others =>
      have noPair : ¬(0xD800 ≤ char.toNat ∧ char.toNat ≤ 0xDBFF ∧ 0xDC00 ≤ low ∧ low ≤ 0xDFFF) := by
        omega
      rw [joinUnits, if_neg noPair, ofCodePoint_toNat]

theorem joinUnits_map (chars : List Char) : joinUnits (chars.map Char.toNat) = chars := by
  induction chars with
  | nil => rfl
  | cons char others hypothesis => rw [List.map_cons, joinUnits_cons, hypothesis]

/-- A text is read up to its closing quote, whatever follows. -/
theorem readText_append (text : String) (rest : List Char) :
    readText (text.toList.flatMap writeChar ++ '"' :: rest) = .ok (text, rest) := by
  rcases exists_pieces_of_writeChars text.toList with ⟨pieces, spelt, units⟩
  have read := readText_pieces pieces rest
  rw [quotedRest, List.append_assoc, List.singleton_append, spelt, textOf, units, joinUnits_map,
    String.ofList_toList] at read
  exact read

end ImageCatalog.Json
