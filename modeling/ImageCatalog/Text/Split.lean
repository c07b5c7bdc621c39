/-!
# Cutting and joining texts

Texts are cut at every occurrence of a separator, which leaves one piece more than there are
occurrences, and joined by putting a separator between neighbours. A separator of several
characters is looked for from left to right without overlap.
-/

namespace ImageCatalog.Text

/-- Put a character in front of the first piece. -/
def consPiece (char : Char) : List (List Char) → List (List Char)
  | [] => [[char]]
  | piece :: pieces => (char :: piece) :: pieces

/-- The pieces between the occurrences of one character. -/
def splitAtChar (separator : Char) : List Char → List (List Char)
  | [] => [[]]
  | char :: rest =>
    if char = separator then [] :: splitAtChar separator rest
    else consPiece char (splitAtChar separator rest)

theorem consPiece_append (char : Char) {pieces : List (List Char)} (some : pieces ≠ [])
    (others : List (List Char)) :
    consPiece char (pieces ++ others) = consPiece char pieces ++ others := by
  cases pieces with
  | nil => contradiction
  | cons piece pieces => rfl

theorem splitAtChar_ne_nil (separator : Char) (chars : List Char) :
    splitAtChar separator chars ≠ [] := by
  induction chars with
  | nil => simp [splitAtChar]
  | cons char rest step =>
    unfold splitAtChar
    split
    · simp
    · cases found : splitAtChar separator rest with
      | nil => contradiction
      | cons piece pieces => simp [consPiece]

/-- The pieces of a text with a separator in it are those before and those after the separator. -/
theorem splitAtChar_append (separator : Char) (before after : List Char) :
    splitAtChar separator (before ++ separator :: after) =
      splitAtChar separator before ++ splitAtChar separator after := by
  induction before with
  | nil => simp [splitAtChar]
  | cons char rest step =>
    by_cases same : char = separator
    · simp [splitAtChar, same, step]
    · simp only [List.cons_append, splitAtChar, same, if_false, step]
      exact consPiece_append char (splitAtChar_ne_nil separator rest) _

/-- A text without the separator is one piece. -/
theorem splitAtChar_of_not_mem {separator : Char} {chars : List Char}
    (absent : separator ∉ chars) : splitAtChar separator chars = [chars] := by
  induction chars with
  | nil => rfl
  | cons char rest step =>
    rw [List.mem_cons, not_or] at absent
    rw [splitAtChar, if_neg (Ne.symm absent.1), step absent.2, consPiece]

/-- What is appended to a text goes on with its last piece. -/
theorem splitAtChar_append_eq (separator : Char) (chars : List Char) :
    ∃ pieces last, splitAtChar separator chars = pieces ++ [last] ∧
      ∀ others first rest, splitAtChar separator others = first :: rest →
        splitAtChar separator (chars ++ others) = pieces ++ (last ++ first) :: rest := by
  induction chars with
  | nil => exact ⟨[], [], rfl, fun others first rest cut => by simpa using cut⟩
  | cons char chars step =>
    rcases step with ⟨pieces, last, cut, appended⟩
    by_cases same : char = separator
    · refine ⟨[] :: pieces, last, by simp [splitAtChar, same, cut], fun others first rest found => ?_⟩
      simp [splitAtChar, same, appended others first rest found]
    · cases pieces with
      | nil =>
        refine ⟨[], char :: last, by simp [splitAtChar, same, cut, consPiece],
          fun others first rest found => ?_⟩
        simp [splitAtChar, same, appended others first rest found, consPiece]
      | cons piece pieces =>
        refine ⟨(char :: piece) :: pieces, last, by simp [splitAtChar, same, cut, consPiece],
          fun others first rest found => ?_⟩
        simp [splitAtChar, same, appended others first rest found, consPiece]

/-- The pieces between the occurrences of a text, after leaving out the first `skipped`
characters. -/
def splitAtTextFrom (separator : List Char) : Nat → List Char → List (List Char)
  | _, [] => [[]]
  | skipped + 1, _ :: rest => splitAtTextFrom separator skipped rest
  | 0, char :: rest =>
    if separator.isPrefixOf (char :: rest) then
      [] :: splitAtTextFrom separator (separator.length - 1) rest
    else consPiece char (splitAtTextFrom separator 0 rest)

/-- The pieces between the occurrences of a non-empty text. -/
def splitAtText (separator text : String) : List String :=
  (splitAtTextFrom separator.toList 0 text.toList).map String.ofList

/-- The pieces of a text between the occurrences of one character. -/
def splitText (separator : Char) (text : String) : List String :=
  (splitAtChar separator text.toList).map String.ofList

/-- Put a separator between neighbours. -/
def joinChars (separator : List Char) : List (List Char) → List Char
  | [] => []
  | [piece] => piece
  | piece :: next :: pieces => piece ++ separator ++ joinChars separator (next :: pieces)

/-- Cutting undoes joining if no piece has the separator in it. -/
theorem splitAtChar_joinChars {separator : Char} {piece : List Char} {pieces : List (List Char)}
    (absent : ∀ part ∈ piece :: pieces, separator ∉ part) :
    splitAtChar separator (joinChars [separator] (piece :: pieces)) = piece :: pieces := by
  induction pieces generalizing piece with
  | nil => exact splitAtChar_of_not_mem (absent piece List.mem_cons_self)
  | cons next rest step =>
    rw [List.forall_mem_cons] at absent
    rw [joinChars, List.append_assoc, List.singleton_append, splitAtChar_append,
      splitAtChar_of_not_mem absent.1, step absent.2, List.singleton_append]

theorem mem_joinChars {separator : List Char} {pieces : List (List Char)} {char : Char}
    (member : char ∈ joinChars separator pieces) :
    char ∈ separator ∨ ∃ piece ∈ pieces, char ∈ piece := by
  induction pieces with
  | nil => simp [joinChars] at member
  | cons piece rest hypothesis =>
      cases rest with
      | nil => exact .inr ⟨piece, by simp, member⟩
      | cons next others =>
          simp only [joinChars, List.mem_append] at member
          rcases member with (inPiece | inSeparator) | later
          · exact .inr ⟨piece, by simp, inPiece⟩
          · exact .inl inSeparator
          · rcases hypothesis later with inSeparator | ⟨other, otherMem, inOther⟩
            · exact .inl inSeparator
            · exact .inr ⟨other, by simp [otherMem], inOther⟩

/-- Put a separator between neighbouring texts. -/
def joinText (separator : String) (pieces : List String) : String :=
  String.ofList (joinChars separator.toList (pieces.map String.toList))

/-- The part before the first occurrence of a character and, if it occurs, the part after it. -/
def cutAtChar (separator : Char) : List Char → List Char × Option (List Char)
  | [] => ([], none)
  | char :: rest =>
    if char = separator then ([], some rest)
    else
      let (before, after) := cutAtChar separator rest
      (char :: before, after)

theorem cutAtChar_of_not_mem {separator : Char} {chars : List Char}
    (absent : separator ∉ chars) : cutAtChar separator chars = (chars, none) := by
  induction chars with
  | nil => rfl
  | cons char rest step =>
    rw [List.mem_cons, not_or] at absent
    rw [cutAtChar, if_neg (Ne.symm absent.1), step absent.2]

theorem cutAtChar_append {separator : Char} {before : List Char} (absent : separator ∉ before)
    (after : List Char) :
    cutAtChar separator (before ++ separator :: after) = (before, some after) := by
  induction before with
  | nil => simp [cutAtChar]
  | cons char rest step =>
    rw [List.mem_cons, not_or] at absent
    rw [List.cons_append, cutAtChar, if_neg (Ne.symm absent.1), step absent.2]

theorem cutAtChar_snd_eq_none_iff {separator : Char} {chars : List Char} :
    (cutAtChar separator chars).2 = none ↔ separator ∉ chars := by
  constructor
  · intro uncut member
    rcases List.eq_append_cons_of_mem member with ⟨before, after, rfl, absent⟩
    rw [cutAtChar_append absent] at uncut
    cases uncut
  · intro absent
    rw [cutAtChar_of_not_mem absent]

/-- Whether a text occurs somewhere in a row of characters. -/
def occursIn (pattern : List Char) : List Char → Bool
  | [] => pattern.isEmpty
  | char :: rest => pattern.isPrefixOf (char :: rest) || occursIn pattern rest

theorem occursIn_iff {pattern chars : List Char} : occursIn pattern chars ↔ pattern <:+: chars := by
  induction chars with
  | nil => simp [occursIn]
  | cons char rest step =>
    rw [occursIn, Bool.or_eq_true, List.isPrefixOf_iff_prefix, step, List.infix_cons_iff]

/-- Whether the first text occurs in the second. -/
def contains (pattern text : String) : Bool :=
  occursIn pattern.toList text.toList

/-- Whether the second text starts with the first. -/
def startsWith (start text : String) : Bool :=
  start.toList.isPrefixOf text.toList

/-- Whether the second text ends with the first. -/
def endsWith (ending text : String) : Bool :=
  ending.toList.isSuffixOf text.toList

/-- The text without its last `count` characters. -/
def dropEnd (count : Nat) (text : String) : String :=
  String.ofList (text.toList.take (text.toList.length - count))

end ImageCatalog.Text
