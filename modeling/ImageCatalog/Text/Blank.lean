/-!
# Blank characters

Two notions of blank occur. The wider one, `isBlank`, counts the Unicode spaces, the line and
paragraph separators and the four information separators U+001C to U+001F; it is the one used for
trimming names, values and paths. The narrower one, `isUnicodeSpace`, leaves the information
separators out; it is used where numbers are read.

Trimming is stated for any class of characters, and removes the longest run of the class from
each end.
-/

namespace ImageCatalog.Text

/-- The Unicode property White_Space. -/
def isUnicodeSpace (char : Char) : Bool :=
  let code := char.toNat
  (9 ≤ code && code ≤ 13) || code == 0x20 || code == 0x85 || code == 0xA0 || code == 0x1680 ||
    (0x2000 ≤ code && code ≤ 0x200A) || code == 0x2028 || code == 0x2029 || code == 0x202F ||
    code == 0x205F || code == 0x3000

/-- White space together with the information separators. -/
def isBlank (char : Char) : Bool :=
  isUnicodeSpace char || (28 ≤ char.toNat && char.toNat ≤ 31)

/-- Drop the characters of a class from the front. -/
def trimLeftBy (inClass : Char → Bool) (chars : List Char) : List Char :=
  chars.dropWhile inClass

/-- Drop the characters of a class from the back. -/
def trimRightBy (inClass : Char → Bool) (chars : List Char) : List Char :=
  (chars.reverse.dropWhile inClass).reverse

/-- Drop the characters of a class from both ends. -/
def trimBy (inClass : Char → Bool) (chars : List Char) : List Char :=
  trimRightBy inClass (trimLeftBy inClass chars)

/-- Drop the blanks from both ends. -/
def trim (chars : List Char) : List Char :=
  trimBy isBlank chars

/-- A text without the blanks at its ends. -/
def strip (text : String) : String :=
  String.ofList (trim text.toList)

/-- A text of blanks only, the empty one included. -/
def isBlankText (text : String) : Bool :=
  text.toList.all isBlank

theorem mem_dropWhile_iff {inClass : Char → Bool} {char : Char} (outside : inClass char = false)
    (chars : List Char) : char ∈ chars.dropWhile inClass ↔ char ∈ chars := by
  induction chars with
  | nil => rfl
  | cons first rest hypothesis =>
    rw [List.dropWhile_cons]
    split
    · next inside =>
      have differs : char ≠ first := by
        rintro rfl
        simp [outside] at inside
      rw [hypothesis, List.mem_cons]
      simp [differs]
    · rfl

/-- Trimming loses no character outside the class. -/
theorem mem_trimBy_iff {inClass : Char → Bool} {char : Char} (outside : inClass char = false)
    (chars : List Char) : char ∈ trimBy inClass chars ↔ char ∈ chars := by
  rw [trimBy, trimRightBy, trimLeftBy, List.mem_reverse, mem_dropWhile_iff outside,
    List.mem_reverse, mem_dropWhile_iff outside]

theorem dropWhile_of_head? {inClass : Char → Bool} {chars : List Char}
    (first : ∀ char ∈ chars.head?, inClass char = false) : chars.dropWhile inClass = chars := by
  cases chars with
  | nil => rfl
  | cons char others =>
    rw [List.dropWhile_cons, if_neg]
    simp [first char rfl]

/-- Where neither the first nor the last character belongs to the class, nothing is trimmed. -/
theorem trimBy_of_ends {inClass : Char → Bool} {chars : List Char}
    (first : ∀ char ∈ chars.head?, inClass char = false)
    (last : ∀ char ∈ chars.getLast?, inClass char = false) : trimBy inClass chars = chars := by
  have backwards : ∀ char ∈ chars.reverse.head?, inClass char = false := by
    rwa [List.head?_reverse]
  rw [trimBy, trimLeftBy, dropWhile_of_head? first, trimRightBy, dropWhile_of_head? backwards,
    List.reverse_reverse]

/-- Where no character belongs to the class, nothing is trimmed. -/
theorem trimBy_eq_self {inClass : Char → Bool} {chars : List Char}
    (outside : ∀ char ∈ chars, inClass char = false) : trimBy inClass chars = chars :=
  trimBy_of_ends (fun char first => outside char (List.mem_of_head? first))
    fun char last => outside char (List.mem_of_getLast? last)

theorem trimRightBy_append {inClass : Char → Bool} {after : List Char}
    (trailing : ∀ char ∈ after, inClass char = true) (chars : List Char) :
    trimRightBy inClass (chars ++ after) = trimRightBy inClass chars := by
  have last : ∀ char ∈ after.reverse, inClass char = true := by
    intro char member
    exact trailing char (List.mem_reverse.mp member)
  rw [trimRightBy, List.reverse_append, List.dropWhile_append_of_pos last, trimRightBy]

/-- Runs of the class around a text make no difference to what trimming leaves of it. -/
theorem trimBy_append {inClass : Char → Bool} {before after : List Char}
    (leading : ∀ char ∈ before, inClass char = true)
    (trailing : ∀ char ∈ after, inClass char = true) (chars : List Char) :
    trimBy inClass (before ++ chars ++ after) = trimBy inClass chars := by
  rw [trimBy, trimLeftBy, List.append_assoc, List.dropWhile_append_of_pos leading,
    List.dropWhile_append, trimBy, trimLeftBy]
  split
  · next empty =>
    rw [List.isEmpty_iff.mp empty, ← List.append_nil after, List.dropWhile_append_of_pos trailing]
    rfl
  · exact trimRightBy_append trailing _

theorem exists_trimRightBy (inClass : Char → Bool) (chars : List Char) :
    ∃ after, (∀ char ∈ after, inClass char = true) ∧
      chars = trimRightBy inClass chars ++ after := by
  refine ⟨(chars.reverse.takeWhile inClass).reverse, ?_, ?_⟩
  · intro char member
    exact List.all_eq_true.mp List.all_takeWhile char (List.mem_reverse.mp member)
  · rw [trimRightBy, ← List.reverse_append, List.takeWhile_append_dropWhile, List.reverse_reverse]

/-- What is left of a trimmed text is not trimmed any further. -/
theorem trimBy_trimBy (inClass : Char → Bool) (chars : List Char) :
    trimBy inClass (trimBy inClass chars) = trimBy inClass chars := by
  rcases exists_trimRightBy inClass (trimLeftBy inClass chars) with ⟨after, trailing, split⟩
  have leading : ∀ char ∈ chars.takeWhile inClass, inClass char = true :=
    List.all_eq_true.mp List.all_takeWhile
  have whole : chars.takeWhile inClass ++ trimBy inClass chars ++ after = chars := by
    rw [List.append_assoc, trimBy, ← split, trimLeftBy, List.takeWhile_append_dropWhile]
  calc
    trimBy inClass (trimBy inClass chars)
    _ = trimBy inClass (chars.takeWhile inClass ++ trimBy inClass chars ++ after) :=
      (trimBy_append leading trailing _).symm
    _ = trimBy inClass chars := by rw [whole]

/-- What stands between two runs of the class, without a character of the class, is what trimming
leaves. -/
theorem trimBy_surrounded {inClass : Char → Bool} {before chars after : List Char}
    (outside : ∀ char ∈ chars, inClass char = false)
    (leading : ∀ char ∈ before, inClass char = true)
    (trailing : ∀ char ∈ after, inClass char = true) :
    trimBy inClass (before ++ chars ++ after) = chars := by
  rw [trimBy_append leading trailing, trimBy_eq_self outside]

end ImageCatalog.Text
