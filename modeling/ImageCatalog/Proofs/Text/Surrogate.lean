import ImageCatalog.Proofs.Text.Utf8
import ImageCatalog.Text.Blank
import ImageCatalog.Text.Hex
import ImageCatalog.Text.Split
import ImageCatalog.Text.Surrogate

/-!
# Texts without halves

The characters that stand in for halves are as good as the halves: every character has a code point,
and every code point but those of the characters that are given up has a character. Texts that are
put together have no half in them exactly if none of their parts has one.
-/

namespace ImageCatalog.Text

/-- The text that the byte 255 of a command line becomes. -/
def strayText : String :=
  String.singleton (ofCodePoint 0xDCFF)

theorem ofCodePoint_toCodePoint (char : Char) : ofCodePoint (toCodePoint char) = char := by
  have valid := Utf8.toNat_valid char
  have same : (if isHalfCode (toCodePoint char) then toCodePoint char + standInOffset
      else toCodePoint char) = char.toNat := by
    grind [toCodePoint, isHalf, isHalfCode, standInOffset]
  rw [ofCodePoint, same, Char.ofNat_toNat]

/-- Every code point has a character, but for those whose characters stand in for halves. -/
theorem toCodePoint_ofCodePoint {code : Nat} (own : code < 0xD800 + standInOffset) :
    toCodePoint (ofCodePoint code) = code := by
  rw [toCodePoint, isHalf, ofCodePoint, Utf8.toNat_ofNat (by grind [isHalfCode, standInOffset])]
  grind [isHalfCode, standInOffset]

theorem isHalf_ofCodePoint {code : Nat} (own : code < 0xD800 + standInOffset) :
    isHalf (ofCodePoint code) = isHalfCode code := by
  rw [isHalf, ofCodePoint, Utf8.toNat_ofNat (by grind [isHalfCode, standInOffset])]
  grind [isHalfCode, standInOffset]

theorem isHalf_of_lt {char : Char} (small : char.toNat < 0xD800 + standInOffset) :
    isHalf char = false :=
  decide_eq_false (Nat.not_le_of_lt small)

theorem isHalf_of_ascii {char : Char} (ascii : char.toNat < 0x80) : isHalf char = false := by
  refine isHalf_of_lt ?_
  unfold standInOffset
  omega

/-- No blank stands in for a half. -/
theorem isHalf_of_isBlank {char : Char} (blank : isBlank char = true) : isHalf char = false := by
  refine isHalf_of_lt ?_
  simp only [isBlank, isUnicodeSpace, Bool.or_eq_true, Bool.and_eq_true, decide_eq_true_eq,
    beq_iff_eq] at blank
  unfold standInOffset
  omega

theorem isHalf_of_isDigit {char : Char} (isDigit : char.isDigit = true) : isHalf char = false := by
  simp only [Char.isDigit, Bool.and_eq_true, decide_eq_true_eq, ge_iff_le,
    UInt32.le_iff_toNat_le] at isDigit
  have upper : char.toNat ≤ 57 := isDigit.2
  exact isHalf_of_ascii (by omega)

theorem all_noHalf_hexField (width value : Nat) :
    ((hexField width value).all fun char => !isHalf char) = true := by
  have digit : ∀ value < 16, isHalf (hexDigit value) = false := by decide
  induction width generalizing value with
  | zero => rfl
  | succ width hypothesis =>
      rw [hexField, List.all_append, hypothesis, List.all_cons,
        digit _ (Nat.mod_lt value (by decide))]
      rfl

theorem isHalf_of_isWhole {text : String} (whole : isWhole text = true) {char : Char}
    (member : char ∈ text.toList) : isHalf char = false := by
  simpa using List.all_eq_true.mp whole char member

theorem isWhole_ofList (chars : List Char) :
    isWhole (String.ofList chars) = chars.all fun char => !isHalf char := by
  rw [isWhole, String.toList_ofList]

/-- The encoding of a half starts with the byte 244, which is found without cutting the text into
characters. -/
theorem isWhole_of_bytes {text : String}
    (small : (text.toByteArray.data.toList.all fun byte => byte.toNat < 0xF4) = true) :
    isWhole text = true := by
  rcases text.exists_eq_ofList with ⟨chars, rfl⟩
  rw [String.toByteArray_ofList, List.utf8Encode, List.data_toByteArray, List.toList_toArray,
    List.all_flatMap, List.all_eq_true] at small
  rw [isWhole, String.toList_ofList, List.all_eq_true]
  intro char member
  have bytes := small char member
  cases half : isHalf char with
  | false => rfl
  | true =>
      have code : char.val.toNat = char.toNat := rfl
      have valid := Utf8.toNat_valid char
      have large : 0xD800 + 0x102000 ≤ char.toNat := of_decide_eq_true half
      have first : char.toNat / 262144 % 8 + 240 = 0xF4 := by omega
      simp only [String.utf8EncodeChar, code] at bytes
      rw [if_neg (by omega), if_neg (by omega), if_neg (by omega), first] at bytes
      cases bytes

theorem isWhole_append (left right : String) :
    isWhole (left ++ right) = (isWhole left && isWhole right) := by
  rw [isWhole, String.toList_append, List.all_append]
  rfl

theorem isWhole_append_of {left right : String} (first : isWhole left = true)
    (second : isWhole right = true) : isWhole (left ++ right) = true := by
  rw [isWhole_append, first, second]
  rfl

/-- A test that a separator passes is passed by joined pieces if each of them passes it. -/
theorem all_joinChars (test : Char → Bool) {separator : List Char}
    (passes : separator.all test = true) (pieces : List (List Char)) :
    (joinChars separator pieces).all test = pieces.all fun piece => piece.all test := by
  induction pieces with
  | nil => rfl
  | cons piece rest hypothesis =>
      cases rest with
      | nil => simp [joinChars]
      | cons next others =>
          rw [joinChars, List.all_append, List.all_append, hypothesis, passes, Bool.and_true]
          rfl

end ImageCatalog.Text
