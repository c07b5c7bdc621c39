import ImageCatalog.Text.Base64
import ImageCatalog.Text.Blank

/-!
# Reading base64 back

A group of three bytes is written as four digits, which take the strict reader from the beginning of
a group to the beginning of the next one. The last group may be shorter; its padding is exactly what
the reader asks for. So the strict reader accepts every written text and gives the bytes back.
-/

namespace ImageCatalog.Text.Base64

/-! ## Digits -/

theorem digitValue?_digit {value : Nat} (small : value < 64) :
    digitValue? (digit value) = some value := by
  revert value
  decide

theorem digit_ne_padding {value : Nat} (small : value < 64) : digit value ≠ '=' := by
  revert value
  decide

/-- The characters of base64 texts. -/
def IsDigitOrPadding (char : Char) : Prop :=
  char = '=' ∨ ∃ value < 64, char = digit value

theorem IsDigitOrPadding.digit {value : Nat} (small : value < 64) :
    IsDigitOrPadding (digit value) :=
  .inr ⟨value, small, rfl⟩

theorem IsDigitOrPadding.toNat_lt {char : Char} (allowed : IsDigitOrPadding char) :
    char.toNat < 0x80 := by
  rcases allowed with rfl | ⟨value, small, rfl⟩
  · decide
  · revert value
    decide

theorem IsDigitOrPadding.ne_percent {char : Char} (allowed : IsDigitOrPadding char) :
    char ≠ '%' := by
  rcases allowed with rfl | ⟨value, small, rfl⟩
  · decide
  · revert value
    decide

theorem IsDigitOrPadding.isBlank_eq_false {char : Char} (allowed : IsDigitOrPadding char) :
    isBlank char = false := by
  rcases allowed with rfl | ⟨value, small, rfl⟩
  · decide
  · revert value
    decide

/-! ## Written texts -/

/-- Every three bytes that are begun are written as four characters. -/
theorem length_encodeBytes (bytes : List UInt8) :
    (encodeBytes bytes).length = 4 * ((bytes.length + 2) / 3) := by
  fun_induction encodeBytes bytes with
  | case1 => rfl
  | case2 a word => simp
  | case3 a b word => simp
  | case4 a b c rest word hypothesis =>
      simp only [List.length_cons, hypothesis]
      omega

theorem encode_ne_empty {bytes : List UInt8} (filled : bytes ≠ []) : encode bytes ≠ "" := by
  rw [encode, ne_eq, String.ofList_eq_empty_iff, ← List.length_eq_zero_iff, length_encodeBytes]
  have some := List.length_pos_iff.mpr filled
  omega

theorem isDigitOrPadding_of_mem {bytes : List UInt8} {char : Char}
    (member : char ∈ encodeBytes bytes) : IsDigitOrPadding char := by
  have sixth {value : Nat} : IsDigitOrPadding (digit (value % 64)) :=
    .digit (Nat.mod_lt _ (by decide))
  have padding : IsDigitOrPadding '=' := .inl rfl
  fun_induction encodeBytes bytes with
  | case1 => cases member
  | case2 a word =>
      have first : word / 262144 < 64 := by have := a.toNat_lt; omega
      simp only [List.mem_cons, List.not_mem_nil, or_false] at member
      rcases member with rfl | rfl | rfl | rfl
      · exact .digit first
      · exact sixth
      · exact padding
      · exact padding
  | case3 a b word =>
      have first : word / 262144 < 64 := by have := a.toNat_lt; have := b.toNat_lt; omega
      simp only [List.mem_cons, List.not_mem_nil, or_false] at member
      rcases member with rfl | rfl | rfl | rfl
      · exact .digit first
      · exact sixth
      · exact sixth
      · exact padding
  | case4 a b c rest word hypothesis =>
      have first : word / 262144 < 64 := by
        have := a.toNat_lt; have := b.toNat_lt; have := c.toNat_lt; omega
      simp only [List.mem_cons] at member
      rcases member with rfl | rfl | rfl | rfl | later
      · exact .digit first
      · exact sixth
      · exact sixth
      · exact sixth
      · exact hypothesis later

/-! ## Reading -/

/-- A digit is pushed to the bits of its group. -/
theorem decodeFrom_digit {state : State} (unpadded : state.padded = false) {value : Nat}
    (small : value < 64) (rest : List Char) :
    decodeFrom true state (digit value :: rest) =
      (decodeFrom true (state.push value).2 rest).map ((state.push value).1 ++ ·) := by
  simp [decodeFrom, digit_ne_padding small, digitValue?_digit small, unpadded]

theorem decodeFrom_first (digits bits : Nat) {value : Nat} (small : value < 64) (rest : List Char) :
    decodeFrom true ⟨digits, 0, bits, 0, false⟩ (digit value :: rest) =
      decodeFrom true ⟨digits + 1, 1, value, 0, false⟩ rest := by
  rw [decodeFrom_digit rfl small]
  simp only [State.push, List.nil_append]
  cases decodeFrom true ⟨digits + 1, 1, value, 0, false⟩ rest <;> rfl

theorem decodeFrom_second (digits bits : Nat) {value : Nat} (small : value < 64)
    (rest : List Char) :
    decodeFrom true ⟨digits, 1, bits, 0, false⟩ (digit value :: rest) =
      (decodeFrom true ⟨digits + 1, 2, value % 16, 0, false⟩ rest).map
        (UInt8.ofNat (4 * bits + value / 16) :: ·) :=
  decodeFrom_digit rfl small rest

theorem decodeFrom_third (digits bits : Nat) {value : Nat} (small : value < 64)
    (rest : List Char) :
    decodeFrom true ⟨digits, 2, bits, 0, false⟩ (digit value :: rest) =
      (decodeFrom true ⟨digits + 1, 3, value % 4, 0, false⟩ rest).map
        (UInt8.ofNat (16 * bits + value / 4) :: ·) :=
  decodeFrom_digit rfl small rest

theorem decodeFrom_fourth (digits bits : Nat) {value : Nat} (small : value < 64)
    (rest : List Char) :
    decodeFrom true ⟨digits, 3, bits, 0, false⟩ (digit value :: rest) =
      (decodeFrom true ⟨digits + 1, 0, 0, 0, false⟩ rest).map
        (UInt8.ofNat (64 * bits + value) :: ·) :=
  decodeFrom_digit rfl small rest

/-- The strict reader gives back what was written, from the beginning of any group on. -/
theorem decodeFrom_encodeBytes (digits : Nat) (bytes : List UInt8) :
    decodeFrom true ⟨digits, 0, 0, 0, false⟩ (encodeBytes bytes) = .ok bytes := by
  have back {value : Nat} {expected : UInt8} (same : value = expected.toNat) :
      UInt8.ofNat value = expected := by rw [same, UInt8.ofNat_toNat]
  fun_induction encodeBytes bytes generalizing digits with
  | case1 => rfl
  | case2 a word =>
      have bound := a.toNat_lt
      have first : UInt8.ofNat (4 * (word / 262144) + word / 4096 % 64 / 16) = a := back (by omega)
      rw [decodeFrom_first _ _ (by omega), decodeFrom_second _ _ (by omega), first]
      rfl
  | case3 a b word =>
      have bound := a.toNat_lt
      have boundNext := b.toNat_lt
      have first : UInt8.ofNat (4 * (word / 262144) + word / 4096 % 64 / 16) = a := back (by omega)
      have second : UInt8.ofNat (16 * (word / 4096 % 64 % 16) + word / 64 % 64 / 4) = b :=
        back (by omega)
      rw [decodeFrom_first _ _ (by omega), decodeFrom_second _ _ (by omega),
        decodeFrom_third _ _ (by omega), first, second]
      rfl
  | case4 a b c rest word hypothesis =>
      have bound := a.toNat_lt
      have boundNext := b.toNat_lt
      have boundLast := c.toNat_lt
      have first : UInt8.ofNat (4 * (word / 262144) + word / 4096 % 64 / 16) = a := back (by omega)
      have second : UInt8.ofNat (16 * (word / 4096 % 64 % 16) + word / 64 % 64 / 4) = b :=
        back (by omega)
      have third : UInt8.ofNat (64 * (word / 64 % 64 % 4) + word % 64) = c := back (by omega)
      rw [decodeFrom_first _ _ (by omega), decodeFrom_second _ _ (by omega),
        decodeFrom_third _ _ (by omega), decodeFrom_fourth _ _ (by omega), first, second, third,
        hypothesis]
      rfl

/-- A text does not start with padding. -/
theorem head?_encodeBytes (bytes : List UInt8) : (encodeBytes bytes).head? ≠ some '=' := by
  have first (byte : UInt8) {word : Nat} (small : word < 65536 * (byte.toNat + 1)) :
      digit (word / 262144) ≠ '=' := by
    have bound := byte.toNat_lt
    exact digit_ne_padding (by omega)
  fun_cases encodeBytes bytes with
  | case1 => simp
  | case2 a word => simpa using first a (by omega)
  | case3 a b word =>
      have bound := b.toNat_lt
      simpa using first a (by omega)
  | case4 a b c rest word =>
      have bound := b.toNat_lt
      have boundNext := c.toNat_lt
      simpa using first a (by omega)

/-- Strict reading undoes writing. -/
theorem decode_encode (bytes : List UInt8) : decode (encode bytes) = .ok bytes := by
  have ascii : (encodeBytes bytes).any (fun char => 0x80 ≤ char.toNat) = false := by
    rw [List.any_eq_false]
    intro char member
    simpa using (isDigitOrPadding_of_mem member).toNat_lt
  rw [decode, encode, String.toList_ofList]
  simp only [ascii, head?_encodeBytes bytes]
  exact decodeFrom_encodeBytes 0 bytes

/-! ## Texts that are not ASCII -/

theorem decodeFrom_ne_notAscii {strict : Bool} {state : State} (chars : List Char) :
    decodeFrom strict state chars ≠ .error .notAscii := by
  induction chars generalizing state with
  | nil =>
      unfold decodeFrom State.atEnd
      split
      · simp [Except.map]
      · split <;> simp [Except.map]
  | cons char rest hypothesis =>
      unfold decodeFrom
      split
      · split
        · split <;> simp
        · exact hypothesis
      · split
        · split
          · simp
          · exact hypothesis
        · split
          · simp
          · next value _ _ =>
              cases later : decodeFrom strict (state.push value).2 rest with
              | ok found => simp [later, Except.map]
              | error fault =>
                  simp only [later, Except.map, ne_eq, Except.error.injEq]
                  rintro rfl
                  exact hypothesis later

/-- A text is refused for characters outside ASCII exactly if it has one. -/
theorem decode_eq_notAscii_iff {text : String} :
    decode text = .error .notAscii ↔ ∃ char ∈ text.toList, 0x80 ≤ char.toNat := by
  have foreign : (text.toList.any fun char => decide (0x80 ≤ char.toNat)) = true ↔
      ∃ char ∈ text.toList, 0x80 ≤ char.toNat := by simp
  rw [← foreign, decode]
  split
  · next some => exact iff_of_true rfl some
  · next none =>
      refine iff_of_false ?_ none
      split
      · simp
      · exact decodeFrom_ne_notAscii text.toList

end ImageCatalog.Text.Base64
