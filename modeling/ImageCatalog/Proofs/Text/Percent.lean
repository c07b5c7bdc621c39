import ImageCatalog.Proofs.Text.Utf8
import ImageCatalog.Text.Percent
import Mathlib.Logic.Function.Basic

/-!
# Reading escapes back

An escape is read as the byte that it was written from, and it is spelt with percent signs and
unreserved characters only. Undoing the escapes of any text, whoever wrote it, never makes the text
longer: every escape and every other character pays for one character or fault of the result.
-/

namespace ImageCatalog.Text.Percent

/-! ## Escapes -/

theorem hexValue?_upperHexDigit {value : Nat} (small : value < 16) :
    hexValue? (upperHexDigit value) = some value := by
  have all : ∀ value < 16, hexValue? (upperHexDigit value) = some value := by decide
  exact all value small

theorem isUnreserved_upperHexDigit {value : Nat} (small : value < 16) :
    isUnreserved (upperHexDigit value) = true := by
  have all : ∀ value < 16, isUnreserved (upperHexDigit value) = true := by decide
  exact all value small

theorem div_lt_sixteen (value : UInt8) : value.toNat / 16 < 16 := by
  have bound := value.toNat_lt
  omega

theorem decodeBytes_escapeByte (value : UInt8) (rest : List Char) :
    decodeBytes (escapeByte value ++ rest) = value :: decodeBytes rest := by
  have low : value.toNat % 16 < 16 := Nat.mod_lt _ (by decide)
  have whole : UInt8.ofNat (16 * (value.toNat / 16) + value.toNat % 16) = value := by
    rw [Nat.div_add_mod, UInt8.ofNat_toNat]
  simp only [escapeByte, List.cons_append, List.nil_append]
  rw [decodeBytes]
  simp only [hexValue?_upperHexDigit (div_lt_sixteen value), hexValue?_upperHexDigit low, whole]

theorem decodeBytes_flatMap_escapeByte (bytes : List UInt8) (rest : List Char) :
    decodeBytes (bytes.flatMap escapeByte ++ rest) = bytes ++ decodeBytes rest := by
  induction bytes with
  | nil => rfl
  | cons value others hypothesis =>
      rw [List.flatMap_cons, List.append_assoc, decodeBytes_escapeByte, hypothesis,
        List.cons_append]

theorem decodeBytes_cons_of_ne {char : Char} (plain : char ≠ '%') (rest : List Char) :
    decodeBytes (char :: rest) = Utf8.encodeChar char ++ decodeBytes rest := by
  rw [decodeBytes]
  intro high low others percent
  exact absurd percent plain

/-- Escapes are spelt with percent signs and unreserved characters. -/
theorem mem_escapeByte {char : Char} {value : UInt8} (member : char ∈ escapeByte value) :
    isUnreserved char = true ∨ char = '%' := by
  have low : value.toNat % 16 < 16 := Nat.mod_lt _ (by decide)
  simp only [escapeByte, List.mem_cons, List.not_mem_nil, or_false] at member
  rcases member with rfl | rfl | rfl
  · exact .inr rfl
  · exact .inl (isUnreserved_upperHexDigit (div_lt_sixteen value))
  · exact .inl (isUnreserved_upperHexDigit low)

/-- A text without percent signs has no escapes. -/
theorem decodeBytes_of_not_mem {chars : List Char} (plain : '%' ∉ chars) :
    decodeBytes chars = Utf8.encodeChars chars := by
  induction chars with
  | nil => rfl
  | cons char rest hypothesis =>
      rw [List.mem_cons, not_or] at plain
      rw [decodeBytes_cons_of_ne (Ne.symm plain.1), hypothesis plain.2]
      rfl

/-- No escape goes on behind a character that is no hexadecimal digit. -/
theorem decodeBytes_append {next : Char} (foreign : hexValue? next = none)
    (chars rest : List Char) :
    decodeBytes (chars ++ next :: rest) = decodeBytes chars ++ decodeBytes (next :: rest) := by
  induction chars using decodeBytes.induct with
  | case1 => rfl
  | case2 high low others first second firstDigit secondDigit hypothesis =>
      simp only [List.cons_append, decodeBytes, firstDigit, secondDigit, hypothesis]
  | case3 high low others unread hypothesis =>
      simp only [List.cons_append, decodeBytes]
      rw [List.append_assoc, ← hypothesis]
      rfl
  | case4 char others plain hypothesis =>
      have literal : decodeBytes (char :: (others ++ next :: rest)) =
          Utf8.encodeChar char ++ decodeBytes (others ++ next :: rest) := by
        by_cases percent : char = '%'
        · subst percent
          match others with
          | [] => cases rest <;> simp [decodeBytes, foreign]
          | [other] => simp [decodeBytes, foreign]
          | high :: low :: later => exact (plain high low later rfl rfl).elim
        · exact decodeBytes_cons_of_ne percent _
      have alone : decodeBytes (char :: others) = Utf8.encodeChar char ++ decodeBytes others := by
        rw [decodeBytes]
        exact plain
      rw [List.cons_append, literal, hypothesis, alone, List.append_assoc]

/-! ## Encoded paths -/

theorem decodeBytes_encodeChars {keeps : Char → Bool} (escapes : keeps '%' = false)
    (chars : List Char) : decodeBytes (encodeChars keeps chars) = Utf8.encodeChars chars := by
  induction chars with
  | nil => rfl
  | cons char rest hypothesis =>
      rw [encodeChars] at hypothesis
      rw [encodeChars, List.flatMap_cons, encodeChar, Utf8.encodeChars, List.flatMap_cons,
        ← Utf8.encodeChars, ← hypothesis]
      split
      · next kept =>
          have plain : char ≠ '%' := by
            rintro rfl
            rw [escapes] at kept
            cases kept
          exact decodeBytes_cons_of_ne plain _
      · exact decodeBytes_flatMap_escapeByte _ _

/-- Decoding undoes the encoding of a path. -/
theorem decode_encodePath (text : String) : decode (encodePath text) = text := by
  rw [decode, encodePath, String.toList_ofList, decodeBytes_encodeChars (by decide),
    Utf8.decodeLenient_encodeChars, String.ofList_toList]

theorem encodePath_injective : encodePath.Injective :=
  Function.LeftInverse.injective decode_encodePath

/-- An encoded path is spelt with percent signs, unreserved characters and the slashes and halves of
the path. -/
theorem mem_encodePath {text : String} {char : Char} (member : char ∈ (encodePath text).toList) :
    isUnreserved char = true ∨ char = '%' ∨ (char = '/' ∨ isHalf char = true) ∧
      char ∈ text.toList := by
  rw [encodePath, String.toList_ofList, encodeChars, List.mem_flatMap] at member
  rcases member with ⟨original, originalMem, written⟩
  unfold encodeChar at written
  split at written
  · next kept =>
      rw [List.mem_singleton] at written
      subst written
      rw [staysInPath, Bool.or_eq_true, Bool.or_eq_true, beq_iff_eq] at kept
      rcases kept with (plain | slash) | half
      · exact .inl plain
      · exact .inr (.inr ⟨.inl slash, originalMem⟩)
      · exact .inr (.inr ⟨.inr half, originalMem⟩)
  · rcases List.mem_flatMap.mp written with ⟨value, _, escape⟩
    rcases mem_escapeByte escape with plain | percent
    · exact .inl plain
    · exact .inr (.inl percent)

/-! ## Lengths -/

theorem length_scanFrom_decodeBytes (chars : List Char) {pending : Option Utf8.Pending}
    (bounded : Utf8.IsBounded pending) :
    (Utf8.scanFrom pending (decodeBytes chars)).length ≤ chars.length + Utf8.owed pending := by
  induction chars using decodeBytes.induct generalizing pending with
  | case1 =>
      rw [decodeBytes, Utf8.scanFrom, Utf8.owed]
      split <;> simp
  | case2 high low rest first second firstDigit secondDigit hypothesis =>
      have onward :=
        hypothesis (Utf8.isBounded_step pending (UInt8.ofNat (16 * first + second)).toNat)
      have paid := Utf8.length_step pending (UInt8.ofNat (16 * first + second)).toNat
      rw [decodeBytes]
      simp only [firstDigit, secondDigit, Utf8.scanFrom_cons, List.length_append, List.length_cons]
      omega
  | case3 high low rest unread hypothesis =>
      have onward := hypothesis Utf8.isBounded_none
      rw [decodeBytes]
      split
      · next first second firstDigit secondDigit => exact absurd secondDigit (unread _ _ firstDigit)
      · rw [Utf8.length_scanFrom_encodeChar bounded, List.length_cons]
        rw [Utf8.owed_none] at onward
        omega
  | case4 char rest plain hypothesis =>
      have onward := hypothesis Utf8.isBounded_none
      rw [Utf8.owed_none] at onward
      rw [decodeBytes, Utf8.length_scanFrom_encodeChar bounded, List.length_cons]
      · omega
      · exact plain

/-- Undoing escapes does not make a text longer. -/
theorem length_decode_le (text : String) : (decode text).length ≤ text.length := by
  have bound := length_scanFrom_decodeBytes text.toList Utf8.isBounded_none
  rw [decode, Utf8.decodeLenient, String.length_ofList, List.length_map, ← String.length_toList]
  exact bound

end ImageCatalog.Text.Percent
