import ImageCatalog.Text.Utf8

/-!
# Reading UTF-8 back

The bytes of a character take the machine from its idle state through one pending state per missing
byte and back to the idle state, where it yields the character. `scanFrom_encodeChar` is this one
round; that reading undoes writing, strictly and leniently, follows by going through the characters.
In the other direction, `exists_encodeChar` finds the one character in front of what is read without
a fault, so that strict reading takes exactly the bytes that some characters are written with.
-/

namespace ImageCatalog.Text.Utf8

theorem toNat_byte {value : Nat} (small : value < 256) : (byte value).toNat = value :=
  UInt8.toNat_ofNat_of_lt' small

theorem scanFrom_cons (pending : Option Pending) (head : UInt8) (rest : List UInt8) :
    scanFrom pending (head :: rest) =
      (step pending head.toNat).1 ++ scanFrom (step pending head.toNat).2 rest :=
  rfl

/-! ## Single bytes -/

theorem step_lead {value : Nat} {pending : Pending} (lead : lead? value = some pending) :
    step none value = ([], some pending) := by
  have large : ¬value < 0x80 := by
    intro small
    have below : value < 0xC2 := by omega
    simp [lead?, below] at lead
  simp [step, start, large, lead]

theorem step_more {missing low high bits value : Nat} (lower : low ≤ value) (upper : value ≤ high) :
    step (some ⟨missing + 2, low, high, bits⟩) value =
      ([], some ⟨missing + 1, 0x80, 0xBF, 64 * bits + (value - 0x80)⟩) := by
  simp [step, lower, upper]

theorem step_last {low high bits value : Nat} (lower : low ≤ value) (upper : value ≤ high) :
    step (some ⟨1, low, high, bits⟩) value =
      ([some (Char.ofNat (64 * bits + (value - 0x80)))], none) := by
  simp [step, lower, upper]

/-- The first byte of a character of two bytes. -/
theorem lead_two {code : Nat} (lower : 0x80 ≤ code) (upper : code < 0x800) :
    lead? (0xC0 + code / 64) = some ⟨1, 0x80, 0xBF, code / 64⟩ := by
  have notSmall : ¬0xC0 + code / 64 < 0xC2 := by omega
  have small : 0xC0 + code / 64 ≤ 0xDF := by omega
  simp [lead?, notSmall, small]

/-- The first byte of a character of three bytes, which leaves out the surrogates. -/
theorem lead_three {code : Nat} (lower : 0x800 ≤ code) (upper : code < 0x10000)
    (valid : code < 0xD800 ∨ 0xDFFF < code) :
    ∃ low high, lead? (0xE0 + code / 4096) = some ⟨2, low, high, code / 4096⟩ ∧
      low ≤ 0x80 + code / 64 % 64 ∧ 0x80 + code / 64 % 64 ≤ high := by
  have large : ¬0xE0 + code / 4096 < 0xC2 := by omega
  have beyond : ¬0xE0 + code / 4096 ≤ 0xDF := by omega
  by_cases first : code / 4096 = 0
  · refine ⟨0xA0, 0xBF, ?_, by omega, by omega⟩
    simp [lead?, first]
  · by_cases surrogate : code / 4096 = 13
    · refine ⟨0x80, 0x9F, ?_, by omega, by omega⟩
      simp [lead?, surrogate]
    · have within : 0xE0 + code / 4096 ≤ 0xEF := by omega
      have notFirst : ¬0xE0 + code / 4096 = 0xE0 := by omega
      have notSurrogate : ¬0xE0 + code / 4096 = 0xED := by omega
      refine ⟨0x80, 0xBF, ?_, by omega, by omega⟩
      simp only [lead?, large, beyond, notFirst, notSurrogate, within, if_false, if_true]
      simp

/-- The first byte of a character of four bytes. -/
theorem lead_four {code : Nat} (lower : 0x10000 ≤ code) (upper : code < 0x110000) :
    ∃ low high, lead? (0xF0 + code / 262144) = some ⟨3, low, high, code / 262144⟩ ∧
      low ≤ 0x80 + code / 4096 % 64 ∧ 0x80 + code / 4096 % 64 ≤ high := by
  have cases : code / 262144 = 0 ∨ code / 262144 = 1 ∨ code / 262144 = 2 ∨ code / 262144 = 3 ∨
      code / 262144 = 4 := by omega
  rcases cases with lead | lead | lead | lead | lead
  · exact ⟨0x90, 0xBF, by simp [lead?, lead], by omega, by omega⟩
  · exact ⟨0x80, 0xBF, by simp [lead?, lead], by omega, by omega⟩
  · exact ⟨0x80, 0xBF, by simp [lead?, lead], by omega, by omega⟩
  · exact ⟨0x80, 0xBF, by simp [lead?, lead], by omega, by omega⟩
  · exact ⟨0x80, 0x8F, by simp [lead?, lead], by omega, by omega⟩

/-! ## Faults -/

/-- The next byte of what is pending is a continuation byte. -/
def IsBounded (pending : Option Pending) : Prop :=
  ∀ begun ∈ pending, 0x80 ≤ begun.low ∧ begun.high ≤ 0xBF

/-- The number of results that the bytes read so far are still to give. -/
def owed (pending : Option Pending) : Nat :=
  if pending.isSome then 1 else 0

@[simp]
theorem owed_none : owed none = 0 :=
  rfl

@[simp]
theorem owed_some (begun : Pending) : owed (some begun) = 1 :=
  rfl

theorem isBounded_none : IsBounded none := by
  intro begun member
  cases member

theorem isBounded_lead {value : Nat} : IsBounded (lead? value) := by
  intro begun member
  unfold lead? at member
  repeat' split at member
  all_goals cases member
  all_goals simp

theorem isBounded_start (value : Nat) : IsBounded (start value).2 := by
  unfold start
  split
  · exact isBounded_none
  · split
    · next pending lead => exact lead ▸ isBounded_lead
    · exact isBounded_none

theorem isBounded_step (pending : Option Pending) (value : Nat) :
    IsBounded (step pending value).2 := by
  unfold step
  split
  · exact isBounded_start value
  · split
    · simp only
      split
      · exact isBounded_none
      · intro begun member
        cases member
        simp
    · exact isBounded_start value

theorem length_start (value : Nat) : (start value).1.length + owed (start value).2 = 1 := by
  unfold start
  split
  · rfl
  · split <;> rfl

/-- Every byte gives at most one result more, now or later. -/
theorem length_step (pending : Option Pending) (value : Nat) :
    (step pending value).1.length + owed (step pending value).2 ≤ 1 + owed pending := by
  have fresh := length_start value
  unfold step
  split
  · exact Nat.le_of_eq fresh
  · split
    · simp only
      split <;> simp
    · simp only [List.length_cons, owed_some]
      omega

/-! ## Characters -/

theorem toNat_valid (char : Char) :
    char.toNat < 0xD800 ∨ 0xDFFF < char.toNat ∧ char.toNat < 0x110000 :=
  char.valid

/-- The bytes of a character are read as that character. -/
theorem scanFrom_encodeChar (char : Char) (rest : List UInt8) :
    scanFrom none (encodeChar char ++ rest) = some char :: scanFrom none rest := by
  have valid := toNat_valid char
  have back {total : Nat} (same : total = char.toNat) : Char.ofNat total = char := by
    rw [same, Char.ofNat_toNat]
  unfold encodeChar
  simp only
  split
  · next one =>
      have small : char.toNat < 256 := by omega
      simp only [List.cons_append, List.nil_append, scanFrom_cons, toNat_byte small]
      simp [step, start, one, Char.ofNat_toNat]
  · split
    · next one two =>
        have lead := lead_two (Nat.le_of_not_lt one) two
        simp only [List.cons_append, List.nil_append, scanFrom_cons]
        rw [toNat_byte (by omega), toNat_byte (by omega), step_lead lead,
          step_last (by omega) (by omega), back (by omega)]
        rfl
    · split
      · next one two three =>
          rcases lead_three (Nat.le_of_not_lt two) three (valid.imp_right And.left) with
            ⟨low, high, lead, lower, upper⟩
          simp only [List.cons_append, List.nil_append, scanFrom_cons]
          rw [toNat_byte (by omega), toNat_byte (by omega), toNat_byte (by omega), step_lead lead,
            step_more lower upper, step_last (by omega) (by omega), back (by omega)]
          rfl
      · next one two three =>
          have bound : char.toNat < 0x110000 := by omega
          rcases lead_four (Nat.le_of_not_lt three) bound with ⟨low, high, lead, lower, upper⟩
          simp only [List.cons_append, List.nil_append, scanFrom_cons]
          rw [toNat_byte (by omega), toNat_byte (by omega), toNat_byte (by omega),
            toNat_byte (by omega), step_lead lead, step_more lower upper,
            step_more (by omega) (by omega), step_last (by omega) (by omega), back (by omega)]
          rfl

/-- No character starts with a continuation byte. -/
theorem encodeChar_eq_cons (char : Char) :
    ∃ first rest, encodeChar char = first :: rest ∧ (first.toNat < 0x80 ∨ 0xBF < first.toNat) := by
  have valid := toNat_valid char
  unfold encodeChar
  simp only
  split
  · exact ⟨_, _, rfl, .inl (by rw [toNat_byte] <;> omega)⟩
  · split
    · exact ⟨_, _, rfl, .inr (by rw [toNat_byte] <;> omega)⟩
    · split
      · exact ⟨_, _, rfl, .inr (by rw [toNat_byte] <;> omega)⟩
      · exact ⟨_, _, rfl, .inr (by rw [toNat_byte] <;> omega)⟩

/-- A character in the middle of another one makes a fault of that one. -/
theorem scanFrom_encodeChar_of_pending {begun : Pending} (bounded : IsBounded (some begun))
    (char : Char) (rest : List UInt8) :
    scanFrom (some begun) (encodeChar char ++ rest) = none :: some char :: scanFrom none rest := by
  rcases encodeChar_eq_cons char with ⟨first, others, bytes, outside⟩
  rcases bounded begun rfl with ⟨low, high⟩
  have misfit : ¬(begun.low ≤ first.toNat ∧ first.toNat ≤ begun.high) := by omega
  have fault : step (some begun) first.toNat =
      (none :: (step none first.toNat).1, (step none first.toNat).2) := by
    obtain ⟨missing, low, high, bits⟩ := begun
    exact if_neg misfit
  have fresh := scanFrom_encodeChar char rest
  rw [bytes, List.cons_append, scanFrom_cons] at fresh ⊢
  rw [fault, List.cons_append, fresh]

/-- Every character gives one result more. -/
theorem length_scanFrom_encodeChar {pending : Option Pending} (bounded : IsBounded pending)
    (char : Char) (rest : List UInt8) :
    (scanFrom pending (encodeChar char ++ rest)).length =
      owed pending + 1 + (scanFrom none rest).length := by
  cases pending with
  | none =>
      rw [scanFrom_encodeChar, List.length_cons, owed_none]
      omega
  | some begun =>
      rw [scanFrom_encodeChar_of_pending bounded, List.length_cons, List.length_cons, owed_some]
      omega

theorem scanFrom_encodeChars (chars : List Char) :
    scanFrom none (encodeChars chars) = chars.map some := by
  induction chars with
  | nil => rfl
  | cons char rest hypothesis =>
      rw [encodeChars, List.flatMap_cons, scanFrom_encodeChar]
      exact congrArg (some char :: ·) hypothesis

/-- Characters are read whatever bytes stand before them. -/
theorem scanFrom_append_encodeChars {pending : Option Pending} (bounded : IsBounded pending)
    (bytes : List UInt8) (chars : List Char) :
    ∃ front, scanFrom pending (bytes ++ encodeChars chars) = front ++ chars.map some := by
  induction bytes generalizing pending with
  | nil =>
      cases pending with
      | none => exact ⟨[], scanFrom_encodeChars chars⟩
      | some begun =>
          cases chars with
          | nil => exact ⟨[none], rfl⟩
          | cons char rest =>
              refine ⟨[none], ?_⟩
              rw [List.nil_append, encodeChars, List.flatMap_cons,
                scanFrom_encodeChar_of_pending bounded]
              exact congrArg (none :: some char :: ·) (scanFrom_encodeChars rest)
  | cons head rest hypothesis =>
      rcases hypothesis (isBounded_step pending head.toNat) with ⟨front, reads⟩
      refine ⟨(step pending head.toNat).1 ++ front, ?_⟩
      rw [List.cons_append, scanFrom_cons, reads, List.append_assoc]

/-- Lenient reading keeps the characters at the end of any bytes. -/
theorem decodeLenient_append_encodeChars (bytes : List UInt8) (chars : List Char) :
    ∃ front, (decodeLenient (bytes ++ encodeChars chars)).toList = front ++ chars := by
  rcases scanFrom_append_encodeChars isBounded_none bytes chars with ⟨front, reads⟩
  refine ⟨front.map fun found => found.getD (Char.ofNat 0xFFFD), ?_⟩
  rw [decodeLenient, reads, String.toList_ofList, List.map_append, List.map_map]
  exact congrArg (_ ++ ·) (List.map_id chars)

theorem length_le_encodeChars (chars : List Char) : chars.length ≤ (encodeChars chars).length := by
  induction chars with
  | nil => exact Nat.le_refl _
  | cons char rest hypothesis =>
      rcases encodeChar_eq_cons char with ⟨first, others, bytes, _⟩
      rw [encodeChars, List.flatMap_cons, List.length_append, bytes, List.length_cons,
        List.length_cons]
      rw [encodeChars] at hypothesis
      omega

/-- Strict reading undoes writing. -/
theorem decodeChars?_encodeChars (chars : List Char) :
    decodeChars? (encodeChars chars) = some chars := by
  rw [decodeChars?, scanFrom_encodeChars]
  induction chars with
  | nil => rfl
  | cons char rest hypothesis => simp_all

theorem decode?_encode (text : String) : decode? (encode text) = some text := by
  rw [decode?, encode, decodeChars?_encodeChars, Option.map_some, String.ofList_toList]

/-- Lenient reading undoes writing. -/
theorem decodeLenient_encodeChars (chars : List Char) :
    decodeLenient (encodeChars chars) = String.ofList chars := by
  rw [decodeLenient, scanFrom_encodeChars, List.map_map]
  exact congrArg String.ofList (List.map_id chars)

/-! ## Writing undoes strict reading -/

theorem byte_eq (head : UInt8) {value : Nat} (same : value = head.toNat) : byte value = head := by
  rw [same, byte, UInt8.ofNat_toNat]

theorem toNat_ofNat {code : Nat} (valid : code < 0xD800 ∨ 0xDFFF < code ∧ code < 0x110000) :
    (Char.ofNat code).toNat = code := by
  have isValid : code.isValidChar := valid
  rw [Char.ofNat, dif_pos isValid]
  rfl

section

variable {first second third fourth : UInt8}

theorem encodeChar_two (lead : 0xC2 ≤ first.toNat ∧ first.toNat ≤ 0xDF)
    (last : 0x80 ≤ second.toNat ∧ second.toNat ≤ 0xBF) :
    encodeChar (Char.ofNat (64 * (first.toNat - 0xC0) + (second.toNat - 0x80))) =
      [first, second] := by
  simp only [encodeChar]
  rw [toNat_ofNat (by omega), if_neg (by omega), if_pos (by omega), byte_eq first (by omega),
    byte_eq second (by omega)]

theorem encodeChar_three (lead : 0xE0 ≤ first.toNat ∧ first.toNat ≤ 0xEF)
    (next : 0x80 ≤ second.toNat ∧ second.toNat ≤ 0xBF)
    (last : 0x80 ≤ third.toNat ∧ third.toNat ≤ 0xBF)
    (long : first.toNat = 0xE0 → 0xA0 ≤ second.toNat)
    (valid : first.toNat = 0xED → second.toNat ≤ 0x9F) :
    encodeChar (Char.ofNat (64 * (64 * (first.toNat - 0xE0) + (second.toNat - 0x80)) +
      (third.toNat - 0x80))) = [first, second, third] := by
  simp only [encodeChar]
  rw [toNat_ofNat (by omega), if_neg (by omega), if_neg (by omega), if_pos (by omega),
    byte_eq first (by omega), byte_eq second (by omega), byte_eq third (by omega)]

theorem encodeChar_four (lead : 0xF0 ≤ first.toNat ∧ first.toNat ≤ 0xF4)
    (next : 0x80 ≤ second.toNat ∧ second.toNat ≤ 0xBF)
    (further : 0x80 ≤ third.toNat ∧ third.toNat ≤ 0xBF)
    (last : 0x80 ≤ fourth.toNat ∧ fourth.toNat ≤ 0xBF)
    (long : first.toNat = 0xF0 → 0x90 ≤ second.toNat)
    (valid : first.toNat = 0xF4 → second.toNat ≤ 0x8F) :
    encodeChar (Char.ofNat (64 * (64 * (64 * (first.toNat - 0xF0) + (second.toNat - 0x80)) +
      (third.toNat - 0x80)) + (fourth.toNat - 0x80))) = [first, second, third, fourth] := by
  simp only [encodeChar]
  rw [toNat_ofNat (by omega), if_neg (by omega), if_neg (by omega), if_neg (by omega),
    byte_eq first (by omega), byte_eq second (by omega), byte_eq third (by omega),
    byte_eq fourth (by omega)]

end

section

variable {bytes : List UInt8} {chars : List Char} {low high bits : Nat}

/-- The next byte of a character that is read without a fault fits. -/
theorem exists_next {begun : Pending} (reads : scanFrom (some begun) bytes = chars.map some) :
    ∃ head rest, bytes = head :: rest ∧ begun.low ≤ head.toNat ∧ head.toNat ≤ begun.high := by
  rcases begun with ⟨missing, low, high, bits⟩
  cases bytes with
  | nil => cases chars <;> simp [scanFrom] at reads
  | cons head rest =>
      by_cases fits : low ≤ head.toNat ∧ head.toNat ≤ high
      · exact ⟨head, rest, rfl, fits⟩
      · rw [scanFrom_cons, step, if_neg fits] at reads
        cases chars <;> simp at reads

theorem exists_last (reads : scanFrom (some ⟨1, low, high, bits⟩) bytes = chars.map some) :
    ∃ head rest others, bytes = head :: rest ∧ (low ≤ head.toNat ∧ head.toNat ≤ high) ∧
      chars = Char.ofNat (64 * bits + (head.toNat - 0x80)) :: others ∧
      scanFrom none rest = others.map some := by
  rcases exists_next reads with ⟨head, rest, rfl, lower, upper⟩
  rw [scanFrom_cons, step_last lower upper] at reads
  cases chars with
  | nil => cases reads
  | cons char others =>
      rw [List.map_cons, List.singleton_append, List.cons.injEq, Option.some.injEq] at reads
      exact ⟨head, rest, others, rfl, ⟨lower, upper⟩, by rw [reads.1], reads.2⟩

theorem exists_more {missing : Nat}
    (reads : scanFrom (some ⟨missing + 2, low, high, bits⟩) bytes = chars.map some) :
    ∃ head rest, bytes = head :: rest ∧ (low ≤ head.toNat ∧ head.toNat ≤ high) ∧
      scanFrom (some ⟨missing + 1, 0x80, 0xBF, 64 * bits + (head.toNat - 0x80)⟩) rest =
        chars.map some := by
  rcases exists_next reads with ⟨head, rest, rfl, lower, upper⟩
  rw [scanFrom_cons, step_more lower upper] at reads
  exact ⟨head, rest, rfl, ⟨lower, upper⟩, reads⟩

end

/-- What a lead byte announces is one, two or three bytes; the bounds of the first of them rule out
what could be written with fewer bytes, and surrogates. -/
theorem lead?_cases {value : Nat} {begun : Pending} (lead : lead? value = some begun) :
    (begun = ⟨1, 0x80, 0xBF, value - 0xC0⟩ ∧ 0xC2 ≤ value ∧ value ≤ 0xDF) ∨
    (∃ low high, begun = ⟨2, low, high, value - 0xE0⟩ ∧ (0xE0 ≤ value ∧ value ≤ 0xEF) ∧
      0x80 ≤ low ∧ high ≤ 0xBF ∧ (value = 0xE0 → 0xA0 ≤ low) ∧ (value = 0xED → high ≤ 0x9F)) ∨
    ∃ low high, begun = ⟨3, low, high, value - 0xF0⟩ ∧ (0xF0 ≤ value ∧ value ≤ 0xF4) ∧
      0x80 ≤ low ∧ high ≤ 0xBF ∧ (value = 0xF0 → 0x90 ≤ low) ∧ (value = 0xF4 → high ≤ 0x8F) := by
  unfold lead? at lead
  repeat' split at lead
  all_goals cases lead
  · exact .inl ⟨rfl, by omega⟩
  · next same => exact .inr (.inl ⟨_, _, by rw [same], by omega⟩)
  · next same => exact .inr (.inl ⟨_, _, by rw [same], by omega⟩)
  · exact .inr (.inl ⟨_, _, rfl, by omega⟩)
  · next same => exact .inr (.inr ⟨_, _, by rw [same], by omega⟩)
  · exact .inr (.inr ⟨_, _, rfl, by omega⟩)
  · next same => exact .inr (.inr ⟨_, _, by rw [same], by omega⟩)

/-- The bytes of a character that is read without a fault are those that it is written with. -/
theorem exists_encodeChar {head : UInt8} {rest : List UInt8} {chars : List Char}
    (reads : scanFrom none (head :: rest) = chars.map some) :
    ∃ char others behind, chars = char :: others ∧ head :: rest = encodeChar char ++ behind ∧
      scanFrom none behind = others.map some := by
  rw [scanFrom_cons] at reads
  change (start head.toNat).1 ++ scanFrom (start head.toNat).2 rest = _ at reads
  unfold start at reads
  split at reads
  · next small =>
      cases chars with
      | nil => cases reads
      | cons char others =>
          rw [List.map_cons, List.singleton_append, List.cons.injEq, Option.some.injEq] at reads
          have code := @toNat_ofNat head.toNat (by omega)
          refine ⟨char, others, rest, rfl, ?_, reads.2⟩
          rw [← reads.1, encodeChar]
          simp only [code]
          rw [if_pos small, byte_eq head rfl, List.singleton_append]
  · cases lead : lead? head.toNat with
    | none =>
        rw [lead] at reads
        cases chars <;> simp at reads
    | some begun =>
        rw [lead] at reads
        simp only [List.nil_append] at reads
        rcases lead?_cases lead with ⟨rfl, lower, upper⟩ | ⟨low, high, rfl, range, bounds⟩ |
          ⟨low, high, rfl, range, bounds⟩
        · rcases exists_last reads with ⟨second, behind, others, rfl, last, rfl, further⟩
          exact ⟨_, others, behind, rfl, by rw [encodeChar_two ⟨lower, upper⟩ last]; rfl, further⟩
        · rcases exists_more reads with ⟨second, later, rfl, next, more⟩
          rcases exists_last more with ⟨third, behind, others, rfl, last, rfl, further⟩
          refine ⟨_, others, behind, rfl, ?_, further⟩
          rw [encodeChar_three range (by omega) last (by omega) (by omega)]
          rfl
        · rcases exists_more reads with ⟨second, later, rfl, next, more⟩
          rcases exists_more more with ⟨third, final, rfl, between, most⟩
          rcases exists_last most with ⟨fourth, behind, others, rfl, last, rfl, further⟩
          refine ⟨_, others, behind, rfl, ?_, further⟩
          rw [encodeChar_four range (by omega) between last (by omega) (by omega)]
          rfl

theorem encodeChars_of_scanFrom {bytes : List UInt8} {chars : List Char}
    (reads : scanFrom none bytes = chars.map some) : encodeChars chars = bytes := by
  induction chars generalizing bytes with
  | nil =>
      cases bytes with
      | nil => rfl
      | cons head rest =>
          rcases exists_encodeChar reads with ⟨char, others, behind, same, _⟩
          cases same
  | cons char others hypothesis =>
      cases bytes with
      | nil => cases reads
      | cons head rest =>
          rcases exists_encodeChar reads with ⟨_, _, behind, same, spelt, further⟩
          cases same
          rw [encodeChars, List.flatMap_cons, spelt]
          exact congrArg _ (hypothesis further)

theorem eq_map_of_mapM {found : List (Option Char)} {chars : List Char}
    (all : found.mapM id = some chars) : found = chars.map some := by
  induction found generalizing chars with
  | nil =>
      cases all
      rfl
  | cons first rest hypothesis =>
      rw [List.mapM_cons] at all
      rcases Option.bind_eq_some_iff.mp all with ⟨char, isChar, later⟩
      rcases Option.bind_eq_some_iff.mp later with ⟨others, reads, made⟩
      cases made
      rw [List.map_cons, ← hypothesis reads]
      exact congrArg (· :: rest) isChar

/-- Exactly the bytes that a row of characters is written with are read as it. -/
theorem decodeChars?_eq_some_iff {bytes : List UInt8} {chars : List Char} :
    decodeChars? bytes = some chars ↔ bytes = encodeChars chars := by
  constructor
  · intro reads
    exact (encodeChars_of_scanFrom (eq_map_of_mapM reads)).symm
  · rintro rfl
    exact decodeChars?_encodeChars chars

/-- Exactly the bytes that a text is written with are read as it. -/
theorem decode?_eq_some_iff {bytes : List UInt8} {text : String} :
    decode? bytes = some text ↔ bytes = encode text := by
  constructor
  · intro reads
    rcases Option.map_eq_some_iff.mp reads with ⟨chars, found, rfl⟩
    rw [encode, String.toList_ofList]
    exact decodeChars?_eq_some_iff.mp found
  · rintro rfl
    exact decode?_encode text

end ImageCatalog.Text.Utf8
