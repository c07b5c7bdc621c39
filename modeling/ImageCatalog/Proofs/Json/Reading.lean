import ImageCatalog.Json.Reader
import ImageCatalog.Proofs.Results
import ImageCatalog.Proofs.Value.Document

/-!
# What JSON texts say

The reader builds values of seven kinds only, never keeps two fields of one name in an object, and
takes no whole number beyond the limit. A property that holds of everything built in this way
therefore holds of every value that is read; `holds_of_read` is this induction over the reader, and
`withinLimit_of_read` and `isDocument_of_read` are its two uses.
-/

namespace ImageCatalog.Json

open Number Results Text Value

/-- A property that holds of all scalars within the limit, and of a list or an object if it holds of
the parts. -/
structure IsBuiltUp (holds : Value → Prop) : Prop where
  null : holds .null
  bool : ∀ flag, holds (.bool flag)
  int : ∀ number : Int, number.natAbs < Nat.pow 10 digitLimit → holds (.int number)
  float : ∀ number, holds (.float number)
  text : ∀ chars, holds (.text chars)
  list : ∀ items, (∀ item ∈ items, holds item) → holds (.list items)
  object : ∀ fields, (Entries.keys fields).Nodup → (∀ field ∈ fields, holds field.2) →
    holds (.object fields)

/-! ## Whole numbers -/

theorem ofDigitChars_lt {digits : List Char} (decimal : ∀ digit ∈ digits, digit.isDigit = true)
    (start : Nat) :
    Nat.ofDigitChars 10 digits start < (start + 1) * Nat.pow 10 digits.length := by
  induction digits generalizing start with
  | nil => simp
  | cons digit rest hypothesis =>
      rw [List.forall_mem_cons] at decimal
      have value : digit.toNat - '0'.toNat ≤ 9 := by
        have range := decimal.1
        simp only [Char.isDigit, Bool.and_eq_true, decide_eq_true_eq, UInt32.le_iff_toNat_le]
          at range
        have upper : digit.toNat ≤ 57 := range.2
        have zero : '0'.toNat = 48 := rfl
        omega
      rw [Nat.ofDigitChars_cons]
      calc Nat.ofDigitChars 10 rest (10 * start + (digit.toNat - '0'.toNat))
          < (10 * start + (digit.toNat - '0'.toNat) + 1) * Nat.pow 10 rest.length :=
            hypothesis decimal.2 _
        _ ≤ (start + 1) * 10 * Nat.pow 10 rest.length := Nat.mul_le_mul_right _ (by omega)
        _ = (start + 1) * Nat.pow 10 (digit :: rest).length := by
            rw [List.length_cons, Nat.pow_eq, Nat.pow_eq, Nat.pow_succ', Nat.mul_assoc]

theorem digitsToNat_lt {digits : List Char} (decimal : ∀ digit ∈ digits, digit.isDigit = true)
    {limit : Nat} (within : digits.length ≤ limit) : digitsToNat digits < Nat.pow 10 limit := by
  calc digitsToNat digits < (0 + 1) * Nat.pow 10 digits.length := ofDigitChars_lt decimal 0
    _ = Nat.pow 10 digits.length := by rw [Nat.zero_add, Nat.one_mul]
    _ ≤ Nat.pow 10 limit := Nat.pow_le_pow_right (by decide) within

/-- A row of digits that is read denotes a number within the limit. -/
theorem lt_of_readDigits {digits : List Char} (decimal : ∀ digit ∈ digits, digit.isDigit = true)
    {value : Nat} (read : readDigits digits = .ok value) : value < Nat.pow 10 digitLimit := by
  unfold readDigits at read
  split at read
  · cases read
  · next within =>
      cases read
      exact digitsToNat_lt decimal (Nat.not_lt.mp within)

theorem isDigit_of_mem_splitWhole {chars : List Char} {digit : Char}
    (member : digit ∈ (splitWhole chars).1) : digit.isDigit = true := by
  unfold splitWhole at member
  split at member
  · rw [List.mem_singleton] at member
    rw [member]
    rfl
  · exact List.all_eq_true.mp List.all_takeWhile digit member

variable {holds : Value → Prop}

theorem holds_of_readNumber (built : IsBuiltUp holds) {negative : Bool} {chars rest : List Char}
    {value : Value} (read : readNumber negative chars = .ok (value, rest)) : holds value := by
  unfold readNumber at read
  simp only at read
  split at read
  · cases read
  · split at read
    · cases digits : readDigits (splitWhole chars).1 with
      | error overflow => simp [digits] at read
      | ok magnitude =>
          have short := lt_of_readDigits (fun _ => isDigit_of_mem_splitWhole) digits
          simp only [digits, Except.ok.injEq, Prod.mk.injEq] at read
          rw [← read.1]
          apply built.int
          cases negative <;> simpa using short
    · simp only [Except.ok.injEq, Prod.mk.injEq] at read
      rw [← read.1]
      exact built.float _

/-! ## The reader -/

theorem eq_of_readWord {word chars rest : List Char} {meaning value : Value}
    (read : readWord word meaning chars = .ok (value, rest)) : value = meaning := by
  unfold readWord at read
  split at read
  · cases read
    rfl
  · cases read

theorem holds_of_readScalar (built : IsBuiltUp holds) {chars rest : List Char} {value : Value}
    (read : readScalar chars = .ok (value, rest)) : holds value := by
  unfold readScalar at read
  split at read
  · exact eq_of_readWord read ▸ built.null
  · exact eq_of_readWord read ▸ built.bool true
  · exact eq_of_readWord read ▸ built.bool false
  · exact eq_of_readWord read ▸ built.float _
  · exact eq_of_readWord read ▸ built.float _
  · exact eq_of_readWord read ▸ built.float _
  · exact holds_of_readNumber built read
  · exact holds_of_readNumber built read

theorem holds_of_readItems (budget : Nat)
    (values : ∀ {chars rest : List Char} {value : Value},
      readValue budget chars = .ok (value, rest) → holds value)
    (later : ∀ {chars rest : List Char} {items : List Value},
      readItems budget chars = .ok (items, rest) → ∀ item ∈ items, holds item)
    {chars rest : List Char} {items : List Value}
    (read : readItems (budget + 1) chars = .ok (items, rest)) : ∀ item ∈ items, holds item := by
  rw [readItems] at read
  rcases bind_ok read with ⟨⟨item, afterItem⟩, first, onward⟩
  simp only at onward
  split at onward
  · rcases bind_ok onward with ⟨⟨others, left⟩, further, made⟩
    cases made
    exact List.forall_mem_cons.mpr ⟨values first, later further⟩
  · cases onward
    exact List.forall_mem_singleton.mpr (values first)
  · cases onward

theorem holds_of_readFields (budget : Nat)
    (values : ∀ {chars rest : List Char} {value : Value},
      readValue budget chars = .ok (value, rest) → holds value)
    (later : ∀ {chars rest : List Char} {fields : List (String × Value)},
      readFields budget chars = .ok (fields, rest) → ∀ field ∈ fields, holds field.2)
    {chars rest : List Char} {fields : List (String × Value)}
    (read : readFields (budget + 1) chars = .ok (fields, rest)) :
    ∀ field ∈ fields, holds field.2 := by
  unfold readFields at read
  split at read
  · rcases bind_ok read with ⟨⟨name, afterName⟩, _, named⟩
    simp only at named
    split at named
    · rcases bind_ok named with ⟨⟨content, afterContent⟩, first, onward⟩
      simp only at onward
      split at onward
      · rcases bind_ok onward with ⟨⟨others, left⟩, further, made⟩
        cases made
        exact List.forall_mem_cons.mpr ⟨values first, later further⟩
      · cases onward
        exact List.forall_mem_singleton.mpr (values first)
      · cases onward
    · cases named
  · cases read

theorem holds_of_readValue_succ (built : IsBuiltUp holds) (budget : Nat)
    (lists : ∀ {chars rest : List Char} {items : List Value},
      readItems budget chars = .ok (items, rest) → ∀ item ∈ items, holds item)
    (objects : ∀ {chars rest : List Char} {fields : List (String × Value)},
      readFields budget chars = .ok (fields, rest) → ∀ field ∈ fields, holds field.2)
    {chars rest : List Char} {value : Value}
    (read : readValue (budget + 1) chars = .ok (value, rest)) : holds value := by
  unfold readValue at read
  split at read
  · rcases map_ok read with ⟨⟨found, left⟩, _, made⟩
    cases made
    exact built.text found
  · split at read
    · cases read
      exact built.list [] (by simp)
    · rcases map_ok read with ⟨⟨items, left⟩, found, made⟩
      cases made
      exact built.list items (lists found)
  · split at read
    · cases read
      exact built.object [] List.nodup_nil (by simp)
    · rcases map_ok read with ⟨⟨fields, left⟩, found, made⟩
      cases made
      exact built.object _ (Entries.nodup_keys_ofList fields) fun field member =>
        objects found field (Entries.mem_of_mem_ofList member)
  · exact holds_of_readScalar built read

/-- The induction over the budget of the reader. -/
theorem holds_of_budget (built : IsBuiltUp holds) (budget : Nat) :
    (∀ {chars rest : List Char} {value : Value},
      readValue budget chars = .ok (value, rest) → holds value) ∧
    (∀ {chars rest : List Char} {items : List Value},
      readItems budget chars = .ok (items, rest) → ∀ item ∈ items, holds item) ∧
    (∀ {chars rest : List Char} {fields : List (String × Value)},
      readFields budget chars = .ok (fields, rest) → ∀ field ∈ fields, holds field.2) := by
  induction budget with
  | zero =>
      refine ⟨fun read => ?_, fun read => ?_, fun read => ?_⟩
      · cases read
      · cases read
      · cases read
  | succ budget hypothesis =>
      rcases hypothesis with ⟨values, lists, objects⟩
      exact ⟨holds_of_readValue_succ built budget lists objects,
        holds_of_readItems budget values lists,
        holds_of_readFields budget values objects⟩

theorem holds_of_read (built : IsBuiltUp holds) {text : String} {value : Value}
    (reads : read text = .ok value) : holds value := by
  rcases bind_ok reads with ⟨⟨found, rest⟩, values, ends⟩
  simp only at ends
  split at ends
  · cases ends
    exact (holds_of_budget built _).1 values
  · cases ends

/-- Whole numbers in JSON texts are within the limit. -/
theorem withinLimit_of_read {text : String} {value : Value} (reads : read text = .ok value) :
    value.WithinLimit :=
  holds_of_read
    ⟨.null, .bool, .int, .float, .text, .list, fun fields _ each => .object fields each⟩ reads

theorem isDocument_of_read {text : String} {value : Value} (reads : read text = .ok value) :
    value.IsDocument :=
  holds_of_read
    ⟨.null, .bool, fun number _ => .int number, .float, .text, .list, .object⟩ reads

end ImageCatalog.Json
