import ImageCatalog.Value.Entries
import ImageCatalog.Value.Print

/-!
# Properties of whole values

Two properties reach into values at every depth. `WithinLimit` says that no whole number in a value
has more digits than a number text may have; this is all that a value needs in order to be printed.
`IsDocument` says that a value is of the kinds that JSON texts know, and that no object in it has
two fields of one name.
-/

namespace ImageCatalog

open Number Text

namespace Value

/-- No whole number in the value is beyond the limit of number texts. -/
inductive WithinLimit : Value → Prop where
  | null : WithinLimit .null
  | bool (flag : Bool) : WithinLimit (.bool flag)
  | int (number : Int) (short : number.natAbs < Nat.pow 10 digitLimit) : WithinLimit (.int number)
  | float (number : Binary64) : WithinLimit (.float number)
  | text (chars : String) : WithinLimit (.text chars)
  | bytes (content : List UInt8) : WithinLimit (.bytes content)
  | date (day : Date) : WithinLimit (.date day)
  | timestamp (time : Timestamp) : WithinLimit (.timestamp time)
  | pair (first second : Value) (left : WithinLimit first) (right : WithinLimit second) :
      WithinLimit (.pair first second)
  | list (items : List Value) (each : ∀ item ∈ items, WithinLimit item) : WithinLimit (.list items)
  | set (items : List Value) (each : ∀ item ∈ items, WithinLimit item) : WithinLimit (.set items)
  | object (fields : List (String × Value)) (each : ∀ field ∈ fields, WithinLimit field.2) :
      WithinLimit (.object fields)
  | mapping (entries : List (Value × Value)) (keys : ∀ entry ∈ entries, WithinLimit entry.1)
      (contents : ∀ entry ∈ entries, WithinLimit entry.2) : WithinLimit (.mapping entries)

/-- The value is of the kinds that JSON texts know, and the names in each of its objects are
distinct. -/
inductive IsDocument : Value → Prop where
  | null : IsDocument .null
  | bool (flag : Bool) : IsDocument (.bool flag)
  | int (number : Int) : IsDocument (.int number)
  | float (number : Binary64) : IsDocument (.float number)
  | text (chars : String) : IsDocument (.text chars)
  | list (items : List Value) (each : ∀ item ∈ items, IsDocument item) : IsDocument (.list items)
  | object (fields : List (String × Value)) (distinct : (Entries.keys fields).Nodup)
      (each : ∀ field ∈ fields, IsDocument field.2) : IsDocument (.object fields)

theorem WithinLimit.item {items : List Value} (within : WithinLimit (.list items)) :
    ∀ item ∈ items, WithinLimit item := by
  cases within
  assumption

theorem WithinLimit.field {fields : List (String × Value)} (within : WithinLimit (.object fields)) :
    ∀ field ∈ fields, WithinLimit field.2 := by
  cases within
  assumption

/-! ## Printing -/

theorem intText_ok {number : Int} (short : number.natAbs < Nat.pow 10 digitLimit) :
    intText number = .ok (String.ofList (intChars number)) :=
  if_pos short

theorem quoteItems_ok {items : List Value} (each : ∀ item ∈ items, ∃ text, item.quote = .ok text) :
    ∃ texts, quoteItems items = .ok texts := by
  induction items with
  | nil => exact ⟨[], rfl⟩
  | cons item rest hypothesis =>
      rw [List.forall_mem_cons] at each
      rcases each.1 with ⟨text, first⟩
      rcases hypothesis each.2 with ⟨texts, later⟩
      exact ⟨text :: texts, by rw [quoteItems, first, later]; rfl⟩

theorem quoteFields_ok {fields : List (String × Value)}
    (each : ∀ field ∈ fields, ∃ text, field.2.quote = .ok text) :
    ∃ texts, quoteFields fields = .ok texts := by
  induction fields with
  | nil => exact ⟨[], rfl⟩
  | cons field rest hypothesis =>
      rw [List.forall_mem_cons] at each
      rcases each.1 with ⟨text, first⟩
      rcases hypothesis each.2 with ⟨texts, later⟩
      exact ⟨_ :: texts, by rw [quoteFields, first, later]; rfl⟩

theorem quoteEntries_ok {entries : List (Value × Value)}
    (keys : ∀ entry ∈ entries, ∃ text, entry.1.quote = .ok text)
    (contents : ∀ entry ∈ entries, ∃ text, entry.2.quote = .ok text) :
    ∃ texts, quoteEntries entries = .ok texts := by
  induction entries with
  | nil => exact ⟨[], rfl⟩
  | cons entry rest hypothesis =>
      rw [List.forall_mem_cons] at keys contents
      rcases keys.1 with ⟨name, named⟩
      rcases contents.1 with ⟨text, first⟩
      rcases hypothesis keys.2 contents.2 with ⟨texts, later⟩
      exact ⟨_ :: texts, by rw [quoteEntries, named, first, later]; rfl⟩

theorem quote_ok {value : Value} (within : value.WithinLimit) :
    ∃ text, value.quote = .ok text := by
  induction within with
  | int number short => exact ⟨_, by rw [quote, intText_ok short]⟩
  | pair first second left right leftOk rightOk =>
      rcases leftOk with ⟨leftText, leftQuoted⟩
      rcases rightOk with ⟨rightText, rightQuoted⟩
      exact ⟨_, by rw [quote, leftQuoted, rightQuoted]; rfl⟩
  | list items each eachOk =>
      rcases quoteItems_ok eachOk with ⟨texts, quoted⟩
      exact ⟨_, by rw [quote, quoted]; rfl⟩
  | set items each eachOk =>
      rcases quoteItems_ok eachOk with ⟨texts, quoted⟩
      exact ⟨_, by rw [quote, quoted]; rfl⟩
  | object fields each eachOk =>
      rcases quoteFields_ok eachOk with ⟨texts, quoted⟩
      exact ⟨_, by rw [quote, quoted]; rfl⟩
  | mapping entries keys contents keysOk contentsOk =>
      rcases quoteEntries_ok keysOk contentsOk with ⟨texts, quoted⟩
      exact ⟨_, by rw [quote, quoted]; rfl⟩
  | _ => exact ⟨_, rfl⟩

theorem print_ok {value : Value} (within : value.WithinLimit) :
    ∃ text, value.print = .ok text := by
  have quoted := quote_ok within
  cases value with
  | text chars => exact ⟨chars, rfl⟩
  | date day => exact ⟨_, rfl⟩
  | timestamp time => exact ⟨_, rfl⟩
  | _ => exact quoted

/-- A binary64 number is so small that the digits of a whole one are within the limit. -/
theorem natAbs_truncate_lt (number : Finite) :
    number.truncate.natAbs < Nat.pow 10 digitLimit := by
  have exponentBound := number.canonical.2.2.1
  have within : 53 + number.exponent.toNat ≤ digitLimit := by
    unfold digitLimit
    omega
  generalize digitLimit = limit at within ⊢
  have magnitude : number.truncate.natAbs = number.numerator / number.denominator := by
    unfold Finite.truncate
    split <;> simp only [Int.natAbs_neg, Int.natAbs_natCast]
  calc number.truncate.natAbs = number.numerator / number.denominator := magnitude
    _ ≤ number.numerator := Nat.div_le_self _ _
    _ < Nat.pow 2 (53 + number.exponent.toNat) := number.numerator_lt
    _ ≤ Nat.pow 2 limit := Nat.pow_le_pow_right (by decide) within
    _ ≤ Nat.pow 10 limit := Nat.pow_le_pow_left (by decide) _

/-- A value has a text on the wire unless a whole number in it is too long. -/
theorem stringify_ok {value : Value} (within : value.WithinLimit) :
    ∃ text, value.stringify = .ok text := by
  have printed := print_ok within
  cases value with
  | bool flag => exact ⟨_, rfl⟩
  | float number =>
      cases number with
      | finite number =>
          by_cases whole : number.isWhole = true
          · simp only [stringify, whole, if_true]
            exact ⟨_, intText_ok (natAbs_truncate_lt number)⟩
          · exact ⟨_, by simp only [stringify, whole]; rfl⟩
      | _ => exact printed
  | _ => exact printed

end Value

end ImageCatalog
