import ImageCatalog.Proofs.Json.RoundTrip
import ImageCatalog.Proofs.Results
import ImageCatalog.Proofs.Value.Document
import Mathlib.Data.List.Basic

/-!
# Which values have a text

A value has a text on the wire exactly if it is `WithinLimit`, and a JSON text exactly if it is
`IsWritable`. The second asks for more: bytes, dates, timestamps and sets have no JSON text, and the
keys of a mapping must be single values. Both are decided by the parts of a value, so that they are
proved along `parts`.
-/

namespace ImageCatalog

open Number Results Text

namespace Value

/-- The values that a value is made of. -/
def parts : Value → List Value
  | .pair first second => [first, second]
  | .list items => items
  | .set items => items
  | .object fields => fields.map Prod.snd
  | .mapping entries => entries.map Prod.fst ++ entries.map Prod.snd
  | _ => []

theorem sizeOf_lt_of_mem_parts {part value : Value} (member : part ∈ value.parts) :
    sizeOf part < sizeOf value := by
  cases value with
  | pair first second =>
      rcases List.mem_pair.mp member with rfl | rfl
      · simp only [Value.pair.sizeOf_spec]
        omega
      · simp only [Value.pair.sizeOf_spec]
        omega
  | list items =>
      have smaller : sizeOf part < sizeOf items := List.sizeOf_lt_of_mem member
      simp only [Value.list.sizeOf_spec]
      omega
  | set items =>
      have smaller : sizeOf part < sizeOf items := List.sizeOf_lt_of_mem member
      simp only [Value.set.sizeOf_spec]
      omega
  | object fields =>
      rcases List.mem_map.mp member with ⟨⟨name, content⟩, fieldMem, rfl⟩
      have smaller := List.sizeOf_lt_of_mem fieldMem
      simp only [Value.object.sizeOf_spec, Prod.mk.sizeOf_spec] at smaller ⊢
      omega
  | mapping entries =>
      rcases List.mem_append.mp member with key | content
      · rcases List.mem_map.mp key with ⟨⟨name, content⟩, entryMem, rfl⟩
        have smaller := List.sizeOf_lt_of_mem entryMem
        simp only [Value.mapping.sizeOf_spec, Prod.mk.sizeOf_spec] at smaller ⊢
        omega
      · rcases List.mem_map.mp content with ⟨⟨name, content⟩, entryMem, rfl⟩
        have smaller := List.sizeOf_lt_of_mem entryMem
        simp only [Value.mapping.sizeOf_spec, Prod.mk.sizeOf_spec] at smaller ⊢
        omega
  | _ => cases member

/-- What holds of a value if it holds of its parts holds of every value. -/
theorem parts_induction {holds : Value → Prop}
    (step : ∀ value, (∀ part ∈ value.parts, holds part) → holds value) (value : Value) :
    holds value := by
  apply step
  intro part member
  exact parts_induction step part
termination_by sizeOf value
decreasing_by exact sizeOf_lt_of_mem_parts member

/-! ## Texts on the wire -/

theorem quoteItems_eq_mapM (items : List Value) : quoteItems items = items.mapM quote := by
  induction items with
  | nil => rfl
  | cons item rest hypothesis => rw [quoteItems, List.mapM_cons, hypothesis]

theorem quoteFields_eq_mapM (fields : List (String × Value)) :
    quoteFields fields = fields.mapM fun field =>
      (quote field.2).map fun piece => Quoted.quote field.1 ++ ": " ++ piece := by
  induction fields with
  | nil => rfl
  | cons field rest hypothesis =>
      rw [quoteFields, List.mapM_cons, hypothesis]
      cases quote field.2 <;> rfl

theorem quoteEntries_eq_mapM (entries : List (Value × Value)) :
    quoteEntries entries = entries.mapM fun entry => do
      let name ← quote entry.1
      let piece ← quote entry.2
      return name ++ ": " ++ piece := by
  induction entries with
  | nil => rfl
  | cons entry rest hypothesis =>
      rw [quoteEntries, List.mapM_cons, hypothesis]
      cases quote entry.1 with
      | error overflow => rfl
      | ok name => cases quote entry.2 <;> rfl

theorem short_of_intText {number : Int} {text : String} (spelt : intText number = .ok text) :
    number.natAbs < Nat.pow 10 digitLimit := by
  by_contra long
  rw [intText, if_neg long] at spelt
  cases spelt

theorem withinLimit_of_quote (value : Value) :
    ∀ {text}, value.quote = .ok text → value.WithinLimit := by
  induction value using parts_induction with
  | step value hypothesis =>
      intro text quoted
      cases value with
      | null => exact .null
      | bool flag => exact .bool flag
      | int number => exact .int number (short_of_intText quoted)
      | float number => exact .float number
      | text chars => exact .text chars
      | bytes content => exact .bytes content
      | date day => exact .date day
      | timestamp time => exact .timestamp time
      | pair first second =>
          rcases bind_ok quoted with ⟨left, leftQuoted, further⟩
          rcases bind_ok further with ⟨right, rightQuoted, _⟩
          apply WithinLimit.pair
          · exact hypothesis first (by simp [parts]) leftQuoted
          · exact hypothesis second (by simp [parts]) rightQuoted
      | list items =>
          rcases bind_ok quoted with ⟨pieces, each, _⟩
          rw [quoteItems_eq_mapM] at each
          apply WithinLimit.list
          intro item member
          rcases mapM_ok_iff.mp ⟨pieces, each⟩ item member with ⟨piece, spelt⟩
          exact hypothesis item member spelt
      | set items =>
          rcases bind_ok quoted with ⟨pieces, each, _⟩
          rw [quoteItems_eq_mapM] at each
          apply WithinLimit.set
          intro item member
          rcases mapM_ok_iff.mp ⟨pieces, each⟩ item member with ⟨piece, spelt⟩
          exact hypothesis item member spelt
      | object fields =>
          rcases bind_ok quoted with ⟨pieces, each, _⟩
          rw [quoteFields_eq_mapM] at each
          apply WithinLimit.object
          intro field member
          rcases mapM_ok_iff.mp ⟨pieces, each⟩ field member with ⟨piece, joined⟩
          rcases map_ok joined with ⟨content, spelt, _⟩
          exact hypothesis field.2 (List.mem_map_of_mem member) spelt
      | mapping entries =>
          rcases bind_ok quoted with ⟨pieces, each, _⟩
          rw [quoteEntries_eq_mapM] at each
          have both (entry) (member : entry ∈ entries) :
              entry.1.WithinLimit ∧ entry.2.WithinLimit := by
            rcases mapM_ok_iff.mp ⟨pieces, each⟩ entry member with ⟨piece, joined⟩
            rcases bind_ok joined with ⟨name, named, further⟩
            rcases bind_ok further with ⟨content, spelt, _⟩
            constructor
            · exact hypothesis entry.1
                (List.mem_append_left _ (List.mem_map_of_mem member)) named
            · exact hypothesis entry.2
                (List.mem_append_right _ (List.mem_map_of_mem member)) spelt
          apply WithinLimit.mapping
          · exact fun entry member => (both entry member).1
          · exact fun entry member => (both entry member).2

/-- A value has a text on the wire exactly if no whole number in it is too long. -/
theorem stringify_ok_iff {value : Value} :
    (∃ text, value.stringify = .ok text) ↔ value.WithinLimit := by
  refine ⟨?_, stringify_ok⟩
  rintro ⟨text, spelt⟩
  cases value with
  | bool flag => exact .bool flag
  | float number => exact .float number
  | text chars => exact .text chars
  | date day => exact .date day
  | timestamp time => exact .timestamp time
  | _ => exact withinLimit_of_quote _ spelt

/-! ## JSON texts -/

/-- The value can be a key in a JSON text. -/
inductive IsKey : Value → Prop where
  | null : IsKey .null
  | bool (flag : Bool) : IsKey (.bool flag)
  | int (number : Int) (short : number.natAbs < Nat.pow 10 digitLimit) : IsKey (.int number)
  | float (number : Binary64) : IsKey (.float number)
  | text (chars : String) : IsKey (.text chars)

/-- The value has a JSON text: no part of it is a date, a timestamp, bytes or a set, the keys in it
are single values, and its whole numbers are within the limit. -/
inductive IsWritable : Value → Prop where
  | null : IsWritable .null
  | bool (flag : Bool) : IsWritable (.bool flag)
  | int (number : Int) (short : number.natAbs < Nat.pow 10 digitLimit) : IsWritable (.int number)
  | float (number : Binary64) : IsWritable (.float number)
  | text (chars : String) : IsWritable (.text chars)
  | pair (first second : Value) (left : IsWritable first) (right : IsWritable second) :
      IsWritable (.pair first second)
  | list (items : List Value) (each : ∀ item ∈ items, IsWritable item) : IsWritable (.list items)
  | object (fields : List (String × Value)) (each : ∀ field ∈ fields, IsWritable field.2) :
      IsWritable (.object fields)
  | mapping (entries : List (Value × Value)) (keys : ∀ entry ∈ entries, IsKey entry.1)
      (contents : ∀ entry ∈ entries, IsWritable entry.2) : IsWritable (.mapping entries)

theorem IsKey.withinLimit {value : Value} (key : value.IsKey) : value.WithinLimit := by
  cases key with
  | int number short => exact .int number short
  | _ => constructor

/-- What has a JSON text has a text on the wire. -/
theorem IsWritable.withinLimit {value : Value} (writable : value.IsWritable) :
    value.WithinLimit := by
  induction writable with
  | int number short => exact .int number short
  | pair first second _ _ left right => exact .pair first second left right
  | list items _ each => exact .list items each
  | object fields _ each => exact .object fields each
  | mapping entries keys _ contents =>
      exact .mapping entries (fun entry member => (keys entry member).withinLimit) contents
  | _ => constructor

end Value

namespace Json

theorem writeItems_eq_mapM (spacing : Spacing) (items : List Value) :
    writeItems spacing items = items.mapM (writeValue spacing) := by
  induction items with
  | nil => rfl
  | cons item rest hypothesis => rw [writeItems, List.mapM_cons, hypothesis]

theorem writeFields_eq_mapM (spacing : Spacing) (fields : List (String × Value)) :
    writeFields spacing fields = fields.mapM fun field =>
      (writeValue spacing field.2).map fun part => writeText field.1 ++ ':' :: ' ' :: part := by
  induction fields with
  | nil => rfl
  | cons field rest hypothesis =>
      rw [writeFields, List.mapM_cons, hypothesis]
      cases writeValue spacing field.2 <;> rfl

theorem writeEntries_eq_mapM (spacing : Spacing) (entries : List (Value × Value)) :
    writeEntries spacing entries = entries.mapM fun entry => do
      let name ← writeKey entry.1
      let part ← writeValue spacing entry.2
      return name ++ ':' :: ' ' :: part := by
  induction entries with
  | nil => rfl
  | cons entry rest hypothesis =>
      rw [writeEntries, List.mapM_cons, hypothesis]
      cases writeKey entry.1 with
      | error fault => rfl
      | ok name => cases writeValue spacing entry.2 <;> rfl

theorem writeKey_ok_iff {key : Value} : (∃ chars, writeKey key = .ok chars) ↔ key.IsKey := by
  constructor
  · rintro ⟨chars, written⟩
    cases key with
    | null => exact .null
    | bool flag => exact .bool flag
    | int number =>
        rw [writeKey] at written
        rcases map_ok written with ⟨digits, spelt, _⟩
        exact .int number (writeInt_ok_iff.mp ⟨digits, spelt⟩)
    | float number => exact .float number
    | text chars => exact .text chars
    | _ => cases written
  · intro isKey
    cases isKey with
    | int number short =>
        rcases writeInt_ok_iff.mpr short with ⟨digits, spelt⟩
        exact ⟨_, by rw [writeKey, spelt]; rfl⟩
    | _ => exact ⟨_, rfl⟩

theorem writeValue_of_isWritable {value : Value} (writable : value.IsWritable) (spacing : Spacing) :
    ∃ chars, writeValue spacing value = .ok chars := by
  induction writable generalizing spacing with
  | int number short =>
      rw [writeValue]
      exact writeInt_ok_iff.mpr short
  | pair first second _ _ leftOk rightOk =>
      rcases leftOk spacing.deeper with ⟨left, leftWritten⟩
      rcases rightOk spacing.deeper with ⟨right, rightWritten⟩
      exact ⟨_, by rw [writeValue, leftWritten, rightWritten]; rfl⟩
  | list items _ hypothesis =>
      have each : ∃ parts, writeItems spacing.deeper items = .ok parts := by
        rw [writeItems_eq_mapM]
        exact mapM_ok fun item member => hypothesis item member spacing.deeper
      rcases each with ⟨parts, written⟩
      exact ⟨_, by rw [writeValue, written]; rfl⟩
  | object fields _ hypothesis =>
      have each : ∃ parts, writeFields spacing.deeper fields = .ok parts := by
        rw [writeFields_eq_mapM]
        apply mapM_ok
        intro field member
        rcases hypothesis field member spacing.deeper with ⟨part, content⟩
        exact ⟨_, by rw [content]; rfl⟩
      rcases each with ⟨parts, written⟩
      exact ⟨_, by rw [writeValue, written]; rfl⟩
  | mapping entries keys _ hypothesis =>
      have each : ∃ parts, writeEntries spacing.deeper entries = .ok parts := by
        rw [writeEntries_eq_mapM]
        apply mapM_ok
        intro entry member
        rcases writeKey_ok_iff.mpr (keys entry member) with ⟨name, named⟩
        rcases hypothesis entry member spacing.deeper with ⟨part, content⟩
        exact ⟨_, by rw [named, content]; rfl⟩
      rcases each with ⟨parts, written⟩
      exact ⟨_, by rw [writeValue, written]; rfl⟩
  | _ => exact ⟨_, rfl⟩

theorem isWritable_of_writeValue (value : Value) :
    ∀ {spacing chars}, writeValue spacing value = .ok chars → value.IsWritable := by
  induction value using Value.parts_induction with
  | step value hypothesis =>
      intro spacing chars writes
      cases value with
      | null => exact .null
      | bool flag => exact .bool flag
      | int number => exact .int number (writeInt_ok_iff.mp ⟨chars, writes⟩)
      | float number => exact .float number
      | text chars => exact .text chars
      | pair first second =>
          rcases bind_ok writes with ⟨left, leftWritten, further⟩
          rcases bind_ok further with ⟨right, rightWritten, _⟩
          apply Value.IsWritable.pair
          · exact hypothesis first (by simp [Value.parts]) leftWritten
          · exact hypothesis second (by simp [Value.parts]) rightWritten
      | list items =>
          rcases bind_ok writes with ⟨written, each, _⟩
          rw [writeItems_eq_mapM] at each
          apply Value.IsWritable.list
          intro item member
          rcases mapM_ok_iff.mp ⟨written, each⟩ item member with ⟨part, content⟩
          exact hypothesis item member content
      | object fields =>
          rcases bind_ok writes with ⟨written, each, _⟩
          rw [writeFields_eq_mapM] at each
          apply Value.IsWritable.object
          intro field member
          rcases mapM_ok_iff.mp ⟨written, each⟩ field member with ⟨part, joined⟩
          rcases map_ok joined with ⟨chars, content, _⟩
          exact hypothesis field.2 (List.mem_map_of_mem member) content
      | mapping entries =>
          rcases bind_ok writes with ⟨written, each, _⟩
          rw [writeEntries_eq_mapM] at each
          have both (entry) (member : entry ∈ entries) :
              entry.1.IsKey ∧ entry.2.IsWritable := by
            rcases mapM_ok_iff.mp ⟨written, each⟩ entry member with ⟨part, joined⟩
            rcases bind_ok joined with ⟨name, named, further⟩
            rcases bind_ok further with ⟨chars, content, _⟩
            constructor
            · exact writeKey_ok_iff.mp ⟨name, named⟩
            · exact hypothesis entry.2
                (List.mem_append_right _ (List.mem_map_of_mem member)) content
          apply Value.IsWritable.mapping
          · exact fun entry member => (both entry member).1
          · exact fun entry member => (both entry member).2
      | _ => cases writes

/-- A value has a JSON text on one line exactly if it is writable. -/
theorem write_ok_iff {value : Value} : (∃ text, write value = .ok text) ↔ value.IsWritable := by
  constructor
  · rintro ⟨text, writes⟩
    rcases map_ok writes with ⟨chars, written, _⟩
    exact isWritable_of_writeValue value written
  · intro writable
    rcases writeValue_of_isWritable writable .line with ⟨chars, written⟩
    exact ⟨_, by rw [write, written]; rfl⟩

end Json

end ImageCatalog
