import ImageCatalog.Proofs.Config.Defaults
import ImageCatalog.Proofs.Config.Outcome
import ImageCatalog.Proofs.Request.Body
import ImageCatalog.Proofs.Request.Sent
import ImageCatalog.Request.Override

/-!
# Requests of accepted configurations

The values that a configuration starts with are one for every parameter, and overriding them keeps
it so: each is the default of its parameter or a value that its kind calls for. A request is built
exactly if every value that it sends has a text of the kind that is sent, and a query has no half in
it. The options of a choice may be any values that a document can say, so that not all of them have
a text; all of them do if the document itself has a JSON text.
-/

namespace ImageCatalog

open Config Number Results Text

/-! ## Values of parameters -/

/-- The value is the default of the parameter, or one that its kind calls for. -/
inductive Config.Parameter.Takes (parameter : Parameter) : Value → Prop where
  | default : parameter.Takes parameter.defaultValue
  | number {field : NumberField} (kind : parameter.kind = .number field) (number : Quantity)
      (least : ∀ low ∈ field.least, number.isLess low = false)
      (greatest : ∀ high ∈ field.greatest, high.isLess number = false)
      (short : (quantityValue number).IsWritable) : parameter.Takes (quantityValue number)
  | flag {value : Option Bool} (kind : parameter.kind = .flag value) (flag : Bool) :
      parameter.Takes (.bool flag)
  | option {field : ChoiceField} (kind : parameter.kind = .choice field) (option : Value)
      (member : option ∈ field.options) : parameter.Takes option
  | text {value : Option String} (kind : parameter.kind = .text value) (chars : String) :
      parameter.Takes (.text chars)
  | list {field : ListField} (kind : parameter.kind = .list field) (items : List String) :
      parameter.Takes (.list (items.map .text))

theorem isWritable_texts (items : List String) : (Value.list (items.map .text)).IsWritable := by
  apply Value.IsWritable.list
  intro item member
  rcases List.mem_map.mp member with ⟨chars, _, rfl⟩
  exact .text chars

/-- Only the defaults of numbers and the options of choices could have no JSON text. -/
theorem Config.Parameter.Takes.isWritable {parameter : Parameter} {value : Value}
    (takes : parameter.Takes value) (plain : parameter.IsPlain) : value.IsWritable := by
  cases takes with
  | default =>
      unfold Parameter.defaultValue
      unfold Parameter.IsPlain at plain
      split
      · next field kind =>
          rw [kind] at plain
          cases given : field.value with
          | none => exact .null
          | some number => exact plain number given
      · next value _ =>
          cases value with
          | none => exact .null
          | some flag => exact .bool flag
      · next field kind =>
          rw [kind] at plain
          exact plain _ (List.head_mem field.nonempty)
      · next value _ =>
          cases value with
          | none => exact .null
          | some chars => exact .text chars
      · exact isWritable_texts _
  | number _ _ _ _ short => exact short
  | flag _ flag => exact .bool flag
  | option kind _ member =>
      simp only [Parameter.IsPlain, kind] at plain
      exact plain value member
  | text _ chars => exact .text chars
  | list _ items => exact isWritable_texts items

namespace Override

theorem isWritable_of_readNumber? {raw : String} {number : Quantity}
    (read : readNumber? raw = some number) : (quantityValue number).IsWritable := by
  unfold readNumber? at read
  split at read
  · rcases Option.map_eq_some_iff.mp read with ⟨real, _, rfl⟩
    exact .float real
  · rcases Option.map_eq_some_iff.mp read with ⟨whole, spelt, rfl⟩
    exact .int whole (natAbs_lt_of_readWhole? spelt)

/-- A number that is checked against a bound and not refused is within it. -/
theorem within_of_checked {Result : Type} {bound : Option Quantity} {outside : Quantity → Bool}
    {printed : Except DigitOverflow String} {refusal : String → String → Refusal}
    {after : PUnit → Except Fault Result} {next : Except Fault Result} {result : Result}
    (taken : (match bound with
      | some limit =>
        if outside limit then do
          let left ← withinLimit printed
          let right ← withinLimit limit.print
          let done ← refuse (refusal left right)
          after done
        else next
      | none => next) = .ok result) :
    (∀ limit ∈ bound, outside limit = false) ∧ next = .ok result := by
  cases bound with
  | none => exact ⟨by simp, taken⟩
  | some limit =>
      simp only at taken
      split at taken
      · rcases bind_ok taken with ⟨left, _, further⟩
        rcases bind_ok further with ⟨right, _, last⟩
        rcases bind_ok last with ⟨done, refused, _⟩
        cases refused
      · next inside =>
          refine ⟨?_, taken⟩
          rintro _ ⟨⟩
          exact Bool.eq_false_iff.mpr inside

theorem coerceNumber_ok {label : String} {field : NumberField} {raw : String} {value : Value}
    (coerced : coerceNumber label field raw = .ok value) :
    ∃ number, value = quantityValue number ∧ (∀ low ∈ field.least, number.isLess low = false) ∧
      (∀ high ∈ field.greatest, high.isLess number = false) ∧
      (quantityValue number).IsWritable := by
  unfold coerceNumber at coerced
  split at coerced
  · cases coerced
  · next number read =>
      rcases within_of_checked coerced with ⟨least, further⟩
      rcases within_of_checked further with ⟨greatest, made⟩
      cases made
      exact ⟨number, rfl, least, greatest, isWritable_of_readNumber? read⟩

theorem mem_of_findOption {raw : String} {rows : List (Value × String)} {option : Value}
    (found : findOption raw rows = .ok (some option)) : option ∈ rows.map Prod.fst := by
  induction rows with
  | nil => cases found
  | cons row rest hypothesis =>
      rcases bind_ok found with ⟨printed, _, settled⟩
      split at settled
      · cases settled
        exact List.mem_cons_self
      · exact List.mem_cons_of_mem _ (hypothesis settled)

theorem mem_of_coerceOption {label : String} {field : ChoiceField} {raw : String} {option : Value}
    (coerced : coerceOption label field raw = .ok option) : option ∈ field.options := by
  rcases bind_ok coerced with ⟨labels, _, further⟩
  rcases bind_ok further with ⟨settled, found, done⟩
  cases settled with
  | none =>
      rcases bind_ok done with ⟨printed, _, refused⟩
      cases refused
  | some chosen =>
      cases done
      have listed := mem_of_findOption (mapError_ok found)
      rcases List.mem_map.mp listed with ⟨row, member, rfl⟩
      exact (List.of_mem_zip member).1

/-- A text that is taken gives a value that the kind of the parameter calls for. -/
theorem takes_of_coerce {parameter : Parameter} {raw : String} {value : Value}
    (coerced : coerce parameter raw = .ok value) : parameter.Takes value := by
  unfold coerce at coerced
  cases kind : parameter.kind with
  | number field =>
      simp only [kind] at coerced
      rcases coerceNumber_ok coerced with ⟨number, rfl, least, greatest, short⟩
      exact .number kind number least greatest short
  | flag default =>
      simp only [kind, coerceFlag] at coerced
      split at coerced
      · cases coerced
        exact .flag kind true
      · split at coerced
        · cases coerced
          exact .flag kind false
        · cases coerced
  | choice field =>
      simp only [kind] at coerced
      exact .option kind value (mem_of_coerceOption coerced)
  | text default =>
      simp only [kind] at coerced
      cases coerced
      exact .text kind raw
  | list field =>
      simp only [kind] at coerced
      cases coerced
      exact .list kind _

end Override

/-! ## Value maps -/

namespace ValueMap

/-- The map has one value for every parameter and nothing else, and each suits its parameter. -/
structure Suits (description : Description) (values : ValueMap) : Prop where
  keys : Entries.keys values = List.range description.parameters.length
  takes : ∀ index parameter, description.parameters[index]? = some parameter →
    ∃ value, values.find? index = some value ∧ parameter.Takes value

variable {description : Description} {values : ValueMap}

theorem keys_seedFrom (start : Nat) (parameters : List Parameter) :
    Entries.keys (seedFrom start parameters) = List.range' start parameters.length := by
  induction parameters generalizing start with
  | nil => rfl
  | cons parameter rest hypothesis =>
      rw [List.length_cons, List.range'_succ, ← hypothesis]
      rfl

theorem find?_seedFrom {start index : Nat} {parameters : List Parameter} {parameter : Parameter}
    (there : parameters[index]? = some parameter) :
    Entries.find? (start + index) (seedFrom start parameters) = some parameter.defaultValue := by
  induction parameters generalizing start index with
  | nil => cases there
  | cons first rest hypothesis =>
      cases index with
      | zero =>
          cases there
          exact if_pos rfl
      | succ before =>
          rw [List.getElem?_cons_succ] at there
          have later := @hypothesis (start + 1) before there
          rw [seedFrom, Entries.find?, if_neg (by omega), ← later]
          congr 1
          omega

theorem keys_seed (description : Description) :
    Entries.keys (seed description) = List.range description.parameters.length := by
  rw [seed, keys_seedFrom, List.range_eq_range']

theorem find?_seed {index : Nat} {parameter : Parameter}
    (there : description.parameters[index]? = some parameter) :
    (seed description).find? index = some parameter.defaultValue := by
  have found := @find?_seedFrom 0 _ _ _ there
  rwa [Nat.zero_add] at found

theorem suits_seed (description : Description) : (seed description).Suits description := by
  refine ⟨keys_seed description, ?_⟩
  intro index parameter there
  exact ⟨parameter.defaultValue, find?_seed there, .default⟩

theorem Suits.put (suits : values.Suits description) {index : Nat} {parameter : Parameter}
    (there : description.parameters[index]? = some parameter) {value : Value}
    (takes : parameter.Takes value) :
    Suits description (Entries.put index value values) := by
  constructor
  · have known : index ∈ Entries.keys values := by
      rcases List.getElem?_eq_some_iff.mp there with ⟨within, _⟩
      rwa [suits.keys, List.mem_range]
    rw [Entries.keys_put, if_pos known, suits.keys]
  · intro other parameter otherThere
    rw [find?, Entries.find?_put]
    split
    · next same =>
        subst same
        rw [there, Option.some.injEq] at otherThere
        subst otherThere
        exact ⟨value, rfl, takes⟩
    · exact suits.takes other parameter otherThere

theorem Suits.applyOne (suits : values.Suits description) {key raw : String} {next : ValueMap}
    (applied : Override.applyOne description values key raw = .ok next) :
    next.Suits description := by
  rcases bind_ok applied with ⟨index, _, chosen⟩
  split at chosen
  · next parameter there =>
      rcases bind_ok chosen with ⟨value, coerced, written⟩
      cases written
      exact suits.put there (Override.takes_of_coerce coerced)
  · cases chosen

theorem Suits.applyAll (suits : values.Suits description) {overrides : List (String × String)}
    {final : ValueMap} (applied : Override.applyAll description values overrides = .ok final) :
    final.Suits description := by
  induction overrides generalizing values with
  | nil =>
      cases applied
      exact suits
  | cons override rest hypothesis =>
      rcases bind_ok applied with ⟨next, first, later⟩
      exact hypothesis (suits.applyOne first) later

/-- All values are values of parameters. -/
theorem Suits.exists_of_mem (suits : values.Suits description) {index : Nat} {value : Value}
    (found : values.find? index = some value) :
    ∃ parameter ∈ description.parameters, parameter.Takes value := by
  have known : index ∈ Entries.keys values := by
    by_contra absent
    rw [find?, (Entries.find?_eq_none_iff index values).mpr absent] at found
    cases found
  rw [suits.keys, List.mem_range] at known
  have there := List.getElem?_eq_getElem known
  rcases suits.takes index _ there with ⟨taken, same, takes⟩
  rw [found, Option.some.injEq] at same
  subst same
  exact ⟨_, List.getElem_mem known, takes⟩

end ValueMap

namespace PreparedRequest

variable {description : Description} {values : ValueMap}

/-- Every value that the request sends has a text: a text on the wire for those in the path and the
query, which are not null, and without halves for those in the query; and a JSON text for those in
the body. -/
def Renders (description : Description) (values : ValueMap) : Prop :=
  if isQueryMethod description.method then
    ∃ segments entries, Sends description values segments entries ∧ AreWhole entries
  else ∀ field ∈ Entries.onePerKey (namedHeld description values), field.2.IsWritable

theorem build_ok_iff :
    (∃ request, build description values = .ok request) ↔ Renders description values := by
  unfold Renders
  split
  · next asked =>
      rw [build_ok_iff_of_asked asked]
      constructor
      · rintro ⟨url, written⟩
        rcases queryUrl_eq_ok_iff.mp written with ⟨segments, entries, sends, whole, _⟩
        exact ⟨segments, entries, sends, whole⟩
      · rintro ⟨segments, entries, sends, whole⟩
        exact (queryUrl_ok_iff_of_sends sends).mpr whole
  · next asked =>
      rw [build_of_body (Bool.eq_false_iff.mpr asked), bodyFields_eq]
      constructor
      · rintro ⟨request, built⟩
        rcases map_ok built with ⟨body, written, _⟩
        have writable := Json.write_ok_iff.mp ⟨body, written⟩
        cases writable
        assumption
      · intro each
        rcases Json.write_ok_iff.mpr (.object _ each) with ⟨body, written⟩
        exact ⟨_, by rw [written]; rfl⟩

section

variable (suits : values.Suits description)
  (plain : ∀ parameter ∈ description.parameters, parameter.IsPlain)

include suits plain

theorem isWritable_of_find? {index : Nat} {value : Value}
    (found : values.find? index = some value) : value.IsWritable := by
  rcases suits.exists_of_mem found with ⟨parameter, member, takes⟩
  exact takes.isWritable (plain parameter member)

/-- A query of plain values is built unless there is a half in it. -/
theorem exists_sends_of_isPlain (asked : isQueryMethod description.method = true) :
    ∃ segments entries, Sends description values segments entries ∧
      ((∃ request, build description values = .ok request) ↔ AreWhole entries) := by
  have within : ∀ entry ∈ given values (numbered description), entry.2.WithinLimit := by
    intro entry member
    rcases List.mem_filterMap.mp member with ⟨row, _, found⟩
    rcases Option.map_eq_some_iff.mp found with ⟨value, present, rfl⟩
    exact (isWritable_of_find? suits plain (Option.filter_eq_some_iff.mp present).1).withinLimit
  rcases sends_ok_iff.mpr within with ⟨segments, entries, sends⟩
  refine ⟨segments, entries, sends, ?_⟩
  rw [build_ok_iff_of_asked asked, queryUrl_ok_iff_of_sends sends]

/-- A body of plain values is always built. -/
theorem build_ok_of_isPlain (inBody : isQueryMethod description.method = false) :
    ∃ request, build description values = .ok request := by
  rw [build_ok_iff, Renders, inBody, if_neg Bool.false_ne_true]
  intro field member
  rw [← Entries.ofList_eq_onePerKey] at member
  rcases List.mem_filterMap.mp (Entries.mem_of_mem_ofList member) with ⟨row, _, found⟩
  rcases Option.bind_eq_some_iff.mp found with ⟨name, _, named⟩
  rcases Option.map_eq_some_iff.mp named with ⟨value, held, rfl⟩
  exact isWritable_of_find? suits plain held

end

/-- A choice between some options, for a service that is asked with some method. -/
def choiceChars (verb options : String) : List Char :=
  ["\x7blink: \"https:", "//h.test/i\"", ", friendly_name: f", ", func: ", verb,
    ", parameters: ", "[\x7bname: day, ", "type: enum, ", "value: ", options, "\x7d], ",
    "response: ", "\x7bimage: ", "\x7bcontent_type: ", "URL\x7d\x7d\x7d"].flatMap String.toList

/-- The file of the choice. -/
def choiceFile (verb options : String) : List UInt8 :=
  Utf8.encodeChars (choiceChars verb options)

end PreparedRequest

end ImageCatalog
