import ImageCatalog.Proofs.Items
import ImageCatalog.Proofs.Results
import ImageCatalog.Proofs.Value.Entries
import ImageCatalog.Request.Override

/-!
# Overridden values

A row of overrides is applied from left to right, and each override writes one value: the one that
its text gives the parameter that its key addresses. Whether it does so, and which value it writes,
does not depend on the values that are there already. So the row is applied exactly if each override
could be applied alone, and what remains at a position is what the last override for it has written;
overrides for different positions may change places.

A number and a name can address the same position, and the last override counts among both. A value
map is itself a value: the map that the overrides are applied to stays what it is.
-/

namespace ImageCatalog.Override

open Config Results Text

variable {description : Description} {values final : ValueMap}

/-! ## Addresses -/

/-- The name of the parameter at a position. -/
def nameAt? (description : Description) (index : Nat) : Option String :=
  description.parameters[index]?.bind Parameter.name

/-- The key is the position in digits. -/
def IsPlace (key : String) (index : Nat) : Prop :=
  isDigits key = true ∧ key.toList.length ≤ digitLimit ∧ digitsToNat key.toList = index

/-- The key is the name of the parameter at the position, and of no earlier one. -/
def IsFirstNamed (description : Description) (key : String) (index : Nat) : Prop :=
  nameAt? description index = some key ∧ ∀ earlier < index, nameAt? description earlier ≠ some key

/-- The key addresses the parameter at the position, by its place or, unless it consists of digits,
by its name. -/
def Addresses (description : Description) (key : String) (index : Nat) : Prop :=
  index < description.parameters.length ∧
    (IsPlace key index ∨ isDigits key = false ∧ IsFirstNamed description key index)

instance (key : String) (index : Nat) : Decidable (IsPlace key index) :=
  inferInstanceAs (Decidable (_ ∧ _ ∧ _))

instance (description : Description) (key : String) (index : Nat) :
    Decidable (IsFirstNamed description key index) :=
  inferInstanceAs (Decidable (_ ∧ ∀ earlier < index, _))

instance (description : Description) (key : String) (index : Nat) :
    Decidable (Addresses description key index) :=
  inferInstanceAs (Decidable (_ ∧ (_ ∨ _ ∧ _)))

theorem findParameter_of_digits {key : String} (digits : isDigits key = true) {index : Nat} :
    findParameter description key = .ok index ↔
      index < description.parameters.length ∧ IsPlace key index := by
  unfold findParameter IsPlace
  simp only [digits, if_true, true_and]
  constructor
  · intro found
    rcases bind_ok found with ⟨place, read, within⟩
    have read := mapError_ok read
    unfold readDigits at read
    split at read
    · cases read
    · next short =>
        cases read
        split at within
        · next inside =>
            cases within
            exact ⟨inside, Nat.not_lt.mp short, rfl⟩
        · cases within
  · rintro ⟨inside, short, rfl⟩
    have read : readDigits key.toList = .ok (digitsToNat key.toList) :=
      if_neg (Nat.not_lt.mpr short)
    simp only [read, withinLimit, mapError_of_ok]
    exact if_pos inside

theorem findParameter_of_name {key : String} (word : isDigits key = false) {index : Nat} :
    findParameter description key = .ok index ↔
      index < description.parameters.length ∧ IsFirstNamed description key index := by
  have settled : findParameter description key = .ok index ↔
      (description.parameters.findIdx? fun parameter => parameter.name == some key) =
        some index := by
    unfold findParameter
    simp only [word, Bool.false_eq_true, if_false]
    split
    · next found => simp [found]
    · next absent => simp [absent, refuse]
  have named {place : Nat} (inside : place < description.parameters.length) :
      nameAt? description place = description.parameters[place].name := by
    simp [nameAt?, inside]
  rw [settled, List.findIdx?_eq_some_iff_getElem, IsFirstNamed]
  constructor
  · rintro ⟨inside, here, before⟩
    refine ⟨inside, ?_, ?_⟩
    · simpa [named inside] using here
    · intro earlier lower
      rw [named (Nat.lt_trans lower inside)]
      simpa using before earlier lower
  · rintro ⟨inside, here, before⟩
    refine ⟨inside, ?_, ?_⟩
    · simpa [named inside] using here
    · intro earlier lower
      have other := before earlier lower
      rw [named (Nat.lt_trans lower inside)] at other
      simpa using other

theorem findParameter_ok_iff {key : String} {index : Nat} :
    findParameter description key = .ok index ↔ Addresses description key index := by
  unfold Addresses
  cases digits : isDigits key with
  | true => simp [findParameter_of_digits digits]
  | false =>
      have noPlace : ¬IsPlace key index := by simp [IsPlace, digits]
      simp [findParameter_of_name digits, noPlace]

theorem Addresses.unique {key : String} {index other : Nat}
    (first : Addresses description key index) (second : Addresses description key other) :
    index = other := by
  have found := findParameter_ok_iff.mpr first
  rw [findParameter_ok_iff.mpr second] at found
  exact (Except.ok.inj found).symm

/-! ## One override -/

/-- The override gives the parameter at the position the value: its key addresses the parameter, and
the value is what its text means for that parameter. -/
def Gives (description : Description) (override : String × String) (index : Nat) (value : Value) :
    Prop :=
  Addresses description override.1 index ∧
    ∃ parameter, description.parameters[index]? = some parameter ∧
      coerce parameter override.2 = .ok value

theorem Gives.unique {override : String × String} {index : Nat} {value other : Value}
    (first : Gives description override index value)
    (second : Gives description override index other) : value = other := by
  rcases first.2 with ⟨parameter, there, coerced⟩
  rcases second.2 with ⟨parameterToo, thereToo, coercedToo⟩
  rw [there, Option.some.injEq] at thereToo
  subst thereToo
  rw [coerced, Except.ok.injEq] at coercedToo
  exact coercedToo

theorem applyOne_ok_iff {key raw : String} :
    applyOne description values key raw = .ok final ↔
      ∃ index value, Gives description (key, raw) index value ∧
        final = Entries.put index value values := by
  constructor
  · intro applied
    rcases bind_ok applied with ⟨index, found, chosen⟩
    have addresses := findParameter_ok_iff.mp found
    split at chosen
    · next parameter there =>
        rcases bind_ok chosen with ⟨value, coerced, written⟩
        cases written
        exact ⟨index, value, ⟨addresses, parameter, there, coerced⟩, rfl⟩
    · cases chosen
  · rintro ⟨index, value, ⟨addresses, parameter, there, coerced⟩, rfl⟩
    have found := findParameter_ok_iff.mpr addresses
    simp only [applyOne, found, there, coerced, bind, Except.bind]
    rfl

/-! ## Rows of overrides -/

theorem applyAll_append (values : ValueMap) (first second : List (String × String)) :
    applyAll description values (first ++ second) =
      (applyAll description values first).bind fun middle =>
        applyAll description middle second := by
  induction first generalizing values with
  | nil => rfl
  | cons override rest hypothesis =>
      obtain ⟨key, raw⟩ := override
      simp only [List.cons_append, applyAll]
      cases applyOne description values key raw with
      | error fault => rfl
      | ok next => exact hypothesis next

/-- A row of overrides is applied exactly if each of them gives some parameter a value. -/
theorem applyAll_ok_iff (values : ValueMap) {overrides : List (String × String)} :
    (∃ final, applyAll description values overrides = .ok final) ↔
      ∀ override ∈ overrides, ∃ index value, Gives description override index value := by
  induction overrides generalizing values with
  | nil => simp [applyAll]
  | cons override rest hypothesis =>
      rw [List.forall_mem_cons]
      constructor
      · rintro ⟨final, applied⟩
        rcases bind_ok applied with ⟨next, first, later⟩
        rcases applyOne_ok_iff.mp first with ⟨index, value, gives, _⟩
        exact ⟨⟨index, value, gives⟩, (hypothesis next).mp ⟨final, later⟩⟩
      · rintro ⟨⟨index, value, gives⟩, others⟩
        rcases (hypothesis (Entries.put index value values)).mpr others with ⟨final, later⟩
        have first : applyOne description values override.1 override.2 =
            .ok (Entries.put index value values) :=
          applyOne_ok_iff.mpr ⟨index, value, gives, rfl⟩
        exact ⟨final, by rw [applyAll, first]; exact later⟩

theorem applyAll_concat {overrides : List (String × String)} {override : String × String}
    (applied : applyAll description values (overrides ++ [override]) = .ok final) :
    ∃ middle index value, applyAll description values overrides = .ok middle ∧
      Gives description override index value ∧ final = Entries.put index value middle := by
  rw [applyAll_append] at applied
  rcases bind_ok applied with ⟨middle, before, last⟩
  rcases bind_ok last with ⟨next, first, done⟩
  cases done
  rcases applyOne_ok_iff.mp first with ⟨index, value, gives, written⟩
  exact ⟨middle, index, value, before, gives, written⟩

/-- What a row of overrides makes of some values: a position that none of them addresses keeps its
value, one that is addressed has the value that the last override for it gives, and there are no
further positions. -/
structure Settles (description : Description) (overrides : List (String × String))
    (values final : ValueMap) : Prop where
  kept : ∀ index, (∀ override ∈ overrides, ¬Addresses description override.1 index) →
    final.find? index = values.find? index
  settled : ∀ before override after index, overrides = before ++ override :: after →
    Addresses description override.1 index →
    (∀ later ∈ after, ¬Addresses description later.1 index) →
    ∃ value, Gives description override index value ∧ final.find? index = some value
  positions : ∀ index, index ∈ Entries.keys final ↔
    index ∈ Entries.keys values ∨ ∃ override ∈ overrides, Addresses description override.1 index

theorem Settles.concat {overrides : List (String × String)} {middle : ValueMap}
    (settles : Settles description overrides values middle) {override : String × String}
    {index : Nat} {value : Value} (gives : Gives description override index value) :
    Settles description (overrides ++ [override]) values (Entries.put index value middle) := by
  constructor
  · intro other untouched
    have differs : other ≠ index := by
      rintro rfl
      exact untouched override (by simp) gives.1
    rw [ValueMap.find?, Entries.find?_put_of_ne differs]
    apply settles.kept
    intro earlier member
    exact untouched earlier (List.mem_append_left _ member)
  · intro before chosen after other split addresses unaddressed
    -- The override is the one at the end, or it stands in the row before.
    rcases Items.concat_eq_append_cons.mp split with ⟨_, rfl, _⟩ | ⟨rest, rfl, earlier⟩
    · have same := addresses.unique gives.1
      subst same
      exact ⟨value, gives, Entries.find?_put_self _ _ _⟩
    · have differs : other ≠ index := by
        rintro rfl
        exact unaddressed override (by simp) gives.1
      rw [ValueMap.find?, Entries.find?_put_of_ne differs]
      apply settles.settled before chosen rest other earlier addresses
      intro later member
      exact unaddressed later (List.mem_append_left _ member)
  · intro other
    have addressed : Addresses description override.1 other ↔ other = index := by
      constructor
      · intro addresses
        exact addresses.unique gives.1
      · rintro rfl
        exact gives.1
    rw [Entries.mem_keys_put, settles.positions]
    simp only [List.mem_append, List.mem_singleton, or_and_right, exists_or, exists_eq_left,
      addressed]
    exact or_rotate

theorem settles_of_applyAll {overrides : List (String × String)}
    (applied : applyAll description values overrides = .ok final) :
    Settles description overrides values final := by
  induction overrides using List.reverseRecOn generalizing final with
  | nil =>
      cases applied
      exact ⟨by simp, by simp, by simp⟩
  | append_singleton overrides override hypothesis =>
      rcases applyAll_concat applied with ⟨middle, index, value, before, gives, rfl⟩
      exact (hypothesis before).concat gives

theorem nodup_keys_applyAll (distinct : (Entries.keys values).Nodup)
    {overrides : List (String × String)}
    (applied : applyAll description values overrides = .ok final) :
    (Entries.keys final).Nodup := by
  induction overrides using List.reverseRecOn generalizing final with
  | nil =>
      cases applied
      exact distinct
  | append_singleton overrides override hypothesis =>
      rcases applyAll_concat applied with ⟨middle, index, value, before, _, rfl⟩
      exact Entries.nodup_keys_put (hypothesis before) index value

/-! ## Other orders -/

/-- The same overrides in another order, in which those that address one position stand in the same
order as before. -/
def Rearranges (description : Description) (overrides others : List (String × String)) : Prop :=
  overrides.Perm others ∧
    ∀ index, (overrides.filter fun override => Addresses description override.1 index) =
      others.filter fun override => Addresses description override.1 index

theorem Settles.find?_congr {overrides others : List (String × String)} {other : ValueMap}
    (settles : Settles description overrides values final)
    (otherwise : Settles description others values other)
    (rearranged : Rearranges description overrides others) (index : Nat) :
    final.find? index = other.find? index := by
  have same := rearranged.2 index
  rcases List.eq_nil_or_concat
      (overrides.filter fun override => Addresses description override.1 index) with
    empty | ⟨front, last, chosen⟩
  · have untouched := empty
    rw [same] at untouched
    rw [List.filter_eq_nil_iff] at empty untouched
    rw [settles.kept index (by simpa using empty), otherwise.kept index (by simpa using untouched)]
  · -- The row that the position is left with is the same, and so is the last override in it.
    have chosenToo := chosen
    rw [same] at chosenToo
    rw [List.concat_eq_append] at chosen chosenToo
    rcases Items.exists_last_of_filter chosen with ⟨before, after, split, addresses, none⟩
    rcases Items.exists_last_of_filter chosenToo with ⟨earlier, later, splitToo, _, noneToo⟩
    have addresses := of_decide_eq_true addresses
    rcases settles.settled before last after index split addresses (by simpa using none) with
      ⟨value, gives, found⟩
    rcases otherwise.settled earlier last later index splitToo addresses (by simpa using noneToo)
      with ⟨valueToo, givesToo, foundToo⟩
    rw [found, foundToo, gives.unique givesToo]

/-- A row of overrides is applied exactly if each of them gives a parameter a value. Then every
position that is addressed has the value that the last override for it gives, all others keep what
they have, and no further ones appear. A row can be applied piece by piece, and in any order that
keeps the overrides of one position in their order. -/
theorem overrides_settle (description : Description) {values : ValueMap}
    (distinct : (Entries.keys values).Nodup) (overrides : List (String × String)) :
    (∀ final, applyAll description values overrides = .ok final →
      (Entries.keys final).Nodup ∧ Settles description overrides values final) ∧
    ((∃ final, applyAll description values overrides = .ok final) ↔
      ∀ override ∈ overrides, ∃ index value, Gives description override index value) ∧
    (∀ others, applyAll description values (overrides ++ others) =
      (applyAll description values overrides).bind fun middle =>
        applyAll description middle others) ∧
    ∀ others, Rearranges description overrides others →
      ((∃ final, applyAll description values others = .ok final) ↔
        ∃ final, applyAll description values overrides = .ok final) ∧
      ∀ final other, applyAll description values overrides = .ok final →
        applyAll description values others = .ok other → final.Perm other := by
  refine ⟨?_, applyAll_ok_iff values, applyAll_append values overrides, ?_⟩
  · intro final applied
    exact ⟨nodup_keys_applyAll distinct applied, settles_of_applyAll applied⟩
  · intro others rearranged
    constructor
    · rw [applyAll_ok_iff, applyAll_ok_iff]
      simp only [rearranged.1.mem_iff]
    · intro final other applied appliedToo
      apply Entries.perm_of_find?_eq
      · exact nodup_keys_applyAll distinct applied
      · exact nodup_keys_applyAll distinct appliedToo
      · exact (settles_of_applyAll applied).find?_congr (settles_of_applyAll appliedToo) rearranged

/-- A service with a named and a positional parameter. -/
def framed : Description where
  title := "f"
  intro := ""
  icon := none
  link := "h"
  verb := "GET"
  parameters := [⟨some "size", "", true, .text none⟩, ⟨none, "", true, .text (some "x")⟩]
  image := ⟨.url, none⟩

/-- The size is given by its place and then by its name, and the other value at any time. -/
theorem overrides_settle_framed :
    (Entries.keys (ValueMap.seed framed)).Nodup ∧
    Rearranges framed [("0", "a"), ("1", "c"), ("size", "b")]
      [("1", "c"), ("0", "a"), ("size", "b")] ∧
    ∃ final, applyAll framed (ValueMap.seed framed) [("0", "a"), ("1", "c"), ("size", "b")] =
        .ok final ∧
      Settles framed [("0", "a"), ("1", "c"), ("size", "b")] (ValueMap.seed framed) final ∧
      final.find? 0 = some (.text "b") ∧
      ∃ other, applyAll framed (ValueMap.seed framed) [("1", "c"), ("0", "a"), ("size", "b")] =
          .ok other ∧ final.Perm other := by
  have distinct : (Entries.keys (ValueMap.seed framed)).Nodup := by decide
  have rearranged : Rearranges framed [("0", "a"), ("1", "c"), ("size", "b")]
      [("1", "c"), ("0", "a"), ("size", "b")] := by
    refine ⟨.swap _ _ _, ?_⟩
    intro index
    have place {key : String} {spelt : Nat} (addresses : Addresses framed key spelt) :
        Addresses framed key index ↔ index = spelt := by
      constructor
      · intro found
        exact found.unique addresses
      · rintro rfl
        exact addresses
    have first : Addresses framed "0" 0 := by decide +kernel
    have second : Addresses framed "1" 1 := by decide +kernel
    have named : Addresses framed "size" 0 := by decide +kernel
    simp only [List.filter_cons, List.filter_nil, place first, place second, place named]
    by_cases zero : index = 0
    · simp [zero]
    · simp [zero]
  have results := overrides_settle framed distinct [("0", "a"), ("1", "c"), ("size", "b")]
  have applied : applyAll framed (ValueMap.seed framed) [("0", "a"), ("1", "c"), ("size", "b")] =
      .ok [(0, .text "b"), (1, .text "c")] := rfl
  rcases (results.2.2.2 _ rearranged).1.mpr ⟨_, applied⟩ with ⟨other, appliedToo⟩
  exact ⟨distinct, rearranged, _, applied, (results.1 _ applied).2, rfl, other, appliedToo,
    (results.2.2.2 _ rearranged).2 _ _ applied appliedToo⟩

end ImageCatalog.Override
