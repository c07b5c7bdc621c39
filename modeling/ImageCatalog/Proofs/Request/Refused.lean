import ImageCatalog.Proofs.Request.Overridden

/-!
# Refused overrides

A key should denote one parameter, by its position or by a name, or be refused. Two kinds of keys do
neither. An empty key is taken for the name of the first parameter whose name is empty, and a key of
too many digits runs into the limit on number texts, as may the report on a value that is refused.
A row of overrides is therefore refused exactly if one of them is refused that comes before all that
run into the limit.
-/

namespace ImageCatalog.Override

open Config Results Text

variable {description : Description} {key : String} {index : Nat} {override : String × String}

/-! ## Keys -/

/-- The key denotes the parameter at a position: it is the position in digits, or, if it does not
consist of digits, a name, not the empty one, that no earlier parameter has. -/
def Denotes (description : Description) (key : String) (index : Nat) : Prop :=
  index < description.parameters.length ∧
    (isDigits key = true ∧ digitsToNat key.toList = index ∨
      isDigits key = false ∧ key ≠ "" ∧ IsFirstNamed description key index)

/-- The key consists of more digits than a number text may have. -/
def IsOverlong (key : String) : Prop :=
  isDigits key = true ∧ digitLimit < key.toList.length

/-- The parameters that keys address are those that they denote, within the limit, and beside them
the first one with an empty name, which the empty key addresses. -/
theorem addresses_iff : Addresses description key index ↔
    Denotes description key index ∧ ¬IsOverlong key ∨
      key = "" ∧ index < description.parameters.length ∧ IsFirstNamed description "" index := by
  unfold Addresses Denotes IsOverlong IsPlace
  cases digits : isDigits key with
  | true =>
      have filled : key ≠ "" := by
        rintro rfl
        cases digits
      simp only [filled, true_and, false_and, or_false, Bool.true_eq_false, not_lt]
      constructor
      · rintro ⟨inside, short, place⟩
        exact ⟨⟨inside, place⟩, short⟩
      · rintro ⟨⟨inside, place⟩, short⟩
        exact ⟨inside, short, place⟩
  | false =>
      by_cases empty : key = ""
      · subst empty
        simp
      · simp [empty]

theorem Denotes.ne_empty (denotes : Denotes description key index) : key ≠ "" := by
  rcases denotes.2 with ⟨digits, _⟩ | ⟨_, filled, _⟩
  · rintro rfl
    cases digits
  · exact filled

/-- A key within the limit that denotes some parameter addresses the ones that it denotes. -/
theorem Denotes.addresses_iff {other : Nat} (denotes : Denotes description key other)
    (short : ¬IsOverlong key) :
    Addresses description key index ↔ Denotes description key index := by
  simp [Override.addresses_iff, short, denotes.ne_empty]

theorem Addresses.not_isOverlong (addresses : Addresses description key index) :
    ¬IsOverlong key := by
  rcases addresses_iff.mp addresses with ⟨_, short⟩ | ⟨rfl, _⟩
  · exact short
  · exact fun overlong => nomatch overlong.1

theorem findParameter_of_isOverlong (overlong : IsOverlong key) :
    findParameter description key = .error (.overlong (.reading key.toList.length)) := by
  have read : readDigits key.toList = .error (.reading key.toList.length) := if_pos overlong.2
  simp only [findParameter, overlong.1, if_true, read]
  rfl

theorem isOverlong_of_findParameter {overflow : DigitOverflow}
    (fails : findParameter description key = .error (.overlong overflow)) : IsOverlong key := by
  unfold findParameter at fails
  split at fails
  · next digits =>
      refine ⟨digits, ?_⟩
      by_contra short
      have read : readDigits key.toList = .ok (digitsToNat key.toList) := if_neg short
      simp only [read, withinLimit, mapError_of_ok, bind, Except.bind] at fails
      split at fails <;> cases fails
  · split at fails <;> cases fails

/-! ## One override -/

/-- The override runs into the limit on number texts, with its key or in the report on its value. -/
inductive Overruns (description : Description) (override : String × String) : Prop where
  | key (overlong : IsOverlong override.1)
  | value {index : Nat} {parameter : Parameter} {overflow : DigitOverflow}
      (addresses : Addresses description override.1 index)
      (there : description.parameters[index]? = some parameter)
      (coerced : coerce parameter override.2 = .error (.overlong overflow))

section

variable {parameter : Parameter} (addresses : Addresses description override.1 index)
  (there : description.parameters[index]? = some parameter)

include addresses there

theorem applyOne_of_addresses (values : ValueMap) :
    applyOne description values override.1 override.2 =
      (coerce parameter override.2).map fun value => Entries.put index value values := by
  simp only [applyOne, findParameter_ok_iff.mpr addresses, there, bind, Except.bind]
  rfl

theorem gives_iff {other : Nat} {value : Value} :
    Gives description override other value ↔
      other = index ∧ coerce parameter override.2 = .ok value := by
  constructor
  · rintro ⟨addressesToo, parameterToo, thereToo, coerced⟩
    have same := addressesToo.unique addresses
    subst same
    rw [there, Option.some.injEq] at thereToo
    exact ⟨rfl, thereToo ▸ coerced⟩
  · rintro ⟨rfl, coerced⟩
    exact ⟨addresses, parameter, there, coerced⟩

theorem overruns_iff : Overruns description override ↔
    ∃ overflow, coerce parameter override.2 = .error (.overlong overflow) := by
  constructor
  · rintro (overlong | ⟨addressesToo, thereToo, coerced⟩)
    · have found := findParameter_ok_iff.mpr addresses
      rw [findParameter_of_isOverlong overlong] at found
      cases found
    · rw [← addresses.unique addressesToo, there, Option.some.injEq] at thereToo
      exact ⟨_, thereToo ▸ coerced⟩
  · rintro ⟨overflow, coerced⟩
    exact .value addresses there coerced

end

/-- An override gives a value, or it runs into the limit, or it is refused. -/
theorem applyOne_cases (description : Description) (values : ValueMap)
    (override : String × String) :
    (∃ index value, Gives description override index value ∧
      ¬Overruns description override ∧
      applyOne description values override.1 override.2 = .ok (Entries.put index value values)) ∨
    (Overruns description override ∧ ∃ overflow,
      applyOne description values override.1 override.2 = .error (.overlong overflow)) ∨
    (∀ index value, ¬Gives description override index value) ∧ ¬Overruns description override ∧
      ∃ refusal, applyOne description values override.1 override.2 = .error (.refused refusal) := by
  cases found : findParameter description override.1 with
  | error fault =>
      have applied : applyOne description values override.1 override.2 = .error fault := by
        rw [applyOne, found]
        rfl
      have unaddressed (index : Nat) : ¬Addresses description override.1 index := by
        intro addresses
        rw [findParameter_ok_iff.mpr addresses] at found
        cases found
      cases fault with
      | overlong overflow =>
          exact .inr (.inl ⟨.key (isOverlong_of_findParameter found), overflow, applied⟩)
      | refused refusal =>
          refine .inr (.inr ⟨fun index value gives => unaddressed index gives.1, ?_, _, applied⟩)
          rintro (overlong | ⟨addresses, _, _⟩)
          · rw [findParameter_of_isOverlong overlong] at found
            cases found
          · exact unaddressed _ addresses
  | ok index =>
      have addresses := findParameter_ok_iff.mp found
      obtain ⟨parameter, there⟩ : ∃ parameter, description.parameters[index]? = some parameter :=
        ⟨_, List.getElem?_eq_getElem addresses.1⟩
      rw [applyOne_of_addresses addresses there, overruns_iff addresses there]
      simp only [gives_iff addresses there]
      -- What becomes of the override is what becomes of its text.
      cases coerce parameter override.2 with
      | ok value => exact .inl ⟨index, value, ⟨rfl, rfl⟩, by simp, rfl⟩
      | error fault =>
          cases fault with
          | overlong overflow => exact .inr (.inl ⟨⟨overflow, rfl⟩, overflow, rfl⟩)
          | refused refusal => exact .inr (.inr ⟨by simp, by simp, refusal, rfl⟩)

/-! ## Rows of overrides -/

/-- No override of a row is refused: each gives a value, up to the first that runs into the limit,
if there is one. -/
inductive NoneRefused (description : Description) : List (String × String) → Prop
  | nil : NoneRefused description []
  | given {override : String × String} {others : List (String × String)} {index : Nat}
      {value : Value} (gives : Gives description override index value)
      (later : NoneRefused description others) : NoneRefused description (override :: others)
  | stopped {override : String × String} {others : List (String × String)}
      (overruns : Overruns description override) : NoneRefused description (override :: others)

/-- A row of overrides is refused, unless none of them is. -/
theorem applyAll_refused_iff {values : ValueMap} {overrides : List (String × String)} :
    (∃ refusal, applyAll description values overrides = .error (.refused refusal)) ↔
      ¬NoneRefused description overrides := by
  induction overrides generalizing values with
  | nil => simp [applyAll, NoneRefused.nil]
  | cons override rest hypothesis =>
      rw [applyAll]
      rcases applyOne_cases description values override with
        ⟨index, value, gives, within, applied⟩ | ⟨overruns, overflow, applied⟩ |
          ⟨nothing, within, refusal, applied⟩
      · have same : NoneRefused description (override :: rest) ↔ NoneRefused description rest := by
          refine ⟨fun none => ?_, .given gives⟩
          cases none with
          | given _ later => exact later
          | stopped overruns => exact absurd overruns within
        rw [applied, same, ← hypothesis]
        rfl
      · simp [applied, bind, Except.bind, NoneRefused.stopped overruns]
      · simp only [applied, bind, Except.bind, Except.error.injEq, Fault.refused.injEq,
          exists_eq', true_iff]
        intro none
        cases none with
        | given gives => exact nothing _ _ gives
        | stopped overruns => exact within overruns

end ImageCatalog.Override
