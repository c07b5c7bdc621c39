import ImageCatalog.Proofs.Path.Reach
import ImageCatalog.Proofs.Results
import Mathlib.Tactic.Common

/-!
# Paths that cannot be followed

Following a path fails in one way only: a segment of digits is followed into a list, and the segment
has more digits than a number text may have. Nothing in brackets can fail. A number that is too long
there selects nothing, as does any other text that is no selector, and a step that does not fit
leads to null.

The failing segment need not be the first overlong one of the path: it counts only at a place that
the steps before it lead to, and only if there is a list at that place. `Overruns` says that there
is such a place.
-/

namespace ImageCatalog.Path

open Results Text

/-- Somewhere on the way a segment of that many digits, beyond the limit, is followed into a list.
-/
inductive Overruns : List Step → Value → Nat → Prop where
  | here {name : String} (digits : isDigits name = true)
      (beyond : digitLimit < name.toList.length) (rest : List Step) (items : List Value) :
      Overruns (.key name :: rest) (.list items) name.toList.length
  | place {step : Step} {rest : List Step} {value next : Value} {count : Nat}
      (reaches : step.reach value = .ok (.place next)) (later : Overruns rest next count) :
      Overruns (step :: rest) value count
  | item {step : Step} {rest : List Step} {value item : Value} {items : List Value} {count : Nat}
      (reaches : step.reach value = .ok (.every items)) (member : item ∈ items)
      (later : Overruns rest item count) : Overruns (step :: rest) value count

theorem Overruns.beyond {steps : List Step} {value : Value} {count : Nat}
    (overruns : Overruns steps value count) : digitLimit < count := by
  induction overruns with
  | here _ beyond => exact beyond
  | place _ _ hypothesis => exact hypothesis
  | item _ _ _ hypothesis => exact hypothesis

/-! ## One step -/

theorem descend_error_iff {name : String} {value : Value} {fault : DigitOverflow} :
    descend name value = .error fault ↔
      (∃ items, value = .list items) ∧ isDigits name = true ∧
        digitLimit < name.toList.length ∧ fault = .reading name.toList.length := by
  cases value with
  | list items =>
      by_cases digits : isDigits name = true
      · by_cases beyond : digitLimit < name.toList.length
        · simp [descend, readDigits, digits, beyond, Except.map, eq_comm]
        · simp [descend, readDigits, digits, beyond, Except.map]
      · simp [descend, digits]
  | _ => simp [descend]

/-- Only a segment of digits beyond the limit fails as a step, and only from a list. -/
theorem reach_error_iff {step : Step} {value : Value} {fault : DigitOverflow} :
    step.reach value = .error fault ↔
      ∃ name items, step = .key name ∧ value = .list items ∧ isDigits name = true ∧
        digitLimit < name.toList.length ∧ fault = .reading name.toList.length := by
  cases step with
  | key name =>
      rw [Step.reach, map_error_iff, descend_error_iff]
      simp
  | index expression => cases value <;> simp [Step.reach]

/-! ## Rows of steps -/

theorem overruns_of_follow {steps : List Step} {value : Value} {fault : DigitOverflow}
    (fails : follow steps value = .error fault) :
    ∃ count, fault = .reading count ∧ Overruns steps value count := by
  induction steps generalizing value with
  | nil => cases fails
  | cons step rest hypothesis =>
      rw [follow_cons] at fails
      cases reaches : step.reach value with
      | error overflow =>
          rw [reaches] at fails
          cases fails
          rcases reach_error_iff.mp reaches with ⟨name, items, rfl, rfl, digits, beyond, rfl⟩
          exact ⟨_, rfl, .here digits beyond rest items⟩
      | ok reach =>
          rw [reaches] at fails
          cases reach with
          | nowhere => cases fails
          | place next =>
              rcases hypothesis fails with ⟨count, isCount, later⟩
              exact ⟨count, isCount, .place reaches later⟩
          | every items =>
              rcases mapM_error (map_error_iff.mp fails) with ⟨item, member, failsThere⟩
              rcases hypothesis failsThere with ⟨count, isCount, later⟩
              exact ⟨count, isCount, .item reaches member later⟩

theorem follow_of_overruns {steps : List Step} {value : Value} {count : Nat}
    (overruns : Overruns steps value count) : ∃ fault, follow steps value = .error fault := by
  induction overruns with
  | @here name digits beyond rest items =>
      have reaches : (Step.key name).reach (.list items) = .error (.reading name.toList.length) :=
        reach_error_iff.mpr ⟨name, items, rfl, rfl, digits, beyond, rfl⟩
      exact ⟨_, by rw [follow_cons, reaches]; rfl⟩
  | place reaches _ hypothesis =>
      rcases hypothesis with ⟨fault, fails⟩
      exact ⟨fault, by rw [follow_cons, reaches]; exact fails⟩
  | @item step rest value item items _ reaches member _ hypothesis =>
      rcases hypothesis with ⟨_, failsThere⟩
      -- An earlier item may fail first, with another number.
      cases maps : items.mapM (follow rest) with
      | error fault =>
          refine ⟨fault, ?_⟩
          rw [follow_cons, reaches]
          exact map_error_iff.mpr maps
      | ok found =>
          rcases mapM_ok_iff.mp ⟨found, maps⟩ item member with ⟨located, follows⟩
          rw [failsThere] at follows
          cases follows

theorem follow_error_iff {steps : List Step} {value : Value} :
    (∃ fault, follow steps value = .error fault) ↔ ∃ count, Overruns steps value count := by
  constructor
  · rintro ⟨fault, fails⟩
    rcases overruns_of_follow fails with ⟨count, _, overruns⟩
    exact ⟨count, overruns⟩
  · rintro ⟨count, overruns⟩
    exact follow_of_overruns overruns

end ImageCatalog.Path
