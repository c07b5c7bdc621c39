import ImageCatalog.Path.Resolve

/-!
# Where one step leads

A step either leads nowhere, or to one value, or to every item of a list; only a number text beyond
the limit makes it fail. `follow_cons` says what following a path means in these terms, and the
lemmas after it are all that later proofs need to know about the kinds of steps.
-/

namespace ImageCatalog.Path

open Text

/-- Where a step leads from a value. -/
inductive Reach
  | nowhere
  | place (value : Value)
  | every (items : List Value)

namespace Reach

/-- The place of a value, if there is one. -/
def ofOption : Option Value → Reach
  | some value => .place value
  | none => .nowhere

/-- Follow the rest of a path from where a step leads. -/
def onward (rest : List Step) : Reach → Except DigitOverflow Value
  | .nowhere => .ok .null
  | .place value => follow rest value
  | .every items => (items.mapM (follow rest)).map Value.list

/-- Where a selector leads from a list. -/
def select (items : List Value) : Selector → Reach
  | .every => .every items
  | .slice bounds => .place (.list (bounds.select items))
  | .place index => ofOption (itemAt? index items)

end Reach

/-- Where a step leads from a value. -/
def Step.reach : Step → Value → Except DigitOverflow Reach
  | .key name, value => (descend name value).map Reach.ofOption
  | .index expression, .list items =>
      .ok (((Selector.read? expression).map (Reach.select items)).getD .nowhere)
  | .index _, _ => .ok .nowhere

theorem follow_cons (step : Step) (rest : List Step) (value : Value) :
    follow (step :: rest) value = (step.reach value).bind (Reach.onward rest) := by
  cases step with
  | key name =>
      have unfolded : follow (.key name :: rest) value =
          (descend name value).bind fun found =>
            match found with
            | some next => follow rest next
            | none => .ok .null := by
        cases value <;> rfl
      rw [unfolded, Step.reach]
      rcases descend name value with overflow | _ | next <;> rfl
  | index expression =>
      cases value with
      | list items =>
          simp only [follow, Step.reach]
          rcases Selector.read? expression with _ | selector
          · rfl
          · cases selector with
            | every => rfl
            | slice bounds => rfl
            | place index =>
                cases found : itemAt? index items <;>
                  simp [Except.bind, Reach.select, Reach.ofOption, Reach.onward, found]
      | _ => rfl

theorem follow_null (steps : List Step) : follow steps .null = .ok .null := by
  cases steps <;> rfl

/-- Only the step `*` leads to every item, and only from the list of these items. -/
theorem eq_star_of_reach_every {step : Step} {value : Value} {items : List Value}
    (reaches : step.reach value = .ok (.every items)) :
    step = .index "*" ∧ value = .list items := by
  cases step with
  | key name =>
      cases descended : descend name value with
      | error overflow => simp [Step.reach, descended, Except.map] at reaches
      | ok found =>
          cases found <;> simp [Step.reach, descended, Except.map, Reach.ofOption] at reaches
  | index expression =>
      cases value with
      | list source =>
          cases read : Selector.read? expression with
          | none => simp [Step.reach, read] at reaches
          | some selector =>
              cases selector with
              | every =>
                  have star := (Selector.read?_eq_every_iff expression).mp read
                  simp only [Step.reach, read, Option.map_some, Option.getD_some, Reach.select,
                    Except.ok.injEq, Reach.every.injEq] at reaches
                  exact ⟨by rw [star], by rw [reaches]⟩
              | slice bounds => simp [Step.reach, read, Reach.select] at reaches
              | place index =>
                  cases found : itemAt? index source <;>
                    simp [Step.reach, read, Reach.select, Reach.ofOption, found] at reaches
      | _ => simp [Step.reach] at reaches

/-- The step `*` never leads to a single place. -/
theorem ne_star_of_reach_place {step : Step} {value next : Value}
    (reaches : step.reach value = .ok (.place next)) : step ≠ .index "*" := by
  rintro rfl
  have star := (Selector.read?_eq_every_iff "*").mpr rfl
  cases value <;> simp [Step.reach, star, Reach.select] at reaches

end ImageCatalog.Path
