import ImageCatalog.Proofs.Path.Composition
import ImageCatalog.Proofs.Value.Document

/-!
# Occurrences of a path

A path describes a row of values in a document: every step into all items of a list multiplies the
places that the rest of the path is followed from, and a place where a step fails contributes null.
`occurrences` lists these values directly, from left to right, without building the nested lists
that following a path builds. The main fact, `leaves_of_follow`, is that both agree: the leaves of
what a path leads to are the occurrences of the path, in order and with repetitions.
-/

namespace ImageCatalog.Path

open Results Text Value

/-- The value of a field: what an object holds under the name, or the item of a list at the place
that the name spells. -/
def child? (name : String) : Value → Option Value
  | .object fields => Entries.find? name fields
  | .list items => if isDigits name then items[digitsToNat name.toList]? else none
  | _ => none

/-- The values that a row of steps leads to, from left to right. A step that fails leads to null. -/
def occurrences : List Step → Value → List Value
  | [], value => leaves value
  | .key name :: rest, value =>
      match child? name value with
      | some next => occurrences rest next
      | none => [.null]
  | .index expression :: rest, .list items =>
      match Selector.read? expression with
      | some .every => items.flatMap (occurrences rest)
      | some (.slice bounds) => occurrences rest (.list (bounds.select items))
      | some (.place index) =>
          match itemAt? index items with
          | some next => occurrences rest next
          | none => [.null]
      | none => [.null]
  | .index _ :: _, _ => [.null]

/-! ## Leaves -/

mutual

theorem isList_of_mem_leaves {value leaf : Value} (member : leaf ∈ leaves value) :
    leaf.isList = false := by
  cases value with
  | list items => exact isList_of_mem_leavesOfItems member
  | _ =>
      rw [leaves, List.mem_singleton] at member
      · rw [member]
        rfl
      · simp

theorem isList_of_mem_leavesOfItems {items : List Value} {leaf : Value}
    (member : leaf ∈ leavesOfItems items) : leaf.isList = false := by
  cases items with
  | nil => simp [leavesOfItems] at member
  | cons item rest =>
      rw [leavesOfItems, List.mem_append] at member
      rcases member with first | later
      · exact isList_of_mem_leaves first
      · exact isList_of_mem_leavesOfItems later

end

/-- A value and its flattened form have the same leaves, which are the items of the latter. -/
theorem toItems_flatten (value : Value) : (flatten value).toItems = leaves value := by
  cases value <;> rfl

/-! ## Rows of steps -/

theorem child?_of_descend {name : String} {value : Value} {found : Option Value}
    (descended : descend name value = .ok found) : child? name value = found := by
  cases value with
  | list items =>
      by_cases digits : isDigits name = true
      · simp only [descend, digits, if_true] at descended
        rcases map_ok descended with ⟨place, read, rfl⟩
        simp only [readDigits] at read
        split at read
        · cases read
        · cases read
          simp [child?, digits]
      · simp only [descend, digits] at descended
        cases descended
        simp [child?, digits]
  | object fields =>
      cases descended
      rfl
  | _ =>
      cases descended
      rfl

namespace Reach

/-- The occurrences of the rest of a path from where a step leads. -/
def occurrences (rest : List Step) : Reach → List Value
  | .nowhere => [.null]
  | .place value => Path.occurrences rest value
  | .every items => items.flatMap (Path.occurrences rest)

end Reach

theorem occurrences_cons {step : Step} {value : Value} {reach : Reach}
    (reaches : step.reach value = .ok reach) (rest : List Step) :
    occurrences (step :: rest) value = reach.occurrences rest := by
  cases step with
  | key name =>
      rcases map_ok reaches with ⟨found, descended, rfl⟩
      have child := child?_of_descend descended
      cases found <;> simp [occurrences, child, Reach.ofOption, Reach.occurrences]
  | index expression =>
      cases value with
      | list items =>
          cases reaches
          rcases read : Selector.read? expression with _ | selector
          · simp [occurrences, read, Reach.occurrences]
          · cases selector with
            | every => simp [occurrences, read, Reach.select, Reach.occurrences]
            | slice bounds => simp [occurrences, read, Reach.select, Reach.occurrences]
            | place index =>
                cases found : itemAt? index items <;>
                  simp [occurrences, read, found, Reach.select, Reach.ofOption, Reach.occurrences]
      | _ =>
          cases reaches
          rfl

theorem leavesOfItems_of_mapM {change : Value → Except DigitOverflow Value}
    {row : Value → List Value}
    (each : ∀ {item located : Value}, change item = .ok located → leaves located = row item)
    {items found : List Value} (maps : items.mapM change = .ok found) :
    leavesOfItems found = items.flatMap row := by
  induction items generalizing found with
  | nil =>
      cases maps
      rfl
  | cons item rest hypothesis =>
      rcases mapM_cons_ok maps with ⟨located, others, first, later, rfl⟩
      rw [leavesOfItems, each first, hypothesis later, List.flatMap_cons]

/-- The leaves of what a row of steps leads to are its occurrences. -/
theorem leaves_of_follow {steps : List Step} {value located : Value}
    (follows : follow steps value = .ok located) : leaves located = occurrences steps value := by
  induction steps generalizing value located with
  | nil =>
      cases follows
      rfl
  | cons step rest hypothesis =>
      rw [follow_cons] at follows
      cases reaches : step.reach value with
      | error overflow => simp [reaches, Except.bind] at follows
      | ok reach =>
          rw [occurrences_cons reaches]
          simp only [reaches, Except.bind] at follows
          cases reach with
          | nowhere =>
              cases follows
              rfl
          | place next => exact hypothesis follows
          | every items =>
              rcases map_ok follows with ⟨found, maps, rfl⟩
              exact leavesOfItems_of_mapM hypothesis maps

/-- A path without overlong segments leads to its occurrences, once its result is flattened. -/
theorem resolveFlat_ok {path : String} (short : HasShortPlaces path) (document : Value) :
    ∃ flat, resolveFlat document path = .ok flat ∧
      flat.toItems = occurrences (parse path) document := by
  rcases follow_ok short document with ⟨located, follows⟩
  refine ⟨flatten located, ?_, ?_⟩
  · rw [resolveFlat, show resolve document path = .ok located from follows]
    rfl
  · rw [toItems_flatten, leaves_of_follow follows]

/-! ## Parts of the document -/

theorem mem_of_itemAt? {index : Int} {items : List Value} {item : Value}
    (found : itemAt? index items = some item) : item ∈ items := by
  unfold itemAt? at found
  generalize (if index < 0 then index + items.length else index) = place at found
  simp only at found
  split at found
  · cases found
  · exact List.mem_of_getElem? found

theorem mem_of_mem_select {slice : Slice} {items : List Value} {item : Value}
    (member : item ∈ slice.select items) : item ∈ items := by
  rcases List.mem_filterMap.mp member with ⟨place, _, found⟩
  exact List.mem_of_getElem? found

theorem withinLimit_of_child? {name : String} {value next : Value} (within : value.WithinLimit)
    (child : child? name value = some next) : next.WithinLimit := by
  cases value with
  | object fields => exact within.field _ (Entries.mem_of_find? child)
  | list items =>
      simp only [child?] at child
      split at child
      · exact within.item next (List.mem_of_getElem? child)
      · cases child
  | _ => cases child

mutual

theorem withinLimit_of_mem_leaves {value leaf : Value} (within : value.WithinLimit)
    (member : leaf ∈ leaves value) : leaf.WithinLimit := by
  cases value with
  | list items => exact withinLimit_of_mem_leavesOfItems within.item member
  | _ =>
      rw [leaves, List.mem_singleton] at member
      · rwa [member]
      · simp

theorem withinLimit_of_mem_leavesOfItems {items : List Value} {leaf : Value}
    (within : ∀ item ∈ items, item.WithinLimit) (member : leaf ∈ leavesOfItems items) :
    leaf.WithinLimit := by
  cases items with
  | nil => simp [leavesOfItems] at member
  | cons item rest =>
      rw [List.forall_mem_cons] at within
      rw [leavesOfItems, List.mem_append] at member
      rcases member with first | later
      · exact withinLimit_of_mem_leaves within.1 first
      · exact withinLimit_of_mem_leavesOfItems within.2 later

end

/-- An occurrence is a part of the document or null. -/
theorem withinLimit_of_mem_occurrences {steps : List Step} {value found : Value}
    (within : value.WithinLimit) (member : found ∈ occurrences steps value) :
    found.WithinLimit := by
  induction steps generalizing value with
  | nil => exact withinLimit_of_mem_leaves within member
  | cons step rest hypothesis =>
      have null (alone : found ∈ [Value.null]) : found.WithinLimit := by
        rw [List.mem_singleton.mp alone]
        exact .null
      cases step with
      | key name =>
          simp only [occurrences] at member
          split at member
          · next next child => exact hypothesis (withinLimit_of_child? within child) member
          · exact null member
      | index expression =>
          cases value with
          | list items =>
              simp only [occurrences] at member
              split at member
              · rcases List.mem_flatMap.mp member with ⟨item, itemMem, inItem⟩
                exact hypothesis (within.item item itemMem) inItem
              · exact hypothesis
                  (.list _ fun item itemMem => within.item item (mem_of_mem_select itemMem)) member
              · split at member
                · next next found =>
                    exact hypothesis (within.item next (mem_of_itemAt? found)) member
                · exact null member
              · exact null member
          | _ => exact null member

end ImageCatalog.Path
