import ImageCatalog.Path.Selector
import ImageCatalog.Path.Step
import ImageCatalog.Value.Basic
import ImageCatalog.Value.Entries

/-!
# Following a path

`resolve` follows a path into a document. A step that does not fit leads to null, and null leads to
null; after a step into every item of a list the rest of the path is followed from each item, which
gives a list. `flatten` turns the nested lists that arise into one.

A segment of digits selects an item of a list by its place. If it has more digits than a number text
may have, following the path fails; that is the only failure.
-/

namespace ImageCatalog.Path

open Text

/-- The value that a field name leads to, if there is one. -/
def descend (name : String) (value : Value) : Except DigitOverflow (Option Value) :=
  match value with
  | .object fields => .ok (Entries.find? name fields)
  | .list items =>
    if isDigits name then (readDigits name.toList).map fun place => items[place]?
    else .ok none
  | _ => .ok none

/-- Follow the steps of a path from a value. -/
def follow : List Step → Value → Except DigitOverflow Value
  | [], value => .ok value
  | _ :: _, .null => .ok .null
  | .key name :: rest, value => do
    match ← descend name value with
    | some next => follow rest next
    | none => return .null
  | .index expression :: rest, .list items =>
    match Selector.read? expression with
    | some .every => do
      let found ← items.mapM (follow rest)
      return .list found
    | some (.slice bounds) => follow rest (.list (bounds.select items))
    | some (.place index) =>
      match itemAt? index items with
      | some next => follow rest next
      | none => .ok .null
    | none => .ok .null
  | .index _ :: _, _ => .ok .null

/-- The value that a path leads to. -/
def resolve (document : Value) (path : String) : Except DigitOverflow Value :=
  follow (parse path) document

mutual

/-- The values in nested lists that are no lists themselves. -/
def leaves : Value → List Value
  | .list items => leavesOfItems items
  | other => [other]

/-- The leaves of the items of a list. -/
def leavesOfItems : List Value → List Value
  | [] => []
  | item :: rest => leaves item ++ leavesOfItems rest

end

/-- Nested lists as one list; a value of another kind stays as it is. -/
def flatten : Value → Value
  | .list items => .list (leavesOfItems items)
  | other => other

/-- The value that a path leads to, with its nested lists flattened. -/
def resolveFlat (document : Value) (path : String) : Except DigitOverflow Value :=
  (resolve document path).map flatten

end ImageCatalog.Path
