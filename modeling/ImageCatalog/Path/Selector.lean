import ImageCatalog.Number.Literal
import ImageCatalog.Text.Split

/-!
# Selecting from a list

The expression of a bracket selects every item (`*`), the items at the places of a slice
(`first:limit:stride`, each part optional), or the item at one place. Places may be negative and
then count from the end of the list. A slice never fails: its bounds are moved into the list first.
-/

namespace ImageCatalog.Path

open Number Text

/-- The bounds and the stride of a slice, as far as they are given. -/
structure Slice where
  first : Option Int
  limit : Option Int
  stride : Option Int
deriving DecidableEq, Repr

namespace Slice

/-- The distance between two neighbouring places. -/
def step (slice : Slice) : Int :=
  slice.stride.getD 1

/-- A bound moved into a list of the given length: negative ones count from its end, and all are
kept between `low` and `high`. -/
def clamp (length low high bound : Int) : Int :=
  max low (min high (if bound < 0 then bound + length else bound))

/-- The least place that a bound is moved to. -/
def lowest (slice : Slice) : Int :=
  if slice.step < 0 then -1 else 0

/-- The greatest place that a bound is moved to. -/
def highest (slice : Slice) (length : Nat) : Int :=
  if slice.step < 0 then length - 1 else length

/-- The place of the first selected item. -/
def start (slice : Slice) (length : Nat) : Int :=
  match slice.first with
  | some bound => clamp length slice.lowest (slice.highest length) bound
  | none => if slice.step < 0 then slice.highest length else slice.lowest

/-- The place at which the selection stops. -/
def stop (slice : Slice) (length : Nat) : Int :=
  match slice.limit with
  | some bound => clamp length slice.lowest (slice.highest length) bound
  | none => if slice.step < 0 then slice.lowest else slice.highest length

/-- The number of selected items. -/
def count (slice : Slice) (length : Nat) : Nat :=
  let span :=
    if slice.step < 0 then slice.start length - slice.stop length
    else slice.stop length - slice.start length
  let width := slice.step.natAbs
  if span ≤ 0 || width = 0 then 0 else (span.toNat - 1) / width + 1

/-- The places of the selected items in order. -/
def places (slice : Slice) (length : Nat) : List Int :=
  (List.range (slice.count length)).map fun (index : Nat) => slice.start length + index * slice.step

/-- The selected items. -/
def select {Item : Type} (slice : Slice) (items : List Item) : List Item :=
  (slice.places items.length).filterMap fun place => items[place.toNat]?

end Slice

/-- What the expression of a bracket selects. -/
inductive Selector
  | every
  | slice (bounds : Slice)
  | place (index : Int)
deriving DecidableEq, Repr

/-- One part of a slice: a number, or nothing. -/
def readBound? (chars : List Char) : Option (Option Int) :=
  if chars.all isBlank then some none else (readWhole? chars).map some

/-- The slice of the parts between the colons; a stride of zero selects nothing. -/
def readSlice? (parts : List (List Char)) : Option Slice := do
  let bounds ← parts.mapM readBound?
  match bounds with
  | [first] => return ⟨first, none, none⟩
  | [first, limit] => return ⟨first, limit, none⟩
  | [first, limit, stride] => if stride = some 0 then none else return ⟨first, limit, stride⟩
  | _ => none

/-- The selector of the expression of a bracket. -/
def Selector.read? (expression : String) : Option Selector :=
  let chars := expression.toList
  if chars = ['*'] then some .every
  else if chars.contains ':' then (readSlice? (splitAtChar ':' chars)).map .slice
  else (readWhole? chars).map .place

theorem Selector.read?_eq_every_iff (expression : String) :
    Selector.read? expression = some .every ↔ expression = "*" := by
  unfold Selector.read?
  simp only
  split
  · next star => simpa using String.toList_inj.mp star
  · next other =>
    constructor
    · intro every
      split at every <;> simp [Option.map_eq_some_iff] at every
    · rintro rfl
      simp at other

/-- The item at a place, which counts from the end if it is negative. -/
def itemAt? {Item : Type} (index : Int) (items : List Item) : Option Item :=
  let place := if index < 0 then index + items.length else index
  if place < 0 then none else items[place.toNat]?

end ImageCatalog.Path
