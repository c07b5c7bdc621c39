import ImageCatalog.Path.Selector
import ImageCatalog.Proofs.Items

/-!
# Items of a slice

A slice visits the places from its start on, one step after the other, as long as they lie before
its stop in the direction of the step. The bounds are moved so that every place that is visited is a
place of the list; hence no item is left out, and the items are found at the places in their order.
-/

namespace ImageCatalog.Path

/-- Whether a place comes strictly before another one in the direction of a step. -/
def Before (step place stop : Int) : Prop :=
  if step < 0 then stop < place else place < stop

instance (step place stop : Int) : Decidable (Before step place stop) :=
  inferInstanceAs (Decidable (if step < 0 then stop < place else place < stop))

namespace Slice

variable {Item : Type} {slice : Slice}

/-! ## Bounds -/

theorem step_ne_zero (slice : Slice) (moves : slice.stride ≠ some 0) : slice.step ≠ 0 := by
  unfold step
  cases given : slice.stride with
  | none => decide
  | some stride =>
      rintro rfl
      exact moves given

theorem start_eq (slice : Slice) (length : Nat) :
    slice.start length =
      (slice.first.map (clamp length slice.lowest (slice.highest length))).getD
        (if slice.step < 0 then slice.highest length else slice.lowest) := by
  unfold start
  cases slice.first <;> rfl

theorem stop_eq (slice : Slice) (length : Nat) :
    slice.stop length =
      (slice.limit.map (clamp length slice.lowest (slice.highest length))).getD
        (if slice.step < 0 then slice.lowest else slice.highest length) := by
  unfold stop
  cases slice.limit <;> rfl

theorem clamp_mem {length low high : Int} (ordered : low ≤ high) (bound : Int) :
    low ≤ clamp length low high bound ∧ clamp length low high bound ≤ high := by
  unfold clamp
  omega

theorem lowest_le_highest (slice : Slice) (length : Nat) :
    slice.lowest ≤ slice.highest length := by
  unfold lowest highest
  split <;> omega

theorem start_mem (slice : Slice) (length : Nat) :
    slice.lowest ≤ slice.start length ∧ slice.start length ≤ slice.highest length := by
  have ordered := slice.lowest_le_highest length
  unfold start
  split
  · exact clamp_mem ordered _
  · split <;> omega

theorem stop_mem (slice : Slice) (length : Nat) :
    slice.lowest ≤ slice.stop length ∧ slice.stop length ≤ slice.highest length := by
  have ordered := slice.lowest_le_highest length
  unfold stop
  split
  · exact clamp_mem ordered _
  · split <;> omega

/-! ## Places -/

/-- The number of steps of some width that stay within a span. -/
theorem lt_rounds_iff {width : Nat} (positive : 0 < width) (span : Int) (index : Nat) :
    index < (if span ≤ 0 || width = 0 then 0 else (span.toNat - 1) / width + 1) ↔
      ((index * width : Nat) : Int) < span := by
  by_cases empty : span ≤ 0
  · simp only [empty, decide_true, Bool.true_or, if_true]
    omega
  · have wide : width ≠ 0 := by omega
    simp only [empty, wide, decide_false, Bool.or_false, Bool.false_eq_true, if_false]
    rw [Nat.lt_succ_iff, Nat.le_div_iff_mul_le positive]
    omega

theorem lt_count_iff (moves : slice.step ≠ 0) (length index : Nat) :
    index < slice.count length ↔
      Before slice.step (slice.start length + index * slice.step) (slice.stop length) := by
  have positive : 0 < slice.step.natAbs := by omega
  have rounds := fun span => lt_rounds_iff positive span index
  simp only [Int.natCast_mul] at rounds
  unfold count Before
  split
  · next back =>
      have width : (slice.step.natAbs : Int) = -slice.step := by omega
      rw [rounds, width, Int.mul_neg]
      omega
  · next onward =>
      have width : (slice.step.natAbs : Int) = slice.step := by omega
      rw [rounds, width]
      omega

theorem place_mem {length index : Nat}
    (before : Before slice.step (slice.start length + index * slice.step) (slice.stop length)) :
    0 ≤ slice.start length + index * slice.step ∧
      slice.start length + index * slice.step < length := by
  have first := slice.start_mem length
  have last := slice.stop_mem length
  have forward : 0 ≤ (index : Int) := Int.natCast_nonneg index
  unfold Before at before
  unfold lowest highest at first last
  split at before
  · next back =>
      have behind := Int.mul_nonpos_of_nonneg_of_nonpos forward (Int.le_of_lt back)
      simp only [back, if_true] at first last
      omega
  · next onward =>
      have ahead := Int.mul_nonneg forward (Int.not_lt.mp onward)
      simp only [onward, if_false] at first last
      omega

theorem getElem?_places (moves : slice.step ≠ 0) (length index : Nat) :
    (slice.places length)[index]? =
      if Before slice.step (slice.start length + index * slice.step) (slice.stop length) then
        some (slice.start length + index * slice.step)
      else none := by
  simp only [places, List.getElem?_map, ← lt_count_iff moves]
  split
  · next visited => simp [visited]
  · next ended => simp [ended]

/-- Every place that is visited is a place of the list. -/
theorem mem_range_of_mem_places (moves : slice.step ≠ 0) {length : Nat} {place : Int}
    (member : place ∈ slice.places length) : 0 ≤ place ∧ place < length := by
  rcases List.mem_map.mp member with ⟨index, counted, rfl⟩
  exact place_mem ((lt_count_iff moves length index).mp (List.mem_range.mp counted))

/-! ## Items -/

/-- The items are those at the places that are visited, one after the other. -/
theorem getElem?_select (moves : slice.step ≠ 0) (items : List Item) (index : Nat) :
    (slice.select items)[index]? =
      if Before slice.step (slice.start items.length + index * slice.step)
          (slice.stop items.length) then
        items[(slice.start items.length + index * slice.step).toNat]?
      else none := by
  have each : ∀ place ∈ slice.places items.length, (items[place.toNat]?).isSome = true := by
    intro place member
    have inside := mem_range_of_mem_places moves member
    rw [List.getElem?_eq_getElem (by omega)]
    rfl
  rw [select, Items.getElem?_filterMap each, getElem?_places moves]
  split <;> rfl

/-- A slice of neighbouring items. -/
theorem select_eq_drop_take (onward : slice.step = 1) (items : List Item) :
    slice.select items = (items.take (slice.stop items.length).toNat).drop
      (slice.start items.length).toNat := by
  have moves : slice.step ≠ 0 := by omega
  have low := (slice.start_mem items.length).1
  rw [lowest, onward] at low
  apply List.ext_getElem?
  intro index
  have place : (slice.start items.length + index).toNat =
      (slice.start items.length).toNat + index := by omega
  have inside : slice.start items.length + index < slice.stop items.length ↔
      (slice.start items.length).toNat + index < (slice.stop items.length).toNat := by omega
  rw [getElem?_select moves, List.getElem?_drop, List.getElem?_take]
  simp only [Before, onward, Int.mul_one, place, inside]
  rfl

/-- What a bound leaves out of a slice on its one side is the slice on its other side. -/
theorem select_append (bound : Int) (items : List Item) :
    select ⟨none, some bound, none⟩ items ++ select ⟨some bound, none, none⟩ items = items := by
  have same : stop ⟨none, some bound, none⟩ items.length =
      start ⟨some bound, none, none⟩ items.length := rfl
  have first : start ⟨none, some bound, none⟩ items.length = 0 := rfl
  have last : stop ⟨some bound, none, none⟩ items.length = items.length := rfl
  rw [select_eq_drop_take rfl, select_eq_drop_take rfl, same, first, last]
  simp

theorem select_reverse (items : List Item) : select ⟨none, none, some (-1)⟩ items = items.reverse := by
  have moves : step ⟨none, none, some (-1)⟩ ≠ 0 := by decide
  apply List.ext_getElem?
  intro index
  have first : start ⟨none, none, some (-1)⟩ items.length = items.length - 1 := rfl
  have last : stop ⟨none, none, some (-1)⟩ items.length = -1 := rfl
  have back : step ⟨none, none, some (-1)⟩ = -1 := rfl
  rw [getElem?_select moves, first, last, back]
  by_cases inside : index < items.length
  · have place : ((items.length : Int) - 1 + index * -1).toNat = items.length - 1 - index := by omega
    have visited : Before (-1) (items.length - 1 + index * -1) (-1) := by
      rw [Before, if_pos (by decide)]
      omega
    rw [if_pos visited, place, List.getElem?_reverse inside]
  · have ended : ¬Before (-1) (items.length - 1 + index * -1) (-1) := by
      rw [Before, if_pos (by decide)]
      omega
    rw [if_neg ended, List.getElem?_eq_none]
    rw [List.length_reverse]
    omega

end Slice

end ImageCatalog.Path
