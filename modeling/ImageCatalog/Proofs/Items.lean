import Mathlib.Algebra.Ring.Nat
import Mathlib.Data.List.Basic

/-!
# Items of a list

Facts about lists for which the library has no lemmas: what changing the item at one position does
to all items, to their images and to the sum of their weights, what a step for every item in turn
does to the list, and how a list can be split in two.
-/

namespace ImageCatalog.Items

variable {Item Image : Type}

theorem forall_mem_modify {holds : Item → Prop} {items : List Item} {position : Nat}
    {change : Item → Item} (all : ∀ item ∈ items, holds item)
    (changed : ∀ item, items[position]? = some item → holds (change item)) :
    ∀ item ∈ items.modify position change, holds item := by
  induction items generalizing position with
  | nil => simp
  | cons first rest hypothesis =>
      simp only [List.forall_mem_cons] at all
      cases position with
      | zero =>
          simp only [List.modify_zero_cons, List.forall_mem_cons]
          exact ⟨changed first rfl, all.2⟩
      | succ position =>
          simp only [List.modify_succ_cons, List.forall_mem_cons]
          exact ⟨all.1, hypothesis all.2 changed⟩

theorem map_modify_eq {image : Item → Image} {change : Item → Item}
    (keeps : ∀ item, image (change item) = image item) (items : List Item) (position : Nat) :
    (items.modify position change).map image = items.map image := by
  induction items generalizing position with
  | nil => simp
  | cons first rest hypothesis =>
      cases position with
      | zero => simp [keeps]
      | succ position => simp [hypothesis]

theorem sum_modify {weight : Item → Nat} {items : List Item} {position : Nat}
    {change : Item → Item} {item : Item} (present : items[position]? = some item)
    (lighter : weight (change item) + 1 = weight item) :
    ((items.modify position change).map weight).sum + 1 = (items.map weight).sum := by
  induction items generalizing position with
  | nil => simp at present
  | cons first rest hypothesis =>
      cases position with
      | zero =>
          simp only [List.getElem?_cons_zero, Option.some.injEq] at present
          subst present
          simp only [List.modify_zero_cons, List.map_cons, List.sum_cons]
          omega
      | succ position =>
          have lighterRest := hypothesis (by simpa using present)
          simp only [List.modify_succ_cons, List.map_cons, List.sum_cons]
          omega

theorem sum_map_eq_zero_iff {weight : Item → Nat} {items : List Item} :
    (items.map weight).sum = 0 ↔ ∀ item ∈ items, weight item = 0 := by
  simp [List.sum_eq_zero_iff_forall_eq_nat]

theorem pairwise_zipIdx (items : List Item) :
    items.zipIdx.Pairwise fun entry later => entry.2 < later.2 := by
  have positions : (items.zipIdx.map Prod.snd).Pairwise (· < ·) := by
    rw [List.zipIdx_map_snd]
    exact List.pairwise_lt_range'
  exact List.pairwise_map.mp positions

theorem modify_append_cons (change : Item → Item) (before : List Item) (item : Item)
    (after : List Item) :
    (before ++ item :: after).modify before.length change = before ++ change item :: after := by
  induction before with
  | nil => rfl
  | cons first rest hypothesis => simp [hypothesis]

/-- A step for every item of a list changes the items one after the other. -/
theorem foldl_zipIdx {State : Type} (state : List Item → State)
    {step : State → Item × Nat → State} {change : Item → Item}
    (each : ∀ before item after, step (state (before ++ item :: after)) (item, before.length) =
      state (before ++ change item :: after)) (before items : List Item) :
    (items.zipIdx before.length).foldl step (state (before ++ items)) =
      state (before ++ items.map change) := by
  induction items generalizing before with
  | nil => rfl
  | cons item rest hypothesis =>
      rw [List.zipIdx_cons, List.foldl_cons, each]
      have onward := hypothesis (before ++ [change item])
      simpa using onward

/-- Where every item has an image, none is left out. -/
theorem getElem?_filterMap {image? : Item → Option Image} {items : List Item}
    (each : ∀ item ∈ items, (image? item).isSome = true) (index : Nat) :
    (items.filterMap image?)[index]? = items[index]?.bind image? := by
  induction items generalizing index with
  | nil => simp
  | cons first rest hypothesis =>
      rw [List.forall_mem_cons] at each
      rcases Option.isSome_iff_exists.mp each.1 with ⟨image, found⟩
      rw [List.filterMap_cons_some found]
      cases index with
      | zero => simp [found]
      | succ index => simpa using hypothesis each.2 index

/-! ## Splitting a list in two -/

theorem forall_split_cons {holds : List Item → Prop} {first : Item} {rest : List Item} :
    (∀ before later, first :: rest = before ++ later → holds before) ↔
      holds [] ∧ ∀ before later, rest = before ++ later → holds (first :: before) := by
  constructor
  · intro all
    refine ⟨all [] (first :: rest) rfl, fun before later split => ?_⟩
    exact all (first :: before) later (by rw [split, List.cons_append])
  · rintro ⟨atOnce, further⟩ before later split
    cases before with
    | nil => exact atOnce
    | cons earliest before =>
        cases split
        exact further before later rfl

theorem forall_split_item_cons {holds : List Item → Item → Prop} {first : Item}
    {rest : List Item} :
    (∀ before item later, first :: rest = before ++ item :: later → holds before item) ↔
      holds [] first ∧
        ∀ before item later, rest = before ++ item :: later → holds (first :: before) item := by
  constructor
  · intro all
    refine ⟨all [] first rest rfl, fun before item later split => ?_⟩
    exact all (first :: before) item later (by rw [split, List.cons_append])
  · rintro ⟨atOnce, further⟩ before item later split
    cases before with
    | nil =>
        cases split
        exact atOnce
    | cons earliest before =>
        cases split
        exact further before item later rfl

/-- A place in a list that is one item longer is either the last one or a place in the list. -/
theorem concat_eq_append_cons {items before later : List Item} {item last : Item} :
    items ++ [last] = before ++ item :: later ↔
      (before = items ∧ item = last ∧ later = []) ∨
        ∃ rest, later = rest ++ [last] ∧ items = before ++ item :: rest := by
  constructor
  · intro equal
    rcases List.eq_nil_or_concat later with rfl | ⟨rest, final, rfl⟩
    · have parts := List.append_inj' equal rfl
      simp only [List.cons.injEq, and_true] at parts
      exact .inl ⟨parts.1.symm, parts.2.symm, rfl⟩
    · have split : items ++ [last] = (before ++ item :: rest) ++ [final] := by
        simpa using equal
      have parts := List.append_inj' split rfl
      simp only [List.cons.injEq, and_true] at parts
      exact .inr ⟨rest, by simp [parts.2], parts.1⟩
  · rintro (⟨rfl, rfl, rfl⟩ | ⟨rest, rfl, rfl⟩)
    · rfl
    · simp

/-- The last item of a kind in a list. -/
theorem exists_last_of_filter {isKind : Item → Bool} {items front : List Item}
    {last : Item} (chosen : items.filter isKind = front ++ [last]) :
    ∃ before after, items = before ++ last :: after ∧ isKind last = true ∧
      ∀ item ∈ after, isKind item = false := by
  rcases List.filter_eq_append_iff.mp chosen with ⟨early, late, rfl, _, kind⟩
  rcases List.filter_eq_cons_iff.mp kind with ⟨between, after, rfl, _, isLast, none⟩
  refine ⟨early ++ between, after, by simp, isLast, ?_⟩
  simpa [List.filter_eq_nil_iff] using none

end ImageCatalog.Items
