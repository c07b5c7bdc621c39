import ImageCatalog.Proofs.Path.Number
import ImageCatalog.Proofs.Path.Slice

/-!
# Selecting by written places

The bounds of a slice and the places of items are written as decimal texts. They are read as the
numbers that they spell, so that what a path selects from a list can be told from the numbers alone:
a slice the items at the places that it visits, a place the item there, and the place of an item in
a slice the item at the place that the slice visits with that step.
-/

namespace ImageCatalog.Path

open Json Number Results Text

/-! ## Written slices -/

/-- A bound as it stands between colons. -/
def boundChars (bound : Option Int) : List Char :=
  (bound.map intChars).getD []

/-- The text of the bounds of a slice and its stride. -/
def boundsText (bounds : List (Option Int)) : String :=
  String.ofList (joinChars [':'] (bounds.map boundChars))

def Slice.expression (slice : Slice) : String :=
  boundsText [slice.first, slice.limit, slice.stride]

def Slice.IsShort (slice : Slice) : Prop :=
  ∀ bound ∈ [slice.first, slice.limit, slice.stride], ∀ number ∈ bound, Path.IsShort number

theorem not_mem_boundChars {char : Char} (bound : Option Int) (other : char.isDigit = false)
    (unsigned : char ≠ '-') : char ∉ boundChars bound := by
  cases bound with
  | none => simp [boundChars]
  | some number => exact not_mem_intChars number other unsigned

theorem isInk_boundChars (bound : Option Int) : ∀ char ∈ boundChars bound, IsInk char := by
  cases bound with
  | none => simp [boundChars]
  | some number => exact isInk_intChars number

theorem isExpression_boundsText (bounds : List (Option Int)) :
    IsExpression (boundsText bounds) := by
  have absent {char : Char} (other : char.isDigit = false) (unsigned : char ≠ '-')
      (inBound : char ≠ ':') : char ∉ (boundsText bounds).toList := by
    intro member
    rw [boundsText, String.toList_ofList] at member
    rcases mem_joinChars member with colon | ⟨piece, pieceMem, inPiece⟩
    · exact inBound (List.mem_singleton.mp colon)
    · rcases List.mem_map.mp pieceMem with ⟨bound, _, rfl⟩
      exact not_mem_boundChars bound other unsigned inPiece
  apply isExpression_of_isInk
  · intro char member
    rw [boundsText, String.toList_ofList] at member
    rcases mem_joinChars member with colon | ⟨piece, pieceMem, inPiece⟩
    · rw [List.mem_singleton.mp colon]
      decide
    · rcases List.mem_map.mp pieceMem with ⟨bound, _, rfl⟩
      exact isInk_boundChars bound char inPiece
  · exact absent rfl (by decide) (by decide)
  · exact absent rfl (by decide) (by decide)

theorem Slice.isExpression (slice : Slice) : IsExpression slice.expression :=
  isExpression_boundsText _

theorem readBound?_boundChars {bound : Option Int} (short : ∀ number ∈ bound, IsShort number) :
    readBound? (boundChars bound) = some bound := by
  cases bound with
  | none => rfl
  | some number =>
      have visible : (intChars number).all isBlank = false := by
        rw [List.all_eq_false]
        rcases List.exists_mem_of_ne_nil _ (intChars_ne_nil number) with ⟨char, member⟩
        have solid := isBlank_of_isInk (isInk_intChars number char member)
        exact ⟨char, member, by simp [solid]⟩
      have read := readWhole?_intChars (short number rfl)
      simp [readBound?, boundChars, visible, read]

theorem mapM_readBound? {bounds : List (Option Int)}
    (short : ∀ bound ∈ bounds, ∀ number ∈ bound, IsShort number) :
    (bounds.map boundChars).mapM readBound? = some bounds := by
  induction bounds with
  | nil => rfl
  | cons bound rest hypothesis =>
      rw [List.forall_mem_cons] at short
      simp [readBound?_boundChars short.1, hypothesis short.2]

/-- A bracket with a colon in it is a slice with the bounds between its colons. -/
theorem read?_boundsText {first second : Option Int} {others : List (Option Int)} :
    Selector.read? (boundsText (first :: second :: others)) =
      (readSlice? ((first :: second :: others).map boundChars)).map .slice := by
  have chars : (boundsText (first :: second :: others)).toList =
      boundChars first ++ ':' :: joinChars [':'] ((second :: others).map boundChars) := by
    simp [boundsText, joinChars]
  have colon : (boundsText (first :: second :: others)).toList.contains ':' = true := by
    rw [chars]
    simp
  have noStar : (boundsText (first :: second :: others)).toList ≠ ['*'] := by
    intro star
    rw [star] at colon
    cases colon
  have parts : splitAtChar ':' (boundsText (first :: second :: others)).toList =
      (first :: second :: others).map boundChars := by
    rw [boundsText, String.toList_ofList]
    apply splitAtChar_joinChars
    rw [← List.map_cons, List.forall_mem_map]
    intro bound _
    exact not_mem_boundChars bound rfl (by decide)
  rw [Selector.read?]
  simp only [noStar, colon, parts, if_true, if_false]

theorem read?_expression {slice : Slice} (short : slice.IsShort) (moves : slice.stride ≠ some 0) :
    Selector.read? slice.expression = some (.slice slice) := by
  have bounds := mapM_readBound? short
  rw [Slice.expression, read?_boundsText, readSlice?, bounds]
  simp [moves]

theorem read?_neighbours {first limit : Option Int}
    (short : ∀ bound ∈ [first, limit], ∀ number ∈ bound, IsShort number) :
    Selector.read? (boundsText [first, limit]) = some (.slice ⟨first, limit, none⟩) := by
  have bounds := mapM_readBound? short
  rw [read?_boundsText, readSlice?, bounds]
  rfl

/-! ## What is selected -/

variable {expression place : String} {slice : Slice} {index : Int}

theorem resolve_slice (isExpression : IsExpression expression)
    (read : Selector.read? expression = some (.slice slice)) (items : List Value) :
    resolve (.list items) (bracketed expression) = .ok (.list (slice.select items)) := by
  rw [resolve, parse_bracket isExpression]
  simp only [follow, read]

theorem resolve_place (isExpression : IsExpression place)
    (read : Selector.read? place = some (.place index)) (items : List Value) :
    resolve (.list items) (bracketed place) = .ok ((itemAt? index items).getD .null) := by
  rw [resolve, parse_bracket isExpression]
  simp only [follow, read]
  cases itemAt? index items <;> rfl

/-- A place in a bracket behind a slice counts from the start of the slice. -/
theorem resolve_slice_place (isExpression : IsExpression expression)
    (read : Selector.read? expression = some (.slice slice)) (isPlace : IsExpression place)
    (items : List Value) :
    resolve (.list items) (bracketed expression ++ bracketed place) =
      resolve (.list (slice.select items)) (bracketed place) := by
  rw [resolve, parse_bracket_bracket isExpression isPlace, resolve, parse_bracket isPlace]
  simp only [follow, read]

theorem itemAt?_natCast (index : Nat) (items : List Value) :
    itemAt? (index : Int) items = items[index]? := by
  have unsigned : ¬(index : Int) < 0 := by omega
  simp [itemAt?, unsigned]

/-- A place that counts from the end of a list. -/
theorem itemAt?_sub_length {index : Nat} {items : List Value} (inside : index < items.length) :
    itemAt? (index - items.length) items = items[index]? := by
  have signed : (index : Int) - items.length < 0 := by omega
  have counted : (index : Int) - items.length + items.length = index := by omega
  have unsigned : ¬(index : Int) < 0 := by omega
  simp [itemAt?, signed, counted, unsigned]

theorem resolve_decimal {number : Int} (short : IsShort number) (items : List Value) :
    resolve (.list items) (bracketed (decimal number)) =
      .ok ((itemAt? number items).getD .null) :=
  resolve_place (isExpression_decimal number) (read?_decimal short) items

/-- A segment of digits selects the item at the place that it spells. -/
theorem resolve_segment {index : Nat} (short : IsShort index) (items : List Value) :
    resolve (.list items) (decimal index) = .ok (items[index]?.getD .null) := by
  have digits := isDigits_decimal index
  have read : readDigits (decimal index).toList = .ok index := by
    have chars : (decimal index).toList = natDigits index := by
      rw [decimal, String.toList_ofList]
      exact if_neg (by omega)
    have within : (natDigits index).length ≤ digitLimit := length_natDigits_le (by decide) short
    rw [chars, readDigits, if_neg (Nat.not_lt.mpr within), digitsToNat_natDigits]
  rw [resolve, parse_digits digits, follow_cons]
  simp only [Step.reach, descend, digits, read, if_true, Except.map]
  cases items[index]? <;> rfl

/-! ## Slices and places -/

/-- A place behind a slice selects the item that the slice visits with that step. -/
theorem resolve_visited (short : slice.IsShort) (moves : slice.stride ≠ some 0) {step : Nat}
    (shortStep : IsShort step) {items : List Value}
    (shortPlace : IsShort (slice.start items.length + step * slice.step))
    (visited : Before slice.step (slice.start items.length + step * slice.step)
      (slice.stop items.length)) :
    resolve (.list items) (bracketed slice.expression ++ bracketed (decimal step)) =
      resolve (.list items) (bracketed (decimal (slice.start items.length + step * slice.step))) := by
  have inside := (Slice.place_mem visited).1
  have place : (((slice.start items.length + step * slice.step).toNat : Nat) : Int) =
      slice.start items.length + step * slice.step := by omega
  have selected := Slice.getElem?_select (slice.step_ne_zero moves) items step
  rw [if_pos visited, ← itemAt?_natCast, ← itemAt?_natCast, place] at selected
  rw [resolve_slice_place slice.isExpression (read?_expression short moves)
    (isExpression_decimal step), resolve_decimal shortStep, resolve_decimal shortPlace, selected]

theorem resolve_ended (short : slice.IsShort) (moves : slice.stride ≠ some 0) {step : Nat}
    (shortStep : IsShort step) {items : List Value}
    (ended : ¬Before slice.step (slice.start items.length + step * slice.step)
      (slice.stop items.length)) :
    resolve (.list items) (bracketed slice.expression ++ bracketed (decimal step)) = .ok .null := by
  have selected := Slice.getElem?_select (slice.step_ne_zero moves) items step
  rw [if_neg ended, ← itemAt?_natCast] at selected
  rw [resolve_slice_place slice.isExpression (read?_expression short moves)
    (isExpression_decimal step), resolve_decimal shortStep, selected]
  rfl

/-- The two slices at a bound make up the list. -/
theorem resolve_halves {number : Int} (short : IsShort number) (items : List Value) :
    ∃ front back, resolve (.list items) (bracketed (":" ++ decimal number)) = .ok (.list front) ∧
      resolve (.list items) (bracketed (decimal number ++ ":")) = .ok (.list back) ∧
      front ++ back = items := by
  have front : ":" ++ decimal number = boundsText [none, some number] := by
    simp [boundsText, boundChars, joinChars, decimal]
  have back : decimal number ++ ":" = boundsText [some number, none] := by
    simp [boundsText, boundChars, joinChars, decimal]
  have readFront : Selector.read? (boundsText [none, some number]) =
      some (.slice ⟨none, some number, none⟩) := by
    apply read?_neighbours
    simpa using short
  have readBack : Selector.read? (boundsText [some number, none]) =
      some (.slice ⟨some number, none, none⟩) := by
    apply read?_neighbours
    simpa using short
  rw [front, back]
  exact ⟨_, _, resolve_slice (isExpression_boundsText _) readFront items,
    resolve_slice (isExpression_boundsText _) readBack items, Slice.select_append number items⟩

theorem resolve_turned (items : List Value) :
    resolve (.list items) "[::-1]" = .ok (.list items.reverse) := by
  have short : Slice.IsShort ⟨none, none, some (-1)⟩ := by
    simpa [Slice.IsShort] using isShort_of_lt_ten (by decide)
  have turned := resolve_slice (Slice.isExpression _) (read?_expression short (by decide)) items
  rw [Slice.select_reverse] at turned
  exact turned

/-- A slice selects the items from its start on, one step after the other, strictly before its stop;
every place that it visits is in the list, and a place behind it selects the item that it visits
there. The two slices at a bound make up the list, and turning it around twice gives it back. A
place selects the same item as a segment, in a bracket, and counted from the end. -/
theorem resolve_selections (items : List Value) :
    (∀ slice : Slice, slice.IsShort → slice.stride ≠ some 0 →
      let length : Int := items.length
      let step := slice.stride.getD 1
      let low := if step < 0 then -1 else 0
      let high := if step < 0 then length - 1 else length
      let moved := fun bound => max low (min high (if bound < 0 then bound + length else bound))
      let start := (slice.first.map moved).getD (if step < 0 then high else low)
      let stop := (slice.limit.map moved).getD (if step < 0 then low else high)
      ∃ selected, resolve (.list items) (bracketed slice.expression) = .ok (.list selected) ∧
        ∀ index : Nat, let place := start + index * step
          (Before step place stop →
            0 ≤ place ∧ place < length ∧ selected[index]? = items[place.toNat]? ∧
            (IsShort index → IsShort place →
              resolve (.list items) (bracketed slice.expression ++ bracketed (decimal index)) =
                resolve (.list items) (bracketed (decimal place)))) ∧
          (¬Before step place stop →
            selected[index]? = none ∧
            (IsShort index →
              resolve (.list items) (bracketed slice.expression ++ bracketed (decimal index)) =
                .ok .null))) ∧
    (∀ number, IsShort number → ∃ front back,
      resolve (.list items) (bracketed (":" ++ decimal number)) = .ok (.list front) ∧
      resolve (.list items) (bracketed (decimal number ++ ":")) = .ok (.list back) ∧
      front ++ back = items) ∧
    (∃ turned, resolve (.list items) "[::-1]" = .ok (.list turned) ∧
      resolve (.list turned) "[::-1]" = .ok (.list items)) ∧
    ∀ place : Nat, IsShort place →
      (∀ inside : place < items.length,
        resolve (.list items) (decimal place) = .ok items[place] ∧
        resolve (.list items) (bracketed (decimal place)) = .ok items[place] ∧
        (IsShort (place - items.length) →
          resolve (.list items) (bracketed (decimal (place - items.length))) = .ok items[place])) ∧
      (items.length ≤ place →
        resolve (.list items) (decimal place) = .ok .null ∧
        resolve (.list items) (bracketed (decimal place)) = .ok .null) := by
  refine ⟨?_, fun number short => resolve_halves short items, ?_, ?_⟩
  · intro slice short moves length step low high moved start stop
    have isStart : start = slice.start items.length := (slice.start_eq items.length).symm
    have isStop : stop = slice.stop items.length := (slice.stop_eq items.length).symm
    have selects := Slice.getElem?_select (slice.step_ne_zero moves) items
    have resolves := resolve_slice slice.isExpression (read?_expression short moves) items
    refine ⟨slice.select items, resolves, ?_⟩
    intro index
    rw [isStart, isStop]
    constructor
    · intro visited
      have inside := Slice.place_mem visited
      refine ⟨inside.1, inside.2, ?_, ?_⟩
      · exact (selects index).trans (if_pos visited)
      · intro shortIndex shortPlace
        exact resolve_visited short moves shortIndex shortPlace visited
    · intro ended
      refine ⟨(selects index).trans (if_neg ended), ?_⟩
      intro shortIndex
      exact resolve_ended short moves shortIndex ended
  · refine ⟨items.reverse, resolve_turned items, ?_⟩
    have again := resolve_turned items.reverse
    rw [List.reverse_reverse] at again
    exact again
  · intro place short
    rw [resolve_segment short, resolve_decimal short, itemAt?_natCast]
    constructor
    · intro inside
      have found := List.getElem?_eq_getElem inside
      refine ⟨by rw [found]; rfl, by rw [found]; rfl, ?_⟩
      intro shortToo
      rw [resolve_decimal shortToo, itemAt?_sub_length inside, found]
      rfl
    · intro beyond
      rw [List.getElem?_eq_none beyond]
      exact ⟨rfl, rfl⟩

/-- Every other item, backwards from the place 3, and the item at the place 3. -/
theorem resolve_selections_backwards :
    let items : List Value := [.int 0, .int 1, .int 2, .int 3, .int 4]
    let slice : Slice := ⟨some 3, none, some (-2)⟩
    slice.IsShort ∧ slice.stride ≠ some 0 ∧
    (∃ selected, resolve (.list items) "[3::-2]" = .ok (.list selected) ∧
      selected[0]? = some (.int 3) ∧ selected[1]? = some (.int 1) ∧ selected[2]? = none ∧
      resolve (.list items) "[3::-2][1]" = resolve (.list items) "[1]" ∧
      resolve (.list items) "[3::-2][2]" = .ok .null) ∧
    IsShort 3 ∧ resolve (.list items) "3" = .ok (.int 3) ∧
      resolve (.list items) "[3]" = .ok (.int 3) ∧ resolve (.list items) "[-2]" = .ok (.int 3) := by
  intro items slice
  have three : IsShort 3 := isShort_of_lt_ten (by decide)
  have backwards : IsShort (-2) := isShort_of_lt_ten (by decide)
  have short : slice.IsShort := by
    simpa [Slice.IsShort, slice] using ⟨three, backwards⟩
  have moves : slice.stride ≠ some 0 := by decide
  have text : bracketed slice.expression = "[3::-2]" := by decide
  rcases resolve_selections items with ⟨slices, _, _, places⟩
  rcases slices slice short moves with ⟨selected, resolves, visits⟩
  rw [text] at resolves visits
  have first := (visits 0).1 (by decide)
  have second := (visits 1).1 (by decide)
  have ended := (visits 2).2 (by decide)
  have alone := (places 3 three).1 (by decide)
  have noItem := ended.2 (isShort_of_lt_ten (by decide))
  refine ⟨short, moves, ⟨selected, resolves, first.2.2.1, second.2.2.1, ended.1, ?_, noItem⟩,
    three, alone.1, alone.2.1, ?_⟩
  · have sameItem :=
      second.2.2.2 (isShort_of_lt_ten (by decide)) (isShort_of_lt_ten (by decide))
    refine sameItem.trans (congrArg (resolve (.list items)) ?_)
    decide
  · have item := alone.2.2 (isShort_of_lt_ten (by decide))
    have text : bracketed (decimal ((3 : Nat) - items.length)) = "[-2]" := by decide
    rw [text] at item
    exact item

end ImageCatalog.Path
