import ImageCatalog.Proofs.Path.Failure

/-!
# Composition of paths

A path that is continued by another one leads to what the other one leads to from every place that
the first one reaches. The first path reaches one place unless it goes to every item of a list; each
such step nests the places one level deeper, and `graft` follows the continuation from the places at
that depth. Where the first path has failed on the way there is null instead of a list, and null
stays what it is.

The law holds step by step for rows of steps, and carries over to texts because a point always ends
a segment. A segment of more digits than a number text may have lets both sides fail; the sides may
then name different segments, so that only the results are compared.
-/

namespace ImageCatalog.Path

open Text Results

/-- The number of steps that go to every item of a list. -/
def wildcards (steps : List Step) : Nat :=
  steps.count (.index "*")

/-- Replace the values at a depth of nested lists. Values met before that depth that are no lists
stay as they are. -/
def graft {Fault : Type} (change : Value → Except Fault Value) : Nat → Value → Except Fault Value
  | 0, value => change value
  | depth + 1, .list items => (items.mapM (graft change depth)).map Value.list
  | _ + 1, other => .ok other

/-- Lists nested to a depth, in which null may stand in the place of a list. -/
inductive Nested : Nat → Value → Prop where
  | place (value : Value) : Nested 0 value
  | failed (depth : Nat) : Nested depth .null
  | fan (depth : Nat) (items : List Value) (nested : ∀ item ∈ items, Nested depth item) :
      Nested (depth + 1) (.list items)

/-- Whether a step does not exceed the limit on the digits of numbers when it selects an item. -/
def Step.IsShort : Step → Prop
  | .key name => isDigits name = true → name.toList.length ≤ digitLimit
  | .index _ => True

/-- Whether no segment of digits of a path exceeds the limit on the digits of numbers. -/
def HasShortPlaces (path : String) : Prop :=
  ∀ step ∈ parse path, step.IsShort

/-! ## Rows of steps -/

theorem wildcards_of_reach_every {step : Step} {value : Value} {items : List Value}
    (reaches : step.reach value = .ok (.every items)) (rest : List Step) :
    wildcards (step :: rest) = wildcards rest + 1 := by
  rw [(eq_star_of_reach_every reaches).1]
  simp [wildcards]

theorem wildcards_of_reach_place {step : Step} {value next : Value}
    (reaches : step.reach value = .ok (.place next)) (rest : List Step) :
    wildcards (step :: rest) = wildcards rest :=
  List.count_cons_of_ne (ne_star_of_reach_place reaches)

theorem graft_null {Fault : Type} {change : Value → Except Fault Value}
    (keeps : change .null = .ok .null) (depth : Nat) : graft change depth .null = .ok .null := by
  cases depth with
  | zero => exact keeps
  | succ depth => rfl

/-- Following a row of steps from every item and grafting the results is one pass over the items. -/
theorem mapM_follow_append {first second : List Step}
    (composes : ∀ value, (follow (first ++ second) value).toOption =
      ((follow first value).bind (graft (follow second) (wildcards first))).toOption)
    (items : List Value) :
    (items.mapM (follow (first ++ second))).toOption =
      ((items.mapM (follow first)).bind fun found =>
        found.mapM (graft (follow second) (wildcards first))).toOption := by
  simp only [toOption_bind, toOption_mapM, composes]
  exact mapM_bind _ _ items

/-- Following two rows of steps one after the other means following the second one from every place
that the first one leads to. -/
theorem follow_append (first second : List Step) (value : Value) :
    (follow (first ++ second) value).toOption =
      ((follow first value).bind (graft (follow second) (wildcards first))).toOption := by
  induction first generalizing value with
  | nil => rfl
  | cons step rest hypothesis =>
      rw [List.cons_append, follow_cons, follow_cons]
      cases reaches : step.reach value with
      | error overflow => rfl
      | ok reach =>
          cases reach with
          | nowhere =>
              simp [Except.bind, Reach.onward, graft_null (follow_null second)]
          | place next =>
              rw [wildcards_of_reach_place reaches]
              exact hypothesis next
          | every items =>
              rw [wildcards_of_reach_every reaches]
              simp only [Except.bind, Reach.onward]
              rw [toOption_map, mapM_follow_append hypothesis]
              cases items.mapM (follow rest) with
              | error overflow => rfl
              | ok found => exact (toOption_map Value.list _).symm

/-- What a row of steps leads to is nested as deep as the row has steps into every item. -/
theorem nested_follow {steps : List Step} {value located : Value}
    (follows : follow steps value = .ok located) : Nested (wildcards steps) located := by
  induction steps generalizing value located with
  | nil => exact .place located
  | cons step rest hypothesis =>
      rw [follow_cons] at follows
      cases reaches : step.reach value with
      | error overflow => simp [reaches, Except.bind] at follows
      | ok reach =>
          simp only [reaches, Except.bind] at follows
          cases reach with
          | nowhere =>
              cases follows
              exact .failed _
          | place next =>
              rw [wildcards_of_reach_place reaches]
              exact hypothesis follows
          | every items =>
              rw [wildcards_of_reach_every reaches]
              rcases map_ok follows with ⟨found, maps, rfl⟩
              refine .fan _ found fun item itemMem => ?_
              rcases exists_of_mem_mapM maps itemMem with ⟨source, _, sourceFollows⟩
              exact hypothesis sourceFollows

/-! ## Short segments -/

theorem Overruns.exists_not_isShort {steps : List Step} {value : Value} {count : Nat}
    (overruns : Overruns steps value count) : ∃ step ∈ steps, ¬step.IsShort := by
  induction overruns with
  | @here name digits beyond rest items =>
      refine ⟨.key name, by simp, fun short => ?_⟩
      exact absurd beyond (Nat.not_lt.mpr (short digits))
  | place _ _ hypothesis =>
      rcases hypothesis with ⟨step, member, long⟩
      exact ⟨step, List.mem_cons_of_mem _ member, long⟩
  | item _ _ _ hypothesis =>
      rcases hypothesis with ⟨step, member, long⟩
      exact ⟨step, List.mem_cons_of_mem _ member, long⟩

/-- Following short steps never fails. -/
theorem follow_ok {steps : List Step} (short : ∀ step ∈ steps, step.IsShort) (value : Value) :
    ∃ located, follow steps value = .ok located := by
  cases follows : follow steps value with
  | ok located => exact ⟨located, rfl⟩
  | error fault =>
      rcases overruns_of_follow follows with ⟨count, _, overruns⟩
      rcases overruns.exists_not_isShort with ⟨step, member, long⟩
      exact absurd (short step member) long

/-! ## Texts -/

theorem parse_append (first second : String) :
    parse (first ++ "." ++ second) = parse first ++ parse second := by
  have chars : (first ++ "." ++ second).toList = first.toList ++ '.' :: second.toList := by simp
  simp [parse, parseChars, chars, splitAtChar_append]

/-- A path that is continued after a point leads to what the continuation leads to from every place
of the path; the places sit as deep in the result as the path has steps into every item, and null
stands where the path fails before. Without overlong segments all of it has results. -/
theorem resolve_append (document : Value) (first second : String) :
    parse (first ++ "." ++ second) = parse first ++ parse second ∧
    (∀ steps others : List Step, (follow (steps ++ others) document).toOption =
      ((follow steps document).bind (graft (follow others) (wildcards steps))).toOption) ∧
    (resolve document (first ++ "." ++ second)).toOption =
      ((resolve document first).bind
        (graft (resolve · second) (wildcards (parse first)))).toOption ∧
    (HasShortPlaces first → HasShortPlaces second →
      ∃ located value,
        resolve document first = .ok located ∧
        Nested (wildcards (parse first)) located ∧
        graft (resolve · second) (wildcards (parse first)) located = .ok value ∧
        resolve document (first ++ "." ++ second) = .ok value) := by
  have composes : (resolve document (first ++ "." ++ second)).toOption =
      ((resolve document first).bind
        (graft (resolve · second) (wildcards (parse first)))).toOption := by
    unfold resolve
    rw [parse_append]
    exact follow_append (parse first) (parse second) document
  refine ⟨parse_append first second, fun steps others => follow_append steps others document,
    composes, fun firstShort secondShort => ?_⟩
  have short : ∀ step ∈ parse (first ++ "." ++ second), step.IsShort := by
    intro step stepMem
    rw [parse_append] at stepMem
    exact (List.mem_append.mp stepMem).elim (firstShort step) (secondShort step)
  rcases follow_ok firstShort document with ⟨located, locates⟩
  rcases follow_ok short document with ⟨value, follows⟩
  have grafted : (graft (resolve · second) (wildcards (parse first)) located).toOption =
      some value := by
    rw [show resolve document first = .ok located from locates,
      show resolve document (first ++ "." ++ second) = .ok value from follows] at composes
    exact composes.symm
  exact ⟨located, value, locates, nested_follow locates, eq_ok_of_toOption grafted, follows⟩

/-- Two answers in a list, of which only the first has the field that the continuation asks for. -/
theorem resolve_append_images :
    let document := Value.object [("images", .list [.object [("url", .text "a")], .null])]
    HasShortPlaces "images[*]" ∧ HasShortPlaces "url" ∧
      resolve document ("images[*]" ++ "." ++ "url") = .ok (.list [.text "a", .null]) ∧
      ∃ located value,
        resolve document "images[*]" = .ok located ∧
        Nested (wildcards (parse "images[*]")) located ∧
        graft (resolve · "url") (wildcards (parse "images[*]")) located = .ok value ∧
        resolve document ("images[*]" ++ "." ++ "url") = .ok value := by
  intro document
  have firstShort : HasShortPlaces "images[*]" := by
    have steps : parse "images[*]" = [.key "images", .index "*"] := by decide
    simp [HasShortPlaces, steps, Step.IsShort, digitLimit]
  have secondShort : HasShortPlaces "url" := by
    have steps : parse "url" = [.key "url"] := by decide
    simp [HasShortPlaces, steps, Step.IsShort, digitLimit]
  exact ⟨firstShort, secondShort, rfl,
    (resolve_append document "images[*]" "url").2.2.2 firstShort secondShort⟩

end ImageCatalog.Path
