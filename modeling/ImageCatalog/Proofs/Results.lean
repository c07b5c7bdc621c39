import Mathlib.Data.List.Forall2

/-!
# Rows of results

Facts about computations that give a result or fail, for which the library has no lemmas: what
remains of them when the faults are forgotten, and what they do along a list.
-/

namespace ImageCatalog.Results

variable {Fault Source Middle Target : Type}

theorem ok_ne_error {value : Target} {fault : Fault} :
    (.ok value : Except Fault Target) ≠ .error fault := nofun

theorem toOption_bind (result : Except Fault Source) (next : Source → Except Fault Target) :
    (result.bind next).toOption = result.toOption.bind fun value => (next value).toOption := by
  cases result <;> rfl

theorem toOption_map (change : Source → Target) (result : Except Fault Source) :
    (result.map change).toOption = result.toOption.map change := by
  cases result <;> rfl

theorem toOption_mapM (change : Source → Except Fault Target) (items : List Source) :
    (items.mapM change).toOption = items.mapM fun item => (change item).toOption := by
  induction items with
  | nil => rfl
  | cons item rest step =>
      simp only [List.mapM_cons]
      rw [← step]
      cases change item with
      | error fault => rfl
      | ok found => cases rest.mapM change <;> rfl

theorem eq_ok_of_toOption {result : Except Fault Target} {value : Target}
    (found : result.toOption = some value) : result = .ok value := by
  cases result with
  | error fault => simp [Except.toOption] at found
  | ok other => simpa [Except.toOption] using found

theorem map_ok {change : Source → Target} {result : Except Fault Source} {target : Target}
    (maps : result.map change = .ok target) :
    ∃ source, result = .ok source ∧ change source = target := by
  cases result with
  | error fault => simp [Except.map] at maps
  | ok source => exact ⟨source, rfl, by simpa [Except.map] using maps⟩

theorem map_error_iff {change : Source → Target} {result : Except Fault Source} {fault : Fault} :
    result.map change = .error fault ↔ result = .error fault := by
  cases result <;> simp [Except.map]

theorem mapError_ok {Other : Type} {change : Fault → Other} {result : Except Fault Target}
    {target : Target} (maps : result.mapError change = .ok target) : result = .ok target := by
  cases result with
  | error fault => cases maps
  | ok other =>
      cases maps
      rfl

theorem mapError_error {Other : Type} {change : Fault → Other} {result : Except Fault Target}
    {other : Other} (maps : result.mapError change = .error other) :
    ∃ fault, result = .error fault ∧ change fault = other := by
  cases result with
  | error fault => exact ⟨fault, rfl, Except.error.inj maps⟩
  | ok target => cases maps

@[simp]
theorem mapError_of_ok {Other : Type} (change : Fault → Other) (target : Target) :
    (.ok target : Except Fault Target).mapError change = .ok target :=
  rfl

theorem bind_ok {next : Source → Except Fault Target} {result : Except Fault Source}
    {target : Target} (binds : result >>= next = .ok target) :
    ∃ source, result = .ok source ∧ next source = .ok target := by
  cases result with
  | error fault => cases binds
  | ok source => exact ⟨source, rfl, binds⟩

theorem bind_error {next : Source → Except Fault Target} {result : Except Fault Source}
    {fault : Fault} (binds : result >>= next = .error fault) :
    result = .error fault ∨ ∃ source, result = .ok source ∧ next source = .error fault := by
  cases result with
  | error other =>
      cases binds
      exact .inl rfl
  | ok source => exact .inr ⟨source, rfl, binds⟩

/-- Going through a list once with two changes is as good as going through it twice. -/
theorem mapM_bind (first : Source → Option Middle) (second : Middle → Option Target)
    (items : List Source) :
    (items.mapM fun item => (first item).bind second) =
      (items.mapM first).bind fun found => found.mapM second := by
  induction items with
  | nil => rfl
  | cons item rest step =>
      simp only [List.mapM_cons, step]
      cases found : first item with
      | none => rfl
      | some middle =>
          cases others : rest.mapM first with
          | none => cases second middle <;> simp
          | some middles => simp

theorem mapM_cons_ok {change : Source → Except Fault Target} {item : Source} {rest : List Source}
    {found : List Target} (maps : (item :: rest).mapM change = .ok found) :
    ∃ target others, change item = .ok target ∧ rest.mapM change = .ok others ∧
      found = target :: others := by
  rw [List.mapM_cons] at maps
  cases first : change item with
  | error fault => simp [first, bind, Except.bind] at maps
  | ok target =>
      cases later : rest.mapM change with
      | error fault => simp [first, later, bind, Except.bind] at maps
      | ok others =>
          simp only [first, later, bind, Except.bind, pure, Except.pure, Except.ok.injEq] at maps
          exact ⟨target, others, rfl, rfl, maps.symm⟩

/-- Every result of a list is the result of one of its items. -/
theorem exists_of_mem_mapM {change : Source → Except Fault Target} {items : List Source}
    {found : List Target} (maps : items.mapM change = .ok found) {target : Target}
    (member : target ∈ found) : ∃ item ∈ items, change item = .ok target := by
  induction items generalizing found with
  | nil =>
      cases maps
      simp at member
  | cons item rest step =>
      rcases mapM_cons_ok maps with ⟨first, others, firstOk, othersOk, rfl⟩
      rcases List.mem_cons.mp member with rfl | later
      · exact ⟨item, by simp, firstOk⟩
      · rcases step othersOk later with ⟨source, sourceMem, sourceOk⟩
        exact ⟨source, by simp [sourceMem], sourceOk⟩

/-- A list without results has an item without one. -/
theorem mapM_error {change : Source → Except Fault Target} {items : List Source} {fault : Fault}
    (maps : items.mapM change = .error fault) : ∃ item ∈ items, change item = .error fault := by
  induction items with
  | nil => cases maps
  | cons item rest step =>
      rw [List.mapM_cons] at maps
      cases first : change item with
      | error other =>
          rw [first] at maps
          cases maps
          exact ⟨item, by simp, first⟩
      | ok target =>
          cases later : rest.mapM change with
          | error other =>
              simp only [first, later, bind, Except.bind, Except.error.injEq] at maps
              subst maps
              rcases step later with ⟨source, sourceMem, sourceFails⟩
              exact ⟨source, by simp [sourceMem], sourceFails⟩
          | ok others => simp [first, later, bind, Except.bind, pure, Except.pure] at maps

/-- The results of a list are those of its items, one after the other. -/
theorem mapM_eq_ok_iff {change : Source → Except Fault Target} {items : List Source}
    {found : List Target} :
    items.mapM change = .ok found ↔
      List.Forall₂ (fun item target => change item = .ok target) items found := by
  induction items generalizing found with
  | nil =>
      rw [List.forall₂_nil_left_iff]
      constructor
      · intro maps
        cases maps
        rfl
      · rintro rfl
        rfl
  | cons item rest step =>
      constructor
      · intro maps
        rcases mapM_cons_ok maps with ⟨target, others, first, later, rfl⟩
        exact .cons first (step.mp later)
      · intro each
        cases each with
        | cons first later =>
            simp [List.mapM_cons, first, step.mpr later, bind, Except.bind, pure, Except.pure]

/-- A change that never fails on a list does to it what the change without faults does. -/
theorem mapM_of_forall_ok {change : Source → Except Fault Target} {image : Source → Target}
    {items : List Source} (each : ∀ item ∈ items, change item = .ok (image item)) :
    items.mapM change = .ok (items.map image) := by
  rw [mapM_eq_ok_iff, List.forall₂_map_right_iff, List.forall₂_same]
  exact each

theorem exists_forall₂ {related : Source → Target → Prop} {items : List Source}
    (each : ∀ item ∈ items, ∃ target, related item target) :
    ∃ targets, List.Forall₂ related items targets := by
  induction items with
  | nil => exact ⟨[], .nil⟩
  | cons item rest step =>
      rw [List.forall_mem_cons] at each
      rcases each.1 with ⟨target, first⟩
      rcases step each.2 with ⟨targets, later⟩
      exact ⟨target :: targets, .cons first later⟩

theorem exists_of_forall₂ {related : Source → Target → Prop} {items : List Source}
    {targets : List Target} (each : List.Forall₂ related items targets) :
    ∀ item ∈ items, ∃ target, related item target := by
  intro item member
  induction each with
  | nil => cases member
  | cons first later hypothesis =>
      rcases List.mem_cons.mp member with rfl | further
      · exact ⟨_, first⟩
      · exact hypothesis further

/-- Where a row is taken apart at an item, the row related to it is taken apart likewise. -/
theorem exists_append_of_forall₂ {related : Source → Target → Prop} {before after : List Source}
    {item : Source} {targets : List Target}
    (each : List.Forall₂ related (before ++ item :: after) targets) :
    ∃ front target back, targets = front ++ target :: back ∧ related item target ∧
      List.Forall₂ related after back := by
  induction before generalizing targets with
  | nil =>
      cases each with
      | @cons _ target _ back first later => exact ⟨[], target, back, rfl, first, later⟩
  | cons earlier before hypothesis =>
      cases each with
      | @cons _ first _ others _ later =>
          rcases hypothesis later with ⟨front, target, back, rfl, here, behind⟩
          exact ⟨first :: front, target, back, rfl, here, behind⟩

/-- A list has results if each of its items has one. -/
theorem mapM_ok {change : Source → Except Fault Target} {items : List Source}
    (total : ∀ item ∈ items, ∃ target, change item = .ok target) :
    ∃ found, items.mapM change = .ok found := by
  rcases exists_forall₂ total with ⟨found, each⟩
  exact ⟨found, mapM_eq_ok_iff.mpr each⟩

/-- A list has results exactly if each of its items has one. -/
theorem mapM_ok_iff {change : Source → Except Fault Target} {items : List Source} :
    (∃ found, items.mapM change = .ok found) ↔
      ∀ item ∈ items, ∃ target, change item = .ok target := by
  refine ⟨?_, mapM_ok⟩
  rintro ⟨found, maps⟩
  exact exists_of_forall₂ (mapM_eq_ok_iff.mp maps)

end ImageCatalog.Results
