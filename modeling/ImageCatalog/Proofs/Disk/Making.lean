import ImageCatalog.Proofs.Disk.Directory

/-!
# What making directories leaves alone

Making a directory touches only places that hold nothing, and puts directories there. If it fails,
there is no directory at the location afterwards. The way to a location leads through its parent, so
that a file that can be read lies in a directory, and one whose directory cannot be made is not
there.
-/

namespace ImageCatalog.Disk.Tree

variable {tree final : Tree} {location start place : Location} {name : String}

/-! ## Parents -/

theorem isDirectory_of_walk_concat {names : List String}
    (walks : tree.walk start (names ++ [name]) = .ok place) :
    ∃ upper, tree.walk start names = .ok upper ∧ tree.item? upper = some .directory := by
  induction names generalizing start with
  | nil =>
      refine ⟨start, rfl, ?_⟩
      rw [List.nil_append, walk] at walks
      split at walks
      · cases walks
      · cases walks
      · assumption
  | cons first rest hypothesis =>
      rw [List.cons_append, walk] at walks
      rw [walk]
      split at walks
      · cases walks
      · cases walks
      · next directory =>
          split at walks
          · cases walks
          · next short =>
              simp only [short]
              exact hypothesis walks

theorem isDirectory_parent_of_reach (reached : tree.reach location = .ok place) :
    tree.isDirectory location.parent = true := by
  rcases location with ⟨anchor, names⟩
  rcases List.eq_nil_or_concat' names with rfl | ⟨upper, last, rfl⟩
  · apply isDirectory_iff.mpr
    exact ⟨⟨anchor, []⟩, rfl, if_pos rfl⟩
  · have askable := askable_of_reach reached
    have parent : Location.parent ⟨anchor, upper ++ [last]⟩ = ⟨anchor, upper⟩ := by
      simp [Location.parent]
    have upperAskable : nameFault? ⟨anchor, upper⟩ = none := by
      rw [nameFault?_eq_none_iff] at askable ⊢
      intro part partMem
      exact askable part (List.mem_append_left _ partMem)
    rw [reach_of_askable askable] at reached
    rcases isDirectory_of_walk_concat reached with ⟨above, walks, directory⟩
    rw [parent]
    apply isDirectory_iff.mpr
    exact ⟨above, by rw [reach_of_askable upperAskable, walks], directory⟩

theorem isDirectory_parent (present : tree.isDirectory location = true) :
    tree.isDirectory location.parent = true := by
  rcases isDirectory_iff.mp present with ⟨place, reached, _⟩
  exact isDirectory_parent_of_reach reached

theorem exists_reach_of_contentOf {content : List UInt8}
    (found : tree.contentOf location = .ok content) :
    ∃ place, tree.reach location = .ok place ∧ tree.item? place = some (.file content) := by
  rw [contentOf_ok_iff, look] at found
  cases reached : tree.reach location with
  | error cause => simp [reached, bind, Except.bind] at found
  | ok place =>
      simp only [reached, bind, Except.bind] at found
      cases item : tree.item? place with
      | none => simp [item] at found
      | some other => exact ⟨place, rfl, by simpa [item] using found⟩

/-- A file lies in a directory. -/
theorem isDirectory_parent_of_contentOf {content : List UInt8}
    (found : tree.contentOf location = .ok content) : tree.isDirectory location.parent = true := by
  rcases exists_reach_of_contentOf found with ⟨place, reached, _⟩
  exact isDirectory_parent_of_reach reached

/-- A file is written unless it is protected. -/
theorem write_of_contentOf {content : List UInt8} (found : tree.contentOf location = .ok content)
    {text : List UInt8} {fault : Fault} (fails : tree.write location text = .error fault) :
    fault = ⟨.permission, location⟩ := by
  rcases exists_reach_of_contentOf found with ⟨place, reached, item⟩
  simp only [write, reached, item] at fails
  split at fails
  · cases fails
    rfl
  · cases fails

/-- A file can be written as soon as its directory is made. -/
def CanWrite (tree : Tree) (location : Location) : Prop :=
  ∃ made, tree.makeDirectories location.parent = (.ok (), made) ∧
    ∀ content, ∃ final, made.write location content = .ok final

theorem isProtected_put (item : Item) : (tree.put place item).isProtected place = false := by
  simp [isProtected, put]

/-- A file that was written can be written again. -/
theorem canWrite_of_write {content : List UInt8}
    (writes : tree.write location content = .ok final) :
    final.CanWrite location := by
  have present := isDirectory_parent_of_contentOf (contentOf_of_write writes)
  refine ⟨final, makeDirectories_of_isDirectory present, ?_⟩
  intro text
  rcases write_ok writes with ⟨place, reached, noDirectory, rfl, _⟩
  have found : (tree.put place (.file content)).item? place = some (.file content) :=
    item?_put_self (isFixed_eq_false noDirectory) _
  refine ⟨_, write_of_mayWrite (reach_put reached noDirectory _) (by simp [found]) ?_ text⟩
  rw [MayWrite, if_neg (by simp [found]), isProtected_put]

/-! ## Directories that cannot be made -/

theorem isDirectory_of_makeAbove_error {anchor : Anchor} {reversed : List String} {fault : Fault}
    (fails : tree.makeAbove anchor reversed = (.error fault, final)) :
    final.isDirectory ⟨anchor, reversed.reverse⟩ = false := by
  have settled {disk : Tree} {place : Location} {cause : Cause}
      (refused : disk.settleDirectory place cause = .error fault) :
      disk.isDirectory place = false := by
    unfold settleDirectory at refused
    split at refused
    · cases refused
    · next absent => simpa using absent
  induction reversed generalizing final with
  | nil => cases fails
  | cons name above hypothesis =>
      have parent : Location.parent ⟨anchor, (name :: above).reverse⟩ =
          ⟨anchor, above.reverse⟩ := by
        simp [Location.parent]
      unfold makeAbove at fails
      simp only at fails
      split at fails
      · cases fails
      · split at fails
        · next upper made =>
            cases fails
            have absent := hypothesis made
            rw [← parent] at absent
            by_contra present
            rw [isDirectory_parent (by simpa using present)] at absent
            cases absent
        · split at fails
          · cases fails
          · simp only [Prod.mk.injEq] at fails
            rcases fails with ⟨refused, rfl⟩
            exact settled refused
      · simp only [Prod.mk.injEq] at fails
        rcases fails with ⟨refused, rfl⟩
        exact settled refused

/-- A directory that cannot be made is not there. -/
theorem isDirectory_of_makeDirectories_error {fault : Fault}
    (fails : tree.makeDirectories location = (.error fault, final)) :
    final.isDirectory location = false := by
  have absent := isDirectory_of_makeAbove_error fails
  rwa [List.reverse_reverse] at absent

/-! ## Other places -/

/-- Whether a place holds the same on two disks, or nothing on the first and a directory on the
second. -/
def SameOrMade (tree final : Tree) (place : Location) : Prop :=
  final.item? place = tree.item? place ∨
    tree.item? place = none ∧ final.item? place = some .directory

theorem SameOrMade.trans {middle : Tree} (first : SameOrMade tree middle place)
    (second : SameOrMade middle final place) : SameOrMade tree final place := by
  rcases first with same | ⟨nothing, made⟩
  · unfold SameOrMade
    rw [← same]
    exact second
  · rcases second with same | ⟨none, _⟩
    · exact .inr ⟨nothing, same.trans made⟩
    · rw [made] at none
      cases none

theorem sameOrMade_makeDirectory (made : tree.makeDirectory location = .ok final)
    (place : Location) : SameOrMade tree final place := by
  rcases makeDirectory_ok made with ⟨target, _, nothing, _, rfl⟩
  by_cases same : place = target
  · subst same
    have noDirectory : tree.item? place ≠ some .directory := by simp [nothing]
    exact .inr ⟨nothing, item?_put_self (isFixed_eq_false noDirectory) .directory⟩
  · exact .inl (item?_put_of_ne same .directory)

theorem sameOrMade_makeAbove {anchor : Anchor} {reversed : List String} {result : Except Fault Unit}
    (made : tree.makeAbove anchor reversed = (result, final)) (place : Location) :
    SameOrMade tree final place := by
  induction reversed generalizing final result with
  | nil =>
      cases made
      exact .inl rfl
  | cons name above hypothesis =>
      unfold makeAbove at made
      simp only at made
      split at made
      · next single =>
          cases made
          exact sameOrMade_makeDirectory single place
      · split at made
        · next upper =>
            cases made
            exact hypothesis upper
        · next upper =>
            split at made
            · next last =>
                cases made
                exact (hypothesis upper).trans (sameOrMade_makeDirectory last place)
            · cases made
              exact hypothesis upper
      · cases made
        exact .inl rfl

theorem sameOrMade_makeDirectories {result : Except Fault Unit}
    (made : tree.makeDirectories location = (result, final)) (place : Location) :
    SameOrMade tree final place :=
  sameOrMade_makeAbove made place

end ImageCatalog.Disk.Tree
