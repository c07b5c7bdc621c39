import ImageCatalog.Disk.Tree

/-!
# Written files

A file that has been written is found at the location under which it was written, with the content
that was written. The way to it leads through directories only, and the place that is written holds
none, so that writing changes nothing on the way.
-/

namespace ImageCatalog.Disk.Tree

variable {tree final : Tree} {place : Location}

theorem item?_put_self (notFixed : isFixed place = false) (item : Item) :
    (tree.put place item).item? place = some item := by
  simp only [item?, notFixed, put]
  exact Entries.find?_put_self place item tree.items

theorem item?_put_of_ne {other : Location} (differs : other ≠ place) (item : Item) :
    (tree.put place item).item? other = tree.item? other := by
  simp only [item?, put, Entries.find?_put_of_ne differs]

theorem isFixed_eq_false (noDirectory : tree.item? place ≠ some .directory) :
    isFixed place = false := by
  cases fixed : isFixed place with
  | false => rfl
  | true => exact absurd (if_pos fixed) noDirectory

/-- A way through directories is not changed where it leads through none. -/
theorem walk_put (noDirectory : tree.item? place ≠ some .directory) (item : Item) {start : Location}
    {names : List String} {target : Location} (walks : tree.walk start names = .ok target) :
    (tree.put place item).walk start names = .ok target := by
  induction names generalizing start with
  | nil => exact walks
  | cons name rest hypothesis =>
      unfold walk at walks
      split at walks
      · cases walks
      · cases walks
      · next directory =>
          have differs : start ≠ place := by
            rintro rfl
            exact noDirectory directory
          split at walks
          · cases walks
          · next short =>
              rw [walk, item?_put_of_ne differs, directory]
              simp only [short]
              exact hypothesis walks

/-- A place that holds no directory can be filled without changing the way to another one. -/
theorem reach_put {location target : Location} (reached : tree.reach location = .ok target)
    (noDirectory : tree.item? place ≠ some .directory) (item : Item) :
    (tree.put place item).reach location = .ok target := by
  unfold reach at reached ⊢
  split at reached
  · cases reached
  · exact walk_put noDirectory item reached

theorem create_ok {item : Item} (made : tree.create place item = .ok final) :
    tree.isProtected place.parent = false ∧ final = tree.put place item := by
  unfold create at made
  split at made
  · cases made
  · next free =>
      cases made
      exact ⟨by simpa using free, rfl⟩

/-- Whether a file at a place is not protected against being written, or, if there is nothing, the
directory of the place is not. -/
def MayWrite (tree : Tree) (place : Location) : Prop :=
  tree.isProtected (if tree.item? place = none then place.parent else place) = false

/-- A file is written by putting it at a place that holds no directory. -/
theorem write_ok {location : Location} {content : List UInt8}
    (writes : tree.write location content = .ok final) :
    ∃ place, tree.reach location = .ok place ∧ tree.item? place ≠ some .directory ∧
      final = tree.put place (.file content) ∧ tree.MayWrite place := by
  unfold MayWrite
  unfold write at writes
  split at writes
  · cases writes
  · next place reached =>
      refine ⟨place, reached, ?_⟩
      cases found : tree.item? place with
      | none =>
          rw [found] at writes
          simp only at writes
          cases made : tree.create place (.file content) with
          | error cause =>
              rw [made] at writes
              cases writes
          | ok filled =>
              rw [made] at writes
              cases writes
              rcases create_ok made with ⟨free, rfl⟩
              exact ⟨nofun, rfl, free⟩
      | some item =>
          rw [found] at writes
          cases item with
          | directory => cases writes
          | file old =>
              simp only at writes
              split at writes
              · cases writes
              · next free =>
                  cases writes
                  exact ⟨nofun, rfl, by simpa using free⟩

/-- A file is written wherever there is no directory and nothing is protected. -/
theorem write_of_mayWrite {location : Location} (reached : tree.reach location = .ok place)
    (noDirectory : tree.item? place ≠ some .directory) (may : tree.MayWrite place)
    (content : List UInt8) :
    tree.write location content = .ok (tree.put place (.file content)) := by
  simp only [write, reached]
  unfold MayWrite at may
  split
  · next directory => exact absurd directory noDirectory
  · next found =>
      rw [found, if_neg nofun] at may
      rw [if_neg (by simpa using may)]
  · next nothing =>
      rw [nothing, if_pos rfl] at may
      rw [create, if_neg (by simpa using may)]
      rfl

/-- What is written is found. -/
theorem look_of_write {location : Location} {content : List UInt8}
    (writes : tree.write location content = .ok final) :
    final.look location = .ok (.file content) := by
  rcases write_ok writes with ⟨place, reached, noDirectory, rfl, _⟩
  have found : (tree.put place (.file content)).item? place = some (.file content) :=
    item?_put_self (isFixed_eq_false noDirectory) _
  rw [look, reach_put reached noDirectory]
  simp only [bind, Except.bind, found]

theorem holds_of_write {location : Location} {content : List UInt8}
    (writes : tree.write location content = .ok final) : final.holds location = .ok true := by
  rw [holds, look_of_write writes]

theorem contentOf_of_write {location : Location} {content : List UInt8}
    (writes : tree.write location content = .ok final) :
    final.contentOf location = .ok content := by
  rw [contentOf, look_of_write writes]

theorem holds_of_contentOf {location : Location} {content : List UInt8}
    (found : tree.contentOf location = .ok content) : tree.holds location = .ok true := by
  unfold contentOf at found
  split at found
  · next looks => rw [holds, looks]
  · cases found
  · cases found

end ImageCatalog.Disk.Tree
