import ImageCatalog.Proofs.Disk.Written
import Mathlib.Data.List.Basic

/-!
# The files of a directory

Making a directory, with those above it that are missing, ends with a directory, and leaves a disk
alone that has the directory already. Files under different names in one directory do not touch each
other: a file that is written has its content afterwards, the other files have theirs, and the
directory stays. The names `.` and `..` lead to directories and are never written.

An operation fails for its names, with a null byte or a half that is no stray byte, exactly if there
is one in a name of its location, whatever is on the disk.
-/

namespace ImageCatalog.Disk

/-- The location of a file in a directory. -/
def Location.file (directory : Location) (name : String) : Location :=
  { directory with names := directory.names ++ [name] }

/-- Whether a name leads into a directory, and neither stays in it nor leaves it. -/
def IsProper (name : String) : Prop :=
  name ≠ "." ∧ name ≠ ".."

namespace Tree

variable {tree final : Tree} {directory location start place : Location} {name other : String}
  {content : List UInt8}

/-! ## Names that cannot be asked for -/

/-- Whether a name has no null byte. -/
def IsNullFree (name : String) : Prop :=
  '\x00' ∉ name.toList

/-- Whether the disk can be asked for a name. -/
structure IsAskable (name : String) : Prop where
  nullFree : IsNullFree name
  noHalf : hasHalf name = false

theorem nameFault?_eq_none_iff :
    nameFault? location = none ↔ ∀ name ∈ location.names, IsAskable name := by
  have each (name : String) : IsAskable name ↔ hasHalf name = false ∧ hasNull name = false := by
    have nullFree : IsNullFree name ↔ hasNull name = false := by simp [IsNullFree, hasNull]
    rw [← nullFree]
    exact ⟨fun askable => ⟨askable.noHalf, askable.nullFree⟩, fun ⟨half, null⟩ => ⟨null, half⟩⟩
  simp only [each, nameFault?]
  constructor
  · intro none
    split at none
    · cases none
    · next noHalf =>
        split at none
        · cases none
        · next noNull =>
            rw [List.any_eq_true] at noHalf noNull
            push Not at noHalf noNull
            exact fun name member =>
              ⟨by simpa using noHalf name member, by simpa using noNull name member⟩
  · intro all
    rw [if_neg, if_neg]
    all_goals
      rw [List.any_eq_true]
      rintro ⟨name, member, has⟩
      simp [all name member] at has

theorem nameFault?_file : nameFault? (directory.file name) = none ↔
    nameFault? directory = none ∧ IsAskable name := by
  rw [nameFault?_eq_none_iff, nameFault?_eq_none_iff, Location.file]
  simp only [List.forall_mem_append, List.forall_mem_singleton]

theorem isOfName_of_nameFault? {cause : Cause} (found : nameFault? location = some cause) :
    cause.isOfName = true := by
  unfold nameFault? at found
  split at found
  · cases found
    rfl
  · split at found
    · cases found
      rfl
    · cases found

theorem reach_of_nameFault? {cause : Cause} (found : nameFault? location = some cause) :
    tree.reach location = .error cause := by
  rw [reach, found]

theorem reach_of_askable (askable : nameFault? location = none) :
    tree.reach location = tree.walk { location with names := [] } location.names := by
  rw [reach, askable]

theorem askable_of_reach (reached : tree.reach location = .ok place) :
    nameFault? location = none := by
  cases found : nameFault? location with
  | none => rfl
  | some cause =>
      rw [reach_of_nameFault? found] at reached
      cases reached

/-- There is no way to a name that the disk cannot be asked for. -/
theorem reach_file_of_not_isAskable (directory : Location) (not : ¬IsAskable name) :
    ∃ cause, ∀ tree : Tree, tree.reach (directory.file name) = .error cause := by
  have wrong : nameFault? (directory.file name) ≠ none := by
    rw [Ne, nameFault?_file]
    exact fun both => not both.2
  rcases Option.ne_none_iff_exists'.mp wrong with ⟨cause, found⟩
  exact ⟨cause, fun tree => reach_of_nameFault? found⟩

theorem isOfName_of_walk {names : List String} {cause : Cause}
    (fails : tree.walk start names = .error cause) : cause.isOfName = false := by
  induction names generalizing start with
  | nil => cases fails
  | cons name rest hypothesis =>
      unfold walk at fails
      split at fails
      · cases fails
        rfl
      · cases fails
        rfl
      · split at fails
        · cases fails
          rfl
        · exact hypothesis fails

/-- Whether an operation fails for the names of its location. -/
def FailsByName {Result : Type} (result : Except Cause Result) : Prop :=
  ∃ cause, result = .error cause ∧ cause.isOfName = true

theorem reach_failsByName_iff (tree : Tree) :
    FailsByName (tree.reach location) ↔ nameFault? location ≠ none := by
  constructor
  · rintro ⟨cause, fails, ofName⟩ askable
    rw [reach_of_askable askable] at fails
    rw [isOfName_of_walk fails] at ofName
    cases ofName
  · intro wrong
    rcases Option.ne_none_iff_exists'.mp wrong with ⟨cause, found⟩
    exact ⟨cause, reach_of_nameFault? found, isOfName_of_nameFault? found⟩

/-! ## Making directories -/

theorem isDirectory_iff : tree.isDirectory location = true ↔
    ∃ place, tree.reach location = .ok place ∧ tree.item? place = some .directory := by
  unfold isDirectory look
  cases reached : tree.reach location with
  | error cause => simp [bind, Except.bind]
  | ok place =>
      cases found : tree.item? place with
      | none => simp [bind, Except.bind, found]
      | some item => cases item <;> simp [bind, Except.bind, found]

/-- A directory is made by putting it at a place that holds nothing. -/
theorem makeDirectory_ok (made : tree.makeDirectory location = .ok final) :
    ∃ place, tree.reach location = .ok place ∧ tree.item? place = none ∧
      tree.isProtected place.parent = false ∧ final = tree.put place .directory := by
  unfold makeDirectory at made
  cases reached : tree.reach location with
  | error cause => simp [reached, bind, Except.bind] at made
  | ok place =>
      simp only [reached, bind, Except.bind] at made
      split at made
      · cases made
      · next nothing => exact ⟨place, rfl, nothing, create_ok made⟩

theorem isDirectory_of_makeDirectory (made : tree.makeDirectory location = .ok final) :
    final.isDirectory location = true := by
  rcases makeDirectory_ok made with ⟨place, reached, nothing, _, rfl⟩
  have noDirectory : tree.item? place ≠ some .directory := by simp [nothing]
  exact isDirectory_iff.mpr ⟨place, reach_put reached noDirectory .directory,
    item?_put_self (isFixed_eq_false noDirectory) .directory⟩

/-- A directory is not made twice. -/
theorem makeDirectory_of_isDirectory (present : tree.isDirectory location = true) :
    tree.makeDirectory location = .error .exists := by
  rcases isDirectory_iff.mp present with ⟨place, reached, found⟩
  simp [makeDirectory, reached, bind, Except.bind, found]

theorem isOfName_of_create {item : Item} {cause : Cause}
    (fails : tree.create place item = .error cause) : cause.isOfName = false := by
  unfold create at fails
  split at fails
  · cases fails
    rfl
  · cases fails

theorem makeDirectory_failsByName_iff (tree : Tree) :
    FailsByName (tree.makeDirectory location) ↔ nameFault? location ≠ none := by
  rw [← reach_failsByName_iff tree, makeDirectory]
  cases reached : tree.reach location with
  | error cause => simp [FailsByName, bind, Except.bind]
  | ok place =>
      simp only [bind, Except.bind]
      refine iff_of_false ?_ (by rintro ⟨_, fails, _⟩; cases fails)
      rintro ⟨cause, fails, ofName⟩
      split at fails
      · cases fails
        cases ofName
      · rw [isOfName_of_create fails] at ofName
        cases ofName

theorem settleDirectory_ok_iff {cause : Cause} :
    tree.settleDirectory location cause = .ok () ↔ tree.isDirectory location = true := by
  unfold settleDirectory
  split <;> simp_all

theorem cause_of_settleDirectory {cause : Cause} {fault : Fault}
    (fails : tree.settleDirectory location cause = .error fault) : fault.cause = cause := by
  unfold settleDirectory at fails
  split at fails
  · cases fails
  · cases fails
    rfl

theorem makeAbove_of_isDirectory {anchor : Anchor} {reversed : List String}
    (present : tree.isDirectory ⟨anchor, reversed.reverse⟩ = true) :
    tree.makeAbove anchor reversed = (.ok (), tree) := by
  cases reversed with
  | nil => rfl
  | cons name above =>
      simp only [makeAbove, makeDirectory_of_isDirectory present]
      rw [settleDirectory_ok_iff.mpr present]

theorem isDirectory_of_makeAbove {anchor : Anchor} {reversed : List String}
    (made : tree.makeAbove anchor reversed = (.ok (), final)) :
    final.isDirectory ⟨anchor, reversed.reverse⟩ = true := by
  cases reversed with
  | nil =>
      cases made
      refine isDirectory_iff.mpr ⟨⟨anchor, []⟩, ?_, ?_⟩
      · rfl
      · exact if_pos rfl
  | cons name above =>
      unfold makeAbove at made
      simp only at made
      split at made
      · next single =>
          cases made
          exact isDirectory_of_makeDirectory single
      · split at made
        · cases made
        · split at made
          · next last =>
              cases made
              exact isDirectory_of_makeDirectory last
          · simp only [Prod.mk.injEq] at made
            rcases made with ⟨settled, rfl⟩
            exact settleDirectory_ok_iff.mp settled
      · simp only [Prod.mk.injEq] at made
        rcases made with ⟨settled, rfl⟩
        exact settleDirectory_ok_iff.mp settled

theorem isOfName_of_makeAbove {anchor : Anchor} {reversed : List String}
    (askable : nameFault? ⟨anchor, reversed.reverse⟩ = none) {fault : Fault}
    (fails : tree.makeAbove anchor reversed = (.error fault, final)) :
    fault.cause.isOfName = false := by
  induction reversed generalizing fault final with
  | nil => cases fails
  | cons name above hypothesis =>
      have never {disk : Tree} {cause : Cause}
          (refused : disk.makeDirectory ⟨anchor, (name :: above).reverse⟩ = .error cause) :
          cause.isOfName = false := by
        by_contra ofName
        exact (makeDirectory_failsByName_iff disk).mp ⟨cause, refused, by simpa using ofName⟩
          askable
      unfold makeAbove at fails
      simp only at fails
      split at fails
      · cases fails
      · split at fails
        · next upper made =>
            cases fails
            refine hypothesis ?_ made
            rw [nameFault?_eq_none_iff] at askable ⊢
            intro part partMem
            refine askable part ?_
            simp only [List.mem_reverse, List.mem_cons] at partMem ⊢
            exact .inr partMem
        · split at fails
          · cases fails
          · next refused =>
              simp only [Prod.mk.injEq] at fails
              rw [cause_of_settleDirectory fails.1]
              exact never refused
      · next refused =>
          simp only [Prod.mk.injEq] at fails
          rw [cause_of_settleDirectory fails.1]
          exact never refused

/-- A directory that is there already is left alone. -/
theorem makeDirectories_of_isDirectory (present : tree.isDirectory directory = true) :
    tree.makeDirectories directory = (.ok (), tree) := by
  refine makeAbove_of_isDirectory ?_
  rwa [List.reverse_reverse]

/-- A directory that was made is there. -/
theorem isDirectory_of_makeDirectories (made : tree.makeDirectories directory = (.ok (), final)) :
    final.isDirectory directory = true := by
  have present := isDirectory_of_makeAbove made
  rwa [List.reverse_reverse] at present

/-- Making a directory fails for its names exactly if something is wrong with one of them. -/
theorem makeDirectories_failsByName_iff (tree : Tree) :
    (∃ fault left, tree.makeDirectories directory = (.error fault, left) ∧
      fault.cause.isOfName = true) ↔ nameFault? directory ≠ none := by
  constructor
  · rintro ⟨fault, left, fails, ofName⟩ askable
    rw [isOfName_of_makeAbove (by rwa [List.reverse_reverse]) fails] at ofName
    cases ofName
  · intro wrong
    rcases (makeDirectory_failsByName_iff tree).mpr wrong with ⟨cause, refused, ofName⟩
    have absent : tree.isDirectory directory = false := by
      rw [← Bool.not_eq_true, isDirectory_iff]
      rintro ⟨place, reached, _⟩
      exact wrong (askable_of_reach reached)
    rcases directory with ⟨anchor, names⟩
    rcases List.eq_nil_or_concat' names with rfl | ⟨upper, name, rfl⟩
    · exact absurd rfl wrong
    · refine ⟨⟨cause, ⟨anchor, upper ++ [name]⟩⟩, tree, ?_, ofName⟩
      have reversed : (upper ++ [name]).reverse = name :: upper.reverse := by simp
      have restored : (name :: upper.reverse).reverse = upper ++ [name] := by simp
      simp only [makeDirectories, reversed, makeAbove, restored, refused, settleDirectory, absent]
      cases cause <;> first | rfl | cases ofName

/-- Writing a file fails for its names exactly if something is wrong with one of them. -/
theorem write_failsByName_iff :
    (∃ fault, tree.write location content = .error fault ∧ fault.cause.isOfName = true) ↔
      nameFault? location ≠ none := by
  rw [← reach_failsByName_iff tree, write]
  cases reached : tree.reach location with
  | error cause => simp [FailsByName]
  | ok place =>
      refine iff_of_false ?_ (by rintro ⟨_, fails, _⟩; cases fails)
      rintro ⟨fault, fails, ofName⟩
      simp only at fails
      split at fails
      · cases fails
        cases ofName
      · split at fails
        · cases fails
          cases ofName
        · cases fails
      · cases made : tree.create place (.file content) with
        | ok filled =>
            rw [made] at fails
            cases fails
        | error cause =>
            rw [made] at fails
            cases fails
            rw [isOfName_of_create made] at ofName
            cases ofName

/-! ## Files in a directory -/

/-- Every place on the way to a place is a directory. -/
def HasWay (tree : Tree) (place : Location) : Prop :=
  ∀ upper name below, place.names = upper ++ name :: below →
    tree.item? { place with names := upper } = some .directory

theorem item?_of_isFixed (fixed : isFixed place = true) : tree.item? place = some .directory :=
  if_pos fixed

theorem hasWay_child (way : tree.HasWay place) (found : tree.item? place = some .directory)
    (name : String) : tree.HasWay (child place name) := by
  have entered (last : String) : tree.HasWay { place with names := place.names ++ [last] } := by
    intro upper next below split
    rcases List.eq_nil_or_concat' below with rfl | ⟨rest, final, rfl⟩
    · have parts := List.append_inj' split rfl
      rw [← parts.1]
      exact found
    · have longer : place.names ++ [last] = (upper ++ next :: rest) ++ [final] := by
        simpa using split
      exact way upper next rest (List.append_inj' longer rfl).1
  have left : tree.HasWay place.parent := by
    intro upper next below split
    rcases List.eq_nil_or_concat' place.names with none | ⟨rest, final, some⟩
    · simp [Location.parent, none] at split
    · simp only [Location.parent, some, List.dropLast_concat] at split
      exact way upper next (below ++ [final]) (by simp [some, split])
  unfold child
  split
  · exact way
  · split
    · split
      · split
        · exact entered ".."
        · exact left
      · exact left
    · exact entered name

theorem hasWay_of_walk {names : List String} (way : tree.HasWay start)
    (walks : tree.walk start names = .ok place) : tree.HasWay place := by
  induction names generalizing start with
  | nil =>
      cases walks
      exact way
  | cons name rest hypothesis =>
      unfold walk at walks
      split at walks
      · cases walks
      · cases walks
      · next found =>
          split at walks
          · cases walks
          · exact hypothesis (hasWay_child way found name) walks

theorem hasWay_of_reach (reached : tree.reach location = .ok place) : tree.HasWay place := by
  unfold reach at reached
  split at reached
  · cases reached
  · refine hasWay_of_walk (fun upper name below split => ?_) reached
    simp at split

/-- Staying in a directory or leaving it leads to a directory. -/
theorem item?_child_of_not_isProper (way : tree.HasWay place)
    (found : tree.item? place = some .directory) (improper : ¬IsProper name) :
    tree.item? (child place name) = some .directory := by
  have left : tree.item? place.parent = some .directory := by
    rcases List.eq_nil_or_concat' place.names with none | ⟨rest, final, some⟩
    · exact item?_of_isFixed (by simp [isFixed, Location.parent, none])
    · have upper := way rest final [] some
      simpa [Location.parent, some] using upper
  unfold child
  split
  · exact found
  · next notStay =>
      have leaves : name = ".." := by
        by_contra other
        exact improper ⟨notStay, other⟩
      rw [if_pos leaves]
      split
      · split
        · next fixed =>
            refine item?_of_isFixed ?_
            simp only [isFixed, List.all_append, Bool.and_eq_true] at fixed ⊢
            exact ⟨fixed, rfl⟩
        · exact left
      · exact left

theorem child_of_isProper (proper : IsProper name) : child place name = place.file name := by
  rw [child, if_neg proper.1, if_neg proper.2]
  rfl

theorem file_injective (same : place.file name = place.file other) : name = other := by
  have names : place.names ++ [name] = place.names ++ [other] := congrArg Location.names same
  simpa using names

theorem walk_concat {names : List String} (walks : tree.walk start names = .ok place)
    (found : tree.item? place = some .directory) (name : String) :
    tree.walk start (names ++ [name]) =
      if isTooLong name then .error .nameTooLong else .ok (child place name) := by
  induction names generalizing start with
  | nil =>
      cases walks
      simp only [List.nil_append, walk, found]
  | cons first rest hypothesis =>
      unfold walk at walks
      rw [List.cons_append, walk]
      split at walks
      · cases walks
      · cases walks
      · next directory =>
          split at walks
          · cases walks
          · next short =>
              simp only [short]
              exact hypothesis walks

/-- The way to a file in a directory is the way to the directory and one step further. -/
theorem reach_file (reached : tree.reach directory = .ok place)
    (found : tree.item? place = some .directory) (askable : IsAskable name) :
    tree.reach (directory.file name) =
      if isTooLong name then .error .nameTooLong else .ok (child place name) := by
  have below := askable_of_reach reached
  rw [reach_of_askable below] at reached
  rw [reach_of_askable (nameFault?_file.mpr ⟨below, askable⟩)]
  exact walk_concat reached found name

/-- Only proper names that the disk can be asked for are written, and what is written is put in the
directory. -/
theorem write_file_ok (reached : tree.reach directory = .ok place)
    (found : tree.item? place = some .directory)
    (writes : tree.write (directory.file name) content = .ok final) :
    IsProper name ∧ tree.item? (place.file name) ≠ some .directory ∧
      final = tree.put (place.file name) (.file content) := by
  rcases write_ok writes with ⟨target, reachesTarget, noDirectory, rfl, _⟩
  have askable := (nameFault?_file.mp (askable_of_reach reachesTarget)).2
  rw [reach_file reached found askable] at reachesTarget
  split at reachesTarget
  · cases reachesTarget
  · cases reachesTarget
    have proper : IsProper name := by
      by_contra improper
      exact noDirectory (item?_child_of_not_isProper (hasWay_of_reach reached) found improper)
    rw [child_of_isProper proper] at noDirectory ⊢
    exact ⟨proper, noDirectory, rfl⟩

/-- A directory stays one when a file is written in it. -/
theorem isDirectory_of_write_file (present : tree.isDirectory directory = true)
    (writes : tree.write (directory.file name) content = .ok final) :
    final.isDirectory directory = true := by
  rcases isDirectory_iff.mp present with ⟨place, reached, found⟩
  rcases write_file_ok reached found writes with ⟨_, noDirectory, rfl⟩
  have differs : place ≠ place.file name := by
    intro same
    rw [← same] at noDirectory
    exact noDirectory found
  refine isDirectory_iff.mpr ⟨place, reach_put reached noDirectory _, ?_⟩
  rw [item?_put_of_ne differs, found]

theorem look_file_of_ne (present : tree.isDirectory directory = true)
    (writes : tree.write (directory.file name) content = .ok final) (proper : IsProper other)
    (differs : other ≠ name) :
    final.look (directory.file other) = tree.look (directory.file other) := by
  rcases isDirectory_iff.mp present with ⟨place, reached, found⟩
  rcases write_file_ok reached found writes with ⟨_, noDirectory, rfl⟩
  have differsPlace : place ≠ place.file name := by
    intro same
    rw [← same] at noDirectory
    exact noDirectory found
  have stillReached := reach_put reached noDirectory (.file content)
  have stillFound : (tree.put (place.file name) (.file content)).item? place = some .directory := by
    rw [item?_put_of_ne differsPlace, found]
  by_cases askable : IsAskable other
  · have same : (tree.put (place.file name) (.file content)).item? (place.file other) =
        tree.item? (place.file other) :=
      item?_put_of_ne (fun equal => differs (file_injective equal)) _
    unfold look
    rw [reach_file stillReached stillFound askable, reach_file reached found askable,
      child_of_isProper proper]
    split
    · rfl
    · simp only [bind, Except.bind, same]
  · rcases reach_file_of_not_isAskable directory askable with ⟨cause, fails⟩
    rw [look, look, fails, fails]
    rfl

theorem contentOf_ok_iff :
    tree.contentOf location = .ok content ↔ tree.look location = .ok (.file content) := by
  unfold contentOf
  cases tree.look location with
  | error cause => simp
  | ok item => cases item <;> simp

/-- There is no file under a name that stays in a directory or leaves it. -/
theorem contentOf_file_ne_ok (present : tree.isDirectory directory = true)
    (improper : ¬IsProper name) : tree.contentOf (directory.file name) ≠ .ok content := by
  rcases isDirectory_iff.mp present with ⟨place, reached, found⟩
  have upper := item?_child_of_not_isProper (hasWay_of_reach reached) found improper
  rw [Ne, contentOf_ok_iff]
  by_cases askable : IsAskable name
  · rw [look, reach_file reached found askable]
    split <;> simp [bind, Except.bind, upper]
  · rcases reach_file_of_not_isAskable directory askable with ⟨cause, fails⟩
    simp [look, fails, bind, Except.bind]

/-- A file in a directory is an item right below it. -/
theorem item?_of_contentOf_file (reached : tree.reach directory = .ok place)
    (found : tree.item? place = some .directory)
    (holds : tree.contentOf (directory.file name) = .ok content) :
    tree.item? (place.file name) = some (.file content) := by
  have proper : IsProper name := by
    by_contra improper
    exact contentOf_file_ne_ok (isDirectory_iff.mpr ⟨place, reached, found⟩) improper holds
  rw [contentOf_ok_iff] at holds
  have askable : IsAskable name := by
    by_contra not
    rcases reach_file_of_not_isAskable directory not with ⟨cause, fails⟩
    simp [look, fails, bind, Except.bind] at holds
  rw [look, reach_file reached found askable, child_of_isProper proper] at holds
  split at holds
  · cases holds
  · simp only [bind, Except.bind] at holds
    cases item : tree.item? (place.file name) with
    | none => simp [item] at holds
    | some other => simpa [item] using holds

/-- Writing a file in a directory gives it its content and leaves the other files there alone. -/
theorem contentOf_write_file (present : tree.isDirectory directory = true)
    (writes : tree.write (directory.file name) content = .ok final) (other : String)
    (found : List UInt8) :
    final.contentOf (directory.file other) = .ok found ↔
      if other = name then found = content
      else tree.contentOf (directory.file other) = .ok found := by
  split
  · next same =>
      rw [same, contentOf_of_write writes, Except.ok.injEq, eq_comm]
  · next differs =>
      by_cases proper : IsProper other
      · rw [contentOf, contentOf, look_file_of_ne present writes proper differs]
      · exact iff_of_false
          (contentOf_file_ne_ok (isDirectory_of_write_file present writes) proper)
          (contentOf_file_ne_ok present proper)

end Tree

end ImageCatalog.Disk
