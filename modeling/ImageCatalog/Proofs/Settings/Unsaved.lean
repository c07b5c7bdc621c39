import ImageCatalog.Proofs.Disk.Making
import ImageCatalog.Proofs.Settings.Course
import ImageCatalog.Proofs.Text.Surrogate

/-!
# Changes that cannot be saved

A value that is set is kept by the store before the store is saved. If saving fails, the value
stays: the store runs ahead of its file by the changes that could not be saved, nobody is told of
them, and the next change that can be saved writes them along with itself, but announces itself
only.

So a failed change leaves the values as they were exactly if it would have changed nothing. The file
stays as it is, whether it is protected, or a directory, or in none; but a text that cannot be
encoded leaves it empty.
-/

namespace ImageCatalog.Settings

open Disk Text

/-- Whether setting a value changes nothing: it is there already, or it is null and nothing is
there. -/
def IsSettled (map : List (String × Value)) (key : String) (value : Value) : Prop :=
  if value.isNull then key ∉ Entries.keys map else Entries.find? key map = some value

theorem assign_eq_self_iff {map : List (String × Value)} (distinct : (Entries.keys map).Nodup)
    {key : String} {value : Value} : assign map key value = map ↔ IsSettled map key value := by
  unfold assign IsSettled
  split
  · rw [List.filter_eq_self]
    constructor
    · intro kept member
      rcases List.mem_map.mp member with ⟨entry, entryMem, named⟩
      simpa [named] using kept entry entryMem
    · intro absent entry member
      have differs : entry.1 ≠ key := by
        rintro rfl
        exact absent (List.mem_map_of_mem member)
      simpa using differs
  · split
    · next present =>
        rw [← Entries.put_eq_map distinct present]
        constructor
        · intro same
          rw [← same, Entries.find?_put_self]
        · intro found
          rw [Entries.put_eq_map distinct present]
          have same : ∀ entry ∈ map, (if entry.1 = key then (key, value) else entry) = entry := by
            intro entry member
            split
            · next named =>
                have content := Entries.find?_of_mem distinct member
                rw [named, found, Option.some.injEq] at content
                rw [content, ← named]
            · rfl
          rw [List.map_congr_left same, List.map_id']
    · next absent =>
        apply iff_of_false
        · intro same
          simpa using congrArg List.length same
        · intro found
          exact absent (List.mem_map_of_mem (Entries.mem_of_find? found))

theorem assignAll_concat (map entries : List (String × Value)) (key : String) (value : Value) :
    assignAll map (entries ++ [(key, value)]) = assign (assignAll map entries) key value := by
  simp [assignAll]

namespace Store

variable {store : Store} {tree left : Tree} {file : Location} {key : String} {value : Value}

/-- What an attempt to save that fails does to the file: nothing, but that it is emptied if the text
cannot be encoded. A file that was there before is protected then, and unless it is protected, it is
not there afterwards. -/
structure LeavesFile (file : Location) (tree left : Tree) (fault : SaveFault) : Prop where
  emptied : fault = .unencodable → left.contentOf file = .ok []
  intact : fault ≠ .unencodable → tree.isDirectory file.parent = true → left = tree
  guarded : ∀ cause, fault = .disk cause → ∀ content, tree.contentOf file = .ok content →
    cause = ⟨.permission, file⟩
  absent : ∀ cause, fault = .disk cause → cause.cause ≠ .permission → ∀ content,
    left.contentOf file ≠ .ok content

/-- The directory of a file that can be read need not be made. -/
theorem makeDirectories_of_contentOf {content : List UInt8}
    (found : tree.contentOf file = .ok content) :
    tree.makeDirectories file.parent = (.ok (), tree) :=
  Tree.makeDirectories_of_isDirectory (Tree.isDirectory_parent_of_contentOf found)

theorem leavesFile_of_unmade {fault : Disk.Fault}
    (fails : tree.makeDirectories file.parent = (.error fault, left)) :
    LeavesFile file tree left (.disk fault) := by
  refine ⟨?_, fun _ present => ?_, fun _ _ content found => ?_, fun _ _ _ content found => ?_⟩
  · rintro ⟨⟩
  · rw [Tree.makeDirectories_of_isDirectory present] at fails
    cases fails
  · rw [makeDirectories_of_contentOf found] at fails
    cases fails
  · have absent := Tree.isDirectory_of_makeDirectories_error fails
    rw [Tree.isDirectory_parent_of_contentOf found] at absent
    cases absent

theorem leavesFile_of_unwritten {fault : Disk.Fault} {text : List UInt8}
    (makes : tree.makeDirectories file.parent = (.ok (), left))
    (fails : left.write file text = .error fault) : LeavesFile file tree left (.disk fault) := by
  refine ⟨?_, fun _ present => ?_, ?_, ?_⟩
  · rintro ⟨⟩
  · rw [Tree.makeDirectories_of_isDirectory present] at makes
    cases makes
    rfl
  · rintro _ ⟨⟩ content found
    rw [makeDirectories_of_contentOf found] at makes
    cases makes
    exact Tree.write_of_contentOf found fails
  · rintro _ ⟨⟩ other content found
    exact other (congrArg Disk.Fault.cause (Tree.write_of_contentOf found fails))

theorem leavesFile_of_not_saves {fault : SaveFault} (located : store.file = some file)
    (fails : store.save tree = (.error fault, left)) : LeavesFile file tree left fault := by
  unfold save at fails
  rw [located] at fails
  simp only at fails
  split at fails
  · next unmade =>
      cases fails
      exact leavesFile_of_unmade unmade
  · next makes =>
      split at fails
      · cases fails
        refine ⟨?_, fun _ present => ?_, ?_, ?_⟩
        · rintro ⟨⟩
        · rw [Tree.makeDirectories_of_isDirectory present] at makes
          cases makes
          rfl
        · rintro _ ⟨⟩
        · rintro _ ⟨⟩
      · next text _ =>
          split at fails
          · next unwritten =>
              cases fails
              exact leavesFile_of_unwritten makes unwritten
          · next final written =>
              by_cases whole : isWhole text = true
              · rw [if_pos whole] at fails
                cases fails
              · rw [if_neg whole] at fails
                cases fails
                rw [encode?, if_neg whole] at written
                refine ⟨fun _ => Tree.contentOf_of_write written, fun not => absurd rfl not, ?_, ?_⟩
                · rintro _ ⟨⟩
                · rintro _ ⟨⟩

theorem isDocument_of_readFile {values : List (String × Value)}
    (reads : readFile tree file = .ok values) : (Value.object values).IsDocument := by
  have empty : (Value.object []).IsDocument := .object [] List.nodup_nil (by simp)
  unfold readFile at reads
  rcases Results.bind_ok reads with ⟨present, _, found⟩
  cases present with
  | false =>
      cases found
      exact empty
  | true =>
      simp only [if_true] at found
      split at found
      · next content _ =>
          unfold readContent at found
          split at found
          · cases found
          · next text _ =>
              split at found
              · next document read =>
                  cases found
                  have whole := Json.isDocument_of_read read
                  cases document with
                  | object fields => exact whole
                  | _ => exact empty
              · cases found
                exact empty
              · cases found
      · cases found
        exact empty

/-- A change that cannot be saved is made nevertheless, and nobody is told. -/
theorem set_of_fault {fault : SaveFault} (unsaved : (store.set tree key value).fault = some fault) :
    (store.put key value).save tree = (.error fault, (store.set tree key value).tree) ∧
      (store.set tree key value).store = store.put key value ∧
      (store.set tree key value).notices = [] := by
  rcases store.set_cases tree key value with ⟨left, saves⟩ | ⟨cause, left, fails⟩
  · rw [set_eq_of_saves saves] at unsaved
    cases unsaved
  · rw [(set_eq_of_not_saves fails).1] at unsaved ⊢
    cases unsaved
    exact ⟨fails, rfl, rfl⟩

theorem values_setAll (distinct : (Entries.keys store.values).Nodup)
    {entries : List (String × Value)} (saved : (store.setAll tree entries).fault = none) :
    (store.setAll tree entries).store.values = assignAll store.values entries ∧
      (Entries.keys (store.setAll tree entries).store.values).Nodup := by
  induction entries generalizing store tree with
  | nil => exact ⟨rfl, distinct⟩
  | cons entry rest hypothesis =>
      obtain ⟨key, value⟩ := entry
      cases outcome : (store.set tree key value).fault with
      | some fault =>
          simp only [setAll, outcome] at saved
          cases saved
      | none =>
          simp only [setAll, outcome] at saved ⊢
          have first := values_set store tree key value
          have next : (Entries.keys (store.set tree key value).store.values).Nodup := by
            rw [first]
            exact nodup_keys_put distinct key value
          rcases hypothesis next saved with ⟨values, keys⟩
          rw [values, first, values_put_eq_assign distinct] at keys
          rw [values, first, values_put_eq_assign distinct]
          exact ⟨rfl, keys⟩

/-- A row of values that cannot all be saved is set up to the first that cannot. -/
theorem setAll_of_fault {entries : List (String × Value)} {fault : SaveFault}
    (unsaved : (store.setAll tree entries).fault = some fault) :
    ∃ before key value after, entries = before ++ (key, value) :: after ∧
      (store.setAll tree before).fault = none ∧
      let reached := store.setAll tree before
      let last := reached.store.set reached.tree key value
      last.fault = some fault ∧ (store.setAll tree entries).store = last.store ∧
        (store.setAll tree entries).tree = last.tree ∧
        (store.setAll tree entries).notices = reached.notices := by
  induction entries generalizing store tree with
  | nil => cases unsaved
  | cons entry rest hypothesis =>
      obtain ⟨key, value⟩ := entry
      cases outcome : (store.set tree key value).fault with
      | some cause =>
          simp only [setAll, outcome, Option.some.injEq] at unsaved
          subst unsaved
          refine ⟨[], key, value, rest, rfl, rfl, ?_⟩
          simp [setAll, outcome, (set_of_fault outcome).2.2]
      | none =>
          simp only [setAll, outcome] at unsaved
          rcases hypothesis unsaved with ⟨before, last, content, after, rfl, saved, others⟩
          refine ⟨(key, value) :: before, last, content, after, rfl, ?_, ?_⟩
          · simpa [setAll, outcome] using saved
          · simpa [setAll, outcome] using others

end Store

/-- The values that an act sets. -/
def Act.entries : Act → List (String × Value)
  | .update several => several.entries
  | _ => []

namespace Course

/-- The store of a course is ahead of what was last saved by the changes that could not be saved. -/
structure IsAhead (file : Location) (course : Course) : Prop where
  located : course.store.file = some file
  document : (Value.object course.store.values).IsDocument
  ahead : course.store.values = assignAll course.kept course.unsaved

variable {file : Location} {course : Course}

theorem IsAhead.distinct (ahead : course.IsAhead file) :
    (Entries.keys course.store.values).Nodup := by
  cases ahead.document
  assumption

theorem IsAhead.set (ahead : course.IsAhead file) (key : String) {value : Value}
    (document : value.IsDocument) : (course.set key value).IsAhead file := by
  have values := Store.values_set course.store course.tree key value
  refine ⟨?_, ?_, ?_⟩
  · rw [store_set, Store.file_set, ahead.located]
  · rw [store_set, values]
    exact Store.isDocument_put ahead.document key document
  · cases outcome : (course.store.set course.tree key value).fault with
    | none =>
        rw [set_of_saved outcome]
        rfl
    | some fault =>
        rw [set_of_unsaved outcome]
        simp only
        rw [values, Store.values_put_eq_assign ahead.distinct, assignAll_concat, ahead.ahead]

theorem IsAhead.setAll (ahead : course.IsAhead file) {entries : List (String × Value)}
    (documents : ∀ entry ∈ entries, entry.2.IsDocument) : (course.setAll entries).IsAhead file := by
  apply setAll_induction _ ahead
  intro course entry member now
  exact now.set entry.1 (documents entry member)

theorem IsAhead.step (ahead : course.IsAhead file) {act : Act}
    (documents : ∀ entry ∈ act.entries, entry.2.IsDocument) : (course.step act).IsAhead file := by
  cases act with
  | update update => exact ahead.setAll documents
  | _ => exact ⟨ahead.located, ahead.document, ahead.ahead⟩

theorem isAhead_run {store : Store} {tree : Tree} (loads : Store.load tree file = .ok store)
    {acts : List Act} (documents : ∀ act ∈ acts, ∀ entry ∈ act.entries, entry.2.IsDocument) :
    ((start store tree).run acts).IsAhead file := by
  apply run_induction
  · intro course act member now
    exact now.step (documents act member)
  · rcases Results.map_ok loads with ⟨values, reads, rfl⟩
    exact ⟨rfl, Store.isDocument_of_readFile reads, rfl⟩

end Course

/-- In the course of a store on a file, whatever is done to it and whatever happens to the disk, its
values are those that were last saved with the changes since then that could not be saved. One more
change that cannot be saved is made like any other: nobody is told and the file is left alone or
emptied, as `LeavesFile` says, but the values change with it, and are what they were exactly if
there was nothing to change. Of a row of values those up to the first that cannot be saved are set,
that one included, and those before it are told. What is saved is what a fresh store loads. -/
theorem unsaved_changes_stay {file : Location} {tree : Tree} {store : Store}
    (loads : Store.load tree file = .ok store) {acts : List Act}
    (documents : ∀ act ∈ acts, ∀ entry ∈ act.entries, entry.2.IsDocument) :
    let course := (Course.start store tree).run acts
    course.store.values = assignAll course.kept course.unsaved ∧
    (∀ key value fault, let change := course.store.set course.tree key value
      change.fault = some fault →
        change.store.values = assign course.store.values key value ∧
        change.notices = [] ∧ change.store.listeners = course.store.listeners ∧
        (course.set key value).kept = course.kept ∧
        (change.store.values = course.store.values ↔ IsSettled course.store.values key value) ∧
        Store.LeavesFile file course.tree change.tree fault) ∧
    (∀ entries fault, let change := course.store.setAll course.tree entries
      change.fault = some fault → ∃ before key value after,
        entries = before ++ (key, value) :: after ∧
        let reached := course.store.setAll course.tree before
        reached.fault = none ∧ reached.store.values = assignAll course.store.values before ∧
        change.store.values = assign reached.store.values key value ∧
        change.notices = reached.notices ∧
        (change.store.values = reached.store.values ↔ IsSettled reached.store.values key value)) ∧
    ∀ key value, value.IsDocument → let change := course.store.set course.tree key value
      change.fault = none →
        (course.set key value).kept = change.store.values ∧
        Store.load change.tree file = .ok ⟨some file, change.store.values, []⟩ := by
  intro course
  have ahead : course.IsAhead file := Course.isAhead_run loads documents
  refine ⟨ahead.ahead, ?_, ?_, ?_⟩
  · intro key value fault change unsaved
    rcases Store.set_of_fault unsaved with ⟨fails, made, untold⟩
    have values : change.store.values = assign course.store.values key value := by
      rw [made, Store.values_put_eq_assign ahead.distinct]
    refine ⟨values, untold, ?_, ?_, ?_, ?_⟩
    · rw [made, Store.listeners_put]
    · rw [Course.set_of_unsaved unsaved]
    · rw [values, assign_eq_self_iff ahead.distinct]
    · have located : (course.store.put key value).file = some file := by
        rw [Store.file_put, ahead.located]
      exact Store.leavesFile_of_not_saves located fails
  · intro entries fault change unsaved
    rcases Store.setAll_of_fault unsaved with
      ⟨before, key, value, after, split, saved, fails, same, _, told⟩
    rcases Store.values_setAll ahead.distinct saved with ⟨values, distinct⟩
    have last : change.store.values =
        assign (course.store.setAll course.tree before).store.values key value := by
      rw [same, Store.values_set, Store.values_put_eq_assign distinct]
    refine ⟨before, key, value, after, split, saved, values, last, told, ?_⟩
    rw [last, assign_eq_self_iff distinct]
  · intro key value document change saved
    have located : (course.store.put key value).file = some file := by
      rw [Store.file_put, ahead.located]
    have reads := Store.readFile_of_save located
      (Store.isDocument_put ahead.document key document) (Store.save_of_fault_eq_none saved)
    rw [← Store.values_set course.store course.tree key value] at reads
    constructor
    · rw [Course.set_of_saved saved]
    · rw [Store.load, reads]
      rfl

/-- A file in a directory whose name may be that of another file. -/
def blockedFile : Location :=
  ⟨.here, ["d", "s.json"]⟩

/-- The disk with that other file. -/
def blockedDisk : Tree :=
  { items := [(⟨.here, ["d"]⟩, .file (Utf8.encode "x"))] }

/-- The disk with the file, which is protected. -/
def guardedDisk : Tree :=
  { items := [(⟨.here, ["d"]⟩, .directory),
      (blockedFile, .file (Utf8.encode "\x7b\"b\": \"kept\"\x7d"))]
    guarded := [blockedFile] }

/-- A value is saved, and one more is set after the other file has taken the place of the
directory. -/
def blockedActs : List Act :=
  [.update (.one "b" (.text "kept")), .disturb blockedDisk, .update (.one "c" (.int 1))]

theorem unsaved_changes_stay_blocked :
    let course := (Course.start ⟨some blockedFile, [], []⟩ .empty).run blockedActs
    Store.load .empty blockedFile = .ok ⟨some blockedFile, [], []⟩ ∧
    Entries.keys course.kept = ["b"] ∧ Entries.keys course.store.values = ["b", "c"] ∧
    (course.store.set course.tree "b" .null).fault = some (.disk ⟨.exists, ⟨.here, ["d"]⟩⟩) ∧
    Entries.keys (course.store.set course.tree "b" .null).store.values = ["c"] ∧
    let store : Store := ⟨some blockedFile, [("b", .text "kept")], []⟩
    Store.load guardedDisk blockedFile = .ok store ∧
    (store.set guardedDisk "b" .null).fault = some (.disk ⟨.permission, blockedFile⟩) ∧
    (store.set guardedDisk "b" .null).tree = guardedDisk ∧
    let freed : Tree := { guardedDisk with guarded := [] }
    (store.set freed "b" (.text strayText)).fault = some .unencodable ∧
    (store.set freed "b" (.text strayText)).tree.contentOf blockedFile = .ok [] := by
  have loads : Store.load .empty blockedFile = .ok ⟨some blockedFile, [], []⟩ := rfl
  have documents : ∀ act ∈ blockedActs, ∀ entry ∈ act.entries, entry.2.IsDocument := by
    simp only [blockedActs, Act.entries, Update.entries, List.forall_mem_cons, List.not_mem_nil,
      false_imp_iff, implies_true, and_true, true_and]
    exact ⟨.text _, .int _⟩
  have stays := unsaved_changes_stay loads documents
  have fails : let course := (Course.start ⟨some blockedFile, [], []⟩ .empty).run blockedActs
      (course.store.set course.tree "b" .null).fault =
        some (.disk ⟨.exists, ⟨.here, ["d"]⟩⟩) := by
    decide +kernel
  have changed := (stays.2.1 "b" .null _ fails).1
  refine ⟨loads, by decide +kernel, by decide +kernel, fails, ?_, ?_⟩
  · rw [changed]
    decide +kernel
  intro store
  have reads (guarded : List Location) :
      Store.load { guardedDisk with guarded := guarded } blockedFile = .ok store := by
    have kept : IsSavedAs { guardedDisk with guarded := guarded } blockedFile store.values :=
      .inr ⟨_, "\x7b\"b\": \"kept\"\x7d", rfl, Utf8.decode?_encode _, by cbv⟩
    rw [Store.load, readFile_of_isSavedAs kept]
    rfl
  have refused : (store.set guardedDisk "b" .null).fault =
      some (.disk ⟨.permission, blockedFile⟩) := by
    decide +kernel
  have emptied : (store.set { guardedDisk with guarded := [] } "b" (.text strayText)).fault =
      some .unencodable := by
    decide +kernel
  have none : ∀ act ∈ ([] : List Act), ∀ entry ∈ act.entries, entry.2.IsDocument := by simp
  have kept := (unsaved_changes_stay (reads [blockedFile]) none).2.1 "b" .null _ refused
  have lost := (unsaved_changes_stay (reads []) none).2.1 "b" (.text strayText) _ emptied
  have other : Store.SaveFault.disk ⟨.permission, blockedFile⟩ ≠ .unencodable := by
    rintro ⟨⟩
  exact ⟨reads [blockedFile], refused, kept.2.2.2.2.2.intact other (by decide +kernel), emptied,
    lost.2.2.2.2.2.emptied rfl⟩

/-- A store that was loaded as empty and cannot be saved has the value that was set nevertheless,
and loses it when it is deleted, which cannot be saved either. Its listener hears of nothing. -/
theorem unsaved_change_not_undone :
    Store.load blockedDisk blockedFile = .ok ⟨some blockedFile, [], []⟩ ∧
    let store := (⟨some blockedFile, [], []⟩ : Store).subscribe ⟨"l", false⟩
    let change := store.set blockedDisk "a" (.int 1)
    (change.fault = some (.disk ⟨.exists, ⟨.here, ["d"]⟩⟩) ∧ store.values = [] ∧
      change.store.values = [("a", .int 1)] ∧ change.notices = []) ∧
    (change.store.set change.tree "a" .null).fault =
        some (.disk ⟨.exists, ⟨.here, ["d"]⟩⟩) ∧
      (change.store.set change.tree "a" .null).store.values = [] := by
  refine ⟨rfl, ?_⟩
  intro store change
  refine ⟨⟨?_, rfl, rfl, rfl⟩, ?_, rfl⟩
  · decide +kernel
  · decide +kernel

end ImageCatalog.Settings
