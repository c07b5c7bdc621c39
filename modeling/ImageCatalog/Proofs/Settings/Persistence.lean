import ImageCatalog.Proofs.Disk.Written
import ImageCatalog.Proofs.Json.RoundTrip
import ImageCatalog.Settings.Store
import Mathlib

/-!
# What a store of settings keeps

A store on a file is an ordered map: setting a value overwrites it in its place or appends it,
setting null deletes it, and nothing else changes. The file is a copy of the map. After every change
that can be saved, a store that is loaded from the file afresh has the same values in the same
order.

The invariant of a run is `IsPersisted`. It asks for values that JSON texts can express under
distinct names, since these are what a text can give back, and for a file that is read as these
values.
-/

namespace ImageCatalog.Settings

open Disk Text

/-! ## Ordered maps -/

/-- An ordered map with a value set: overwritten in its place or appended, or deleted by null. -/
def assign (map : List (String × Value)) (key : String) (value : Value) : List (String × Value) :=
  if value.isNull then map.filter fun entry => entry.1 ≠ key
  else if key ∈ map.map Prod.fst then
    map.map fun entry => if entry.1 = key then (key, value) else entry
  else map ++ [(key, value)]

/-- An ordered map with a row of values set, one after the other. -/
def assignAll (map : List (String × Value)) (entries : List (String × Value)) :
    List (String × Value) :=
  entries.foldl (fun map entry => assign map entry.1 entry.2) map

/-- The value that an ordered map has under a name, which is null if there is none. -/
def lookup (map : List (String × Value)) (key : String) : Value :=
  ((map.find? fun entry => entry.1 = key).map Prod.snd).getD .null

/-- Setting a value leaves what is under other names alone. -/
theorem lookup_assign_of_ne {key other : String} (differs : other ≠ key)
    (map : List (String × Value)) (value : Value) :
    lookup (assign map key value) other = lookup map other := by
  have overwritten : (map.map fun entry => if entry.1 = key then (key, value) else entry).find?
      (fun entry => entry.1 = other) = map.find? fun entry => entry.1 = other := by
    induction map with
    | nil => rfl
    | cons entry rest hypothesis =>
        by_cases same : entry.1 = key
        · simp [same, Ne.symm differs, hypothesis]
        · simp [List.find?_cons, same, hypothesis]
  have deleted : (map.filter fun entry => entry.1 ≠ key).find? (fun entry => entry.1 = other) =
      map.find? fun entry => entry.1 = other := by
    rw [List.find?_filter]
    congr 1
    funext entry
    by_cases same : entry.1 = other <;> simp [same, differs]
  unfold assign lookup
  split
  · rw [deleted]
  · split
    · rw [overwritten]
    · simp [Ne.symm differs]

theorem lookup_assignAll {key : String} {entries : List (String × Value)}
    (untouched : key ∉ Entries.keys entries) (map : List (String × Value)) :
    lookup (assignAll map entries) key = lookup map key := by
  induction entries generalizing map with
  | nil => rfl
  | cons entry rest hypothesis =>
      rw [Entries.keys, List.map_cons, List.mem_cons, not_or] at untouched
      rw [assignAll, List.foldl_cons]
      exact (hypothesis untouched.2 _).trans (lookup_assign_of_ne untouched.1 map entry.2)

namespace Store

theorem get_eq_lookup (store : Store) (key : String) : store.get key = lookup store.values key := by
  rw [get, Entries.find?_eq_find?, lookup]

theorem values_put_eq_assign {store : Store} (distinct : (Entries.keys store.values).Nodup)
    (key : String) (value : Value) :
    (store.put key value).values = assign store.values key value := by
  unfold put assign
  split
  · exact Entries.drop_eq_filter distinct key
  · split
    · next member => exact Entries.put_eq_map distinct member value
    · next absent => exact Entries.put_of_not_mem absent value

/-! ## Saving -/

/-- Saving makes the directory of the file and writes the file, which is empty if the text has a
half in it. -/
theorem parts_of_written {store : Store} {file : Location} {tree left : Tree}
    {result : Except SaveFault Unit} (located : store.file = some file)
    (saves : store.save tree = (result, left))
    (written : result = .ok () ∨ result = .error .unencodable) :
    ∃ made text, tree.makeDirectories file.parent = (.ok (), made) ∧
      Json.writeIndented (.object store.values) = .ok text ∧
      result = (if isWhole text then .ok () else .error .unencodable) ∧
      made.write file ((encode? text).getD []) = .ok left := by
  unfold save at saves
  rw [located] at saves
  simp only at saves
  split at saves
  · cases saves
    simp at written
  · next made makes =>
      split at saves
      · cases saves
        simp at written
      · next text writes =>
          split at saves
          · cases saves
            simp at written
          · next final filled =>
              simp only [Prod.mk.injEq] at saves
              rcases saves with ⟨rfl, rfl⟩
              exact ⟨made, text, makes, writes, rfl, filled⟩

/-- What has been saved is a text without halves. -/
theorem parts_of_save {store : Store} {file : Location} {tree left : Tree}
    (located : store.file = some file) (saves : store.save tree = (.ok (), left)) :
    ∃ made text, tree.makeDirectories file.parent = (.ok (), made) ∧
      Json.writeIndented (.object store.values) = .ok text ∧ isWhole text = true ∧
      made.write file (Utf8.encode text) = .ok left := by
  rcases parts_of_written located saves (.inl rfl) with ⟨made, text, makes, writes, result, written⟩
  have whole : isWhole text = true := by
    by_contra half
    rw [if_neg half] at result
    cases result
  rw [encode?, if_pos whole] at written
  exact ⟨made, text, makes, writes, whole, written⟩

/-- A text with halves leaves the file empty. -/
theorem parts_of_unencodable {store : Store} {file : Location} {tree left : Tree}
    (located : store.file = some file)
    (fails : store.save tree = (.error .unencodable, left)) :
    ∃ made text, tree.makeDirectories file.parent = (.ok (), made) ∧
      Json.writeIndented (.object store.values) = .ok text ∧ isWhole text = false ∧
      made.write file [] = .ok left := by
  rcases parts_of_written located fails (.inr rfl) with ⟨made, text, makes, writes, result, written⟩
  have half : ¬isWhole text = true := by
    intro whole
    rw [if_pos whole] at result
    cases result
  rw [encode?, if_neg half] at written
  exact ⟨made, text, makes, writes, by simpa using half, written⟩

/-- What is saved is read. -/
theorem readFile_of_save {store : Store} {file : Location} {tree left : Tree}
    (located : store.file = some file) (document : (Value.object store.values).IsDocument)
    (saves : store.save tree = (.ok (), left)) : readFile left file = .ok store.values := by
  rcases parts_of_save located saves with ⟨made, text, _, writes, _, written⟩
  have read := Json.read_of_writeIndented document writes
  simp only [readFile, Tree.holds_of_write written, Tree.contentOf_of_write written, readContent,
    Utf8.decode?_encode, read]
  rfl

/-- A change that can be saved leaves behind what saving does. -/
theorem save_of_fault_eq_none {store : Store} {tree : Tree} {key : String} {value : Value}
    (saved : (store.set tree key value).fault = none) :
    (store.put key value).save tree = (.ok (), (store.set tree key value).tree) := by
  unfold set at saved ⊢
  simp only at saved ⊢
  split at saved
  · cases saved
  · next saves => simp only [saves]

/-! ## Changes -/

/-- A store on a file that is read as its values, which are such that JSON texts can express
them. -/
structure IsPersisted (file : Location) (store : Store) (tree : Tree) : Prop where
  located : store.file = some file
  document : (Value.object store.values).IsDocument
  reads : readFile tree file = .ok store.values

theorem isDocument_put {store : Store} (document : (Value.object store.values).IsDocument)
    (key : String) {value : Value} (valueDocument : value.IsDocument) :
    (Value.object (store.put key value).values).IsDocument := by
  rcases document with _ | _ | _ | _ | _ | _ | ⟨_, distinct, each⟩
  unfold put
  split
  · exact .object _ (Entries.nodup_keys_drop distinct key) fun field member =>
      each field (Entries.mem_of_mem_drop member)
  · refine .object _ (Entries.nodup_keys_put distinct key value) fun field member => ?_
    rcases Entries.mem_put member with rfl | older
    · exact valueDocument
    · exact each field older

variable {file : Location} {store : Store} {tree : Tree}

theorem IsPersisted.distinct (persisted : IsPersisted file store tree) :
    (Entries.keys store.values).Nodup := by
  cases persisted.document
  assumption

/-- One value that is set: the map has it, and the file follows. -/
theorem IsPersisted.set (persisted : IsPersisted file store tree) (key : String) {value : Value}
    (document : value.IsDocument) (saved : (store.set tree key value).fault = none) :
    IsPersisted file (store.set tree key value).store (store.set tree key value).tree ∧
      (store.set tree key value).store.values = assign store.values key value := by
  have values := values_set store tree key value
  have changed := isDocument_put persisted.document key document
  have located : (store.put key value).file = some file := by rw [file_put, persisted.located]
  refine ⟨⟨?_, ?_, ?_⟩, ?_⟩
  · rw [file_set, persisted.located]
  · rw [values]
    exact changed
  · rw [values]
    exact readFile_of_save located changed (save_of_fault_eq_none saved)
  · rw [values, values_put_eq_assign persisted.distinct]

/-- A row of values that are set: the map has them, and the file follows. -/
theorem IsPersisted.setAll (persisted : IsPersisted file store tree)
    {entries : List (String × Value)} (documents : ∀ entry ∈ entries, entry.2.IsDocument)
    (saved : (store.setAll tree entries).fault = none) :
    IsPersisted file (store.setAll tree entries).store (store.setAll tree entries).tree ∧
      (store.setAll tree entries).store.values = assignAll store.values entries := by
  induction entries generalizing store tree with
  | nil => exact ⟨persisted, rfl⟩
  | cons entry rest hypothesis =>
      obtain ⟨key, value⟩ := entry
      rw [List.forall_mem_cons] at documents
      unfold Store.setAll at saved ⊢
      simp only at saved ⊢
      split at saved
      · next fault unsaved => rw [unsaved] at saved; cases saved
      · next first =>
          simp only at saved ⊢
          rcases persisted.set key documents.1 first with ⟨next, values⟩
          rcases hypothesis next documents.2 saved with ⟨later, laterValues⟩
          rw [values] at laterValues
          exact ⟨later, laterValues⟩

end Store

/-! ## Runs -/

/-- A change that a user asks for: one value, or a row of values. -/
inductive Update
  | one (key : String) (value : Value)
  | several (entries : List (String × Value))

/-- The values that an update sets, in order. -/
def Update.entries : Update → List (String × Value)
  | .one key value => [(key, value)]
  | .several entries => entries

/-- Carry an update out. -/
def Update.perform (store : Store) (tree : Tree) : Update → Store.Change
  | .one key value => store.set tree key value
  | .several entries => store.setAll tree entries

/-- A run of updates, all of which can be saved, from one store and disk to another. -/
inductive Runs : Store → Tree → List Update → Store → Tree → Prop where
  | nil (store : Store) (tree : Tree) : Runs store tree [] store tree
  | cons {store final : Store} {tree left : Tree} {update : Update} {rest : List Update}
      (saved : (update.perform store tree).fault = none)
      (later : Runs (update.perform store tree).store (update.perform store tree).tree rest final
        left) : Runs store tree (update :: rest) final left

/-- The file is missing and there are no values, or the file holds a JSON object with the values. -/
def IsSavedAs (tree : Tree) (file : Location) (values : List (String × Value)) : Prop :=
  (tree.holds file = .ok false ∧ values = []) ∨
    ∃ content text, tree.contentOf file = .ok content ∧ Utf8.decode? content = some text ∧
      Json.read text = .ok (.object values)

/-- An ordered map with a row of updates carried out. -/
def assignUpdates (map : List (String × Value)) (updates : List Update) : List (String × Value) :=
  updates.foldl (fun map update => assignAll map update.entries) map

theorem lookup_assignUpdates {key : String} {updates : List Update}
    (untouched : ∀ update ∈ updates, key ∉ Entries.keys update.entries)
    (map : List (String × Value)) : lookup (assignUpdates map updates) key = lookup map key := by
  induction updates generalizing map with
  | nil => rfl
  | cons update rest hypothesis =>
      rw [List.forall_mem_cons] at untouched
      exact (hypothesis untouched.2 _).trans (lookup_assignAll untouched.1 map)

variable {tree left : Tree} {file : Location} {values : List (String × Value)} {store final : Store}

theorem readFile_of_isSavedAs (saved : IsSavedAs tree file values) :
    Store.readFile tree file = .ok values := by
  rcases saved with ⟨missing, rfl⟩ | ⟨content, text, found, decodes, reads⟩
  · simp only [Store.readFile, missing]
    rfl
  · simp only [Store.readFile, Tree.holds_of_contentOf found, found, Store.readContent, decodes,
      reads]
    rfl

theorem isDocument_of_isSavedAs (saved : IsSavedAs tree file values) :
    (Value.object values).IsDocument := by
  rcases saved with ⟨_, rfl⟩ | ⟨_, _, _, _, reads⟩
  · exact .object [] List.nodup_nil fun field member => absurd member List.not_mem_nil
  · exact Json.isDocument_of_read reads

theorem isPersisted_perform (persisted : Store.IsPersisted file store tree) {update : Update}
    (documents : ∀ entry ∈ update.entries, entry.2.IsDocument)
    (saved : (update.perform store tree).fault = none) :
    Store.IsPersisted file (update.perform store tree).store (update.perform store tree).tree ∧
      (update.perform store tree).store.values = assignAll store.values update.entries := by
  cases update with
  | one key value => exact persisted.set key (documents (key, value) List.mem_cons_self) saved
  | several entries => exact persisted.setAll documents saved

/-- What a run preserves, and what it makes of the map. -/
theorem isPersisted_of_runs {updates : List Update} (persisted : Store.IsPersisted file store tree)
    (documents : ∀ update ∈ updates, ∀ entry ∈ update.entries, entry.2.IsDocument)
    (runs : Runs store tree updates final left) :
    Store.IsPersisted file final left ∧ final.values = assignUpdates store.values updates := by
  induction runs with
  | nil store tree => exact ⟨persisted, rfl⟩
  | cons saved later hypothesis =>
      rw [List.forall_mem_cons] at documents
      rcases isPersisted_perform persisted documents.1 saved with ⟨next, values⟩
      rcases hypothesis next documents.2 with ⟨reached, finalValues⟩
      rw [values] at finalValues
      exact ⟨reached, finalValues⟩

/-- A store on a file that is missing or holds a JSON object has the values of the object. After any
run of updates it has the values of the ordered map on which the same updates are carried out, and
so has a store that is loaded afresh. Every start of a run is a run, so this holds after each of the
updates. -/
theorem runs_refine_map (kept : IsSavedAs tree file values) (listeners : List Listener)
    {updates : List Update}
    (documents : ∀ update ∈ updates, ∀ entry ∈ update.entries, entry.2.IsDocument) :
    Store.load tree file = .ok ⟨some file, values, []⟩ ∧
    ∀ {final left}, Runs ⟨some file, values, listeners⟩ tree updates final left →
      final.values = assignUpdates values updates ∧
      (∀ key, final.get key = lookup (assignUpdates values updates) key) ∧
      (∀ key, (∀ update ∈ updates, key ∉ Entries.keys update.entries) →
        final.get key = lookup values key) ∧
      Store.load left file = .ok ⟨some file, final.values, []⟩ := by
  have reads := readFile_of_isSavedAs kept
  refine ⟨by rw [Store.load, reads]; rfl, fun runs => ?_⟩
  have persisted : Store.IsPersisted file ⟨some file, values, listeners⟩ tree :=
    ⟨rfl, isDocument_of_isSavedAs kept, reads⟩
  rcases isPersisted_of_runs persisted documents runs with ⟨reached, finalValues⟩
  refine ⟨finalValues, fun key => ?_, fun key untouched => ?_, ?_⟩
  · rw [Store.get_eq_lookup, finalValues]
  · rw [Store.get_eq_lookup, finalValues, lookup_assignUpdates untouched]
  · rw [Store.load, reached.reads]
    rfl

/-- The location of a file of settings. -/
def sampleFile : Location :=
  ⟨.here, ["saved.json"]⟩

/-- A disk with nothing but a file of settings. -/
def sampleDisk : Tree :=
  { items := [(sampleFile, .file (Utf8.encode "\x7b\"a\": true, \"b\": [null, 12]\x7d"))] }

/-- The values in the file. -/
def sampleValues : List (String × Value) :=
  [("a", .bool true), ("b", .list [.null, .int 12])]

/-- The number 1.5. -/
def oneAndAHalf : Number.Binary64 :=
  .finite ⟨false, 6755399441055744, -52, by decide⟩

/-- One value and a row of values to set, with one to overwrite and one to delete. -/
def sampleUpdates : List Update :=
  [.one "c" (.text "\"é\n"), .several [("b", .object [("d", .float oneAndAHalf)]), ("a", .null)]]

theorem runs_refine_map_saved :
    IsSavedAs sampleDisk sampleFile sampleValues ∧
    (∀ update ∈ sampleUpdates, ∀ entry ∈ update.entries, entry.2.IsDocument) ∧
    ∃ final left, Runs ⟨some sampleFile, sampleValues, []⟩ sampleDisk sampleUpdates final left ∧
      final.values = [("b", .object [("d", .float oneAndAHalf)]), ("c", .text "\"é\n")] ∧
      Store.load left sampleFile = .ok ⟨some sampleFile, final.values, []⟩ := by
  have kept : IsSavedAs sampleDisk sampleFile sampleValues := by
    refine .inr ⟨_, "\x7b\"a\": true, \"b\": [null, 12]\x7d", rfl, Utf8.decode?_encode _, ?_⟩
    cbv
  have documents : ∀ update ∈ sampleUpdates, ∀ entry ∈ update.entries, entry.2.IsDocument := by
    simp only [sampleUpdates, Update.entries, List.forall_mem_cons, List.not_mem_nil, false_imp_iff,
      implies_true, and_true]
    refine ⟨.text _, .object _ (by decide) ?_, .null⟩
    simp only [List.forall_mem_cons, List.not_mem_nil, false_imp_iff, implies_true, and_true]
    exact .float _
  have runs : Runs ⟨some sampleFile, sampleValues, []⟩ sampleDisk sampleUpdates _ _ :=
    .cons (by decide +kernel) (.cons (by decide +kernel) (.nil _ _))
  rcases (runs_refine_map kept [] documents).2 runs with ⟨values, _, _, loads⟩
  refine ⟨kept, documents, _, _, runs, values.trans ?_, loads⟩
  rfl

end ImageCatalog.Settings
