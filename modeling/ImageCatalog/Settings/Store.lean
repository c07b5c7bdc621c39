import ImageCatalog.Disk.Tree
import ImageCatalog.Json.Reader
import ImageCatalog.Json.Writer
import ImageCatalog.Text.Surrogate

/-!
# Saved settings

A `Store` keeps values under names, in the order in which the names were first set. A store with a
file writes the whole of its content to the file after every change; one without lives in memory
only. After the writing the listeners of the store hear of the change, each as often as it is
subscribed, in the order of the subscriptions at that moment.

A file that is missing, or that holds no JSON object, is as good as an empty one. Setting null
deletes a value.
-/

namespace ImageCatalog.Settings

open Disk Text

/-- Who hears of changes; some leave as soon as they have heard of one. -/
structure Listener where
  name : String
  leavesAfterOne : Bool
deriving DecidableEq, Repr

/-- A change that a listener has heard of. -/
structure Notice where
  listener : Listener
  key : String
  value : Value

/-- Values under names, the file that they are saved in, and the subscriptions, oldest first. -/
structure Store where
  file : Option Location
  values : List (String × Value)
  listeners : List Listener

namespace Store

/-- A store without a file. -/
def inMemory (values : List (String × Value)) : Store :=
  ⟨none, values, []⟩

/-- Why a file of saved settings is not read. -/
inductive LoadFault
  | notText
  | overlong (overflow : DigitOverflow)
  | disk (fault : Disk.Fault)
deriving DecidableEq, Repr

/-- The values in the content of a file. -/
def readContent (content : List UInt8) : Except LoadFault (List (String × Value)) :=
  match Utf8.decode? content with
  | none => .error .notText
  | some text =>
    match Json.read text with
    | .ok document => .ok (document.fields?.getD [])
    | .error .malformed => .ok []
    | .error (.overlong overflow) => .error (.overlong overflow)

/-- The values in a file. -/
def readFile (tree : Tree) (file : Location) : Except LoadFault (List (String × Value)) := do
  if ← (tree.holds file).mapError .disk then
    match tree.contentOf file with
    | .ok content => readContent content
    | .error _ => return []
  else return []

/-- The store on a file. -/
def load (tree : Tree) (file : Location) : Except LoadFault Store :=
  (readFile tree file).map fun values => ⟨some file, values, []⟩

/-- The value under a name, which is null if there is none. -/
def get (store : Store) (key : String) : Value :=
  (Entries.find? key store.values).getD .null

/-- The store with a value under a name, or without the name if the value is null. -/
def put (store : Store) (key : String) (value : Value) : Store :=
  if value.isNull then { store with values := Entries.drop key store.values }
  else { store with values := Entries.put key value store.values }

/-- The store with one more subscription. -/
def subscribe (store : Store) (listener : Listener) : Store :=
  { store with listeners := store.listeners ++ [listener] }

/-- The store without the oldest subscription of a listener. -/
def unsubscribe (store : Store) (listener : Listener) : Store :=
  { store with listeners := store.listeners.erase listener }

/-- Why a store is not saved. -/
inductive SaveFault
  | write (fault : Json.WriteFault)
  | disk (fault : Disk.Fault)
  | unencodable
deriving DecidableEq, Repr

/-- Save a store in its file. Directories that were made stay even if the file cannot be written,
and a text that cannot be encoded leaves the file empty. -/
def save (store : Store) (tree : Tree) : Except SaveFault Unit × Tree :=
  match store.file with
  | none => (.ok (), tree)
  | some file =>
    match tree.makeDirectories file.parent with
    | (.error fault, made) => (.error (.disk fault), made)
    | (.ok (), made) =>
      match Json.writeIndented (.object store.values) with
      | .error fault => (.error (.write fault), made)
      | .ok text =>
        match made.write file ((encode? text).getD []) with
        | .error fault => (.error (.disk fault), made)
        | .ok final => (if isWhole text then .ok () else .error .unencodable, final)

/-- What a change of a store leaves behind: the store, the disk, the notices given, and the fault if
the change could not be saved. -/
structure Change where
  store : Store
  tree : Tree
  notices : List Notice
  fault : Option SaveFault

/-- The store after some listeners have heard of a change. -/
def afterNotices (store : Store) (heard : List Listener) : Store :=
  (heard.filter (·.leavesAfterOne)).foldl unsubscribe store

/-- Set a value, save the store and tell the listeners; they are not told if saving fails. -/
def set (store : Store) (tree : Tree) (key : String) (value : Value) : Change :=
  let changed := store.put key value
  match changed.save tree with
  | (.error fault, left) => ⟨changed, left, [], some fault⟩
  | (.ok (), left) =>
    let notices := changed.listeners.map fun listener => ⟨listener, key, value⟩
    ⟨changed.afterNotices changed.listeners, left, notices, none⟩

theorem find?_values_put_of_ne (store : Store) {key other : String} (differs : other ≠ key)
    (value : Value) :
    Entries.find? other (store.put key value).values = Entries.find? other store.values := by
  unfold put
  split
  · exact Entries.find?_drop_of_ne differs store.values
  · exact Entries.find?_put_of_ne differs value store.values

theorem listeners_put (store : Store) (key : String) (value : Value) :
    (store.put key value).listeners = store.listeners := by
  unfold put
  split <;> rfl

theorem file_put (store : Store) (key : String) (value : Value) :
    (store.put key value).file = store.file := by
  unfold put
  split <;> rfl

theorem values_afterNotices (store : Store) (heard : List Listener) :
    (store.afterNotices heard).values = store.values := by
  have values_foldl (leaving : List Listener) (store : Store) :
      (leaving.foldl unsubscribe store).values = store.values := by
    induction leaving generalizing store with
    | nil => rfl
    | cons first others hypothesis => exact hypothesis (store.unsubscribe first)
  exact values_foldl _ store

theorem file_afterNotices (store : Store) (heard : List Listener) :
    (store.afterNotices heard).file = store.file := by
  have file_foldl (leaving : List Listener) (store : Store) :
      (leaving.foldl unsubscribe store).file = store.file := by
    induction leaving generalizing store with
    | nil => rfl
    | cons first others hypothesis => exact hypothesis (store.unsubscribe first)
  exact file_foldl _ store

/-- Who does not leave stays subscribed. -/
theorem mem_listeners_afterNotices {listener : Listener} (stays : listener.leavesAfterOne = false)
    (store : Store) (heard : List Listener) :
    listener ∈ (store.afterNotices heard).listeners ↔ listener ∈ store.listeners := by
  have mem_foldl (leaving : List Listener) (others : ∀ other ∈ leaving, other ≠ listener)
      (store : Store) :
      listener ∈ (leaving.foldl unsubscribe store).listeners ↔ listener ∈ store.listeners := by
    induction leaving generalizing store with
    | nil => rfl
    | cons first rest hypothesis =>
      rw [List.forall_mem_cons] at others
      rw [List.foldl_cons, hypothesis others.2]
      exact List.mem_erase_of_ne others.1.symm
  refine mem_foldl _ (fun other otherMem => ?_) store
  rintro rfl
  simp [stays] at otherMem

/-- Setting a value can be saved, and the listeners hear of it, or not, and they do not. -/
theorem set_saved_or_unsaved (store : Store) (tree : Tree) (key : String) (value : Value) :
    (∃ left, store.set tree key value =
      ⟨(store.put key value).afterNotices store.listeners, left,
        store.listeners.map fun listener => ⟨listener, key, value⟩, none⟩) ∨
    ∃ fault left, store.set tree key value = ⟨store.put key value, left, [], some fault⟩ := by
  rcases saved : (store.put key value).save tree with ⟨fault | _, left⟩
  · exact .inr ⟨fault, left, by simp [set, saved]⟩
  · exact .inl ⟨left, by simp [set, saved, listeners_put]⟩

/-- The values that are kept change even if they cannot be saved. -/
theorem values_set (store : Store) (tree : Tree) (key : String) (value : Value) :
    (store.set tree key value).store.values = (store.put key value).values := by
  rcases store.set_saved_or_unsaved tree key value with ⟨left, saved⟩ | ⟨fault, left, unsaved⟩
  · rw [saved, values_afterNotices]
  · rw [unsaved]

theorem file_set (store : Store) (tree : Tree) (key : String) (value : Value) :
    (store.set tree key value).store.file = store.file := by
  rcases store.set_saved_or_unsaved tree key value with ⟨left, saved⟩ | ⟨fault, left, unsaved⟩
  · rw [saved, file_afterNotices, file_put]
  · rw [unsaved, file_put]

/-- Without a file there is nothing that could fail. -/
theorem set_of_memory {store : Store} (memory : store.file = none) (tree : Tree) (key : String)
    (value : Value) :
    store.set tree key value =
      ⟨(store.put key value).afterNotices store.listeners, tree,
        store.listeners.map fun listener => ⟨listener, key, value⟩, none⟩ := by
  have saved : (store.put key value).save tree = (.ok (), tree) := by
    simp only [save, file_put, memory]
  simp only [set, saved, listeners_put]

theorem mem_listeners_set {listener : Listener} (stays : listener.leavesAfterOne = false)
    (store : Store) (tree : Tree) (key : String) (value : Value) :
    listener ∈ (store.set tree key value).store.listeners ↔ listener ∈ store.listeners := by
  rcases store.set_saved_or_unsaved tree key value with ⟨left, saved⟩ | ⟨fault, left, unsaved⟩
  · rw [saved, mem_listeners_afterNotices stays, listeners_put]
  · rw [unsaved, listeners_put]

/-- Set a row of values one after the other, until saving fails. -/
def setAll (store : Store) (tree : Tree) : List (String × Value) → Change
  | [] => ⟨store, tree, [], none⟩
  | (key, value) :: rest =>
    let change := store.set tree key value
    match change.fault with
    | some _ => change
    | none =>
      let later := change.store.setAll change.tree rest
      { later with notices := change.notices ++ later.notices }

end Store

end ImageCatalog.Settings
