import ImageCatalog.Proofs.Settings.Persistence

/-!
# The course of a store

Setting a value calls the listeners one after the other. Each of them finds the store and the disk
as those before it left them, and may leave the store while it is called; who is called is settled
before the first call. `Store.calls` goes through this call by call, and `set_eq_of_saves` says that
setting a value does the same.

A `Course` is a store together with what has been done to it: the calls, the changes that were
announced, the values that were last saved, and the changes since then that could not be saved. Acts
lead from one course to the next. Between them the disk may change in any way.
-/

namespace ImageCatalog.Settings

open Disk Text

/-- A call of a listener: what it is told, and the store and the disk that it finds. -/
structure Call where
  notice : Notice
  store : Store
  tree : Tree

namespace Store

/-- The store after a listener has been called. -/
def afterCall (store : Store) (listener : Listener) : Store :=
  if listener.leavesAfterOne then store.unsubscribe listener else store

/-- Call some listeners one after the other, and return the calls and the store after them. -/
def callAll (store : Store) (tree : Tree) (key : String) (value : Value) :
    List Listener → List Call × Store
  | [] => ([], store)
  | listener :: rest =>
    let (calls, final) := (store.afterCall listener).callAll tree key value rest
    (⟨⟨listener, key, value⟩, store, tree⟩ :: calls, final)

/-- The calls that setting a value leads to; there are none if it cannot be saved. -/
def calls (store : Store) (tree : Tree) (key : String) (value : Value) : List Call :=
  let changed := store.put key value
  match changed.save tree with
  | (.error _, _) => []
  | (.ok (), left) => (changed.callAll left key value changed.listeners).1

theorem snd_callAll (store : Store) (tree : Tree) (key : String) (value : Value)
    (listeners : List Listener) :
    (store.callAll tree key value listeners).2 = store.afterNotices listeners := by
  induction listeners generalizing store with
  | nil => rfl
  | cons listener rest hypothesis =>
      cases leaves : listener.leavesAfterOne <;>
        simp [callAll, hypothesis, afterNotices, afterCall, leaves]

theorem map_notice_callAll (store : Store) (tree : Tree) (key : String) (value : Value)
    (listeners : List Listener) :
    (store.callAll tree key value listeners).1.map Call.notice =
      listeners.map fun listener => ⟨listener, key, value⟩ := by
  induction listeners generalizing store with
  | nil => rfl
  | cons listener rest hypothesis => simp [callAll, hypothesis]

/-- Whoever is called finds the values of the store on the disk that it was saved on. -/
theorem found_of_mem_callAll {store : Store} {tree : Tree} {key : String} {value : Value}
    {listeners : List Listener} {call : Call}
    (member : call ∈ (store.callAll tree key value listeners).1) :
    call.store.values = store.values ∧ call.store.file = store.file ∧ call.tree = tree := by
  induction listeners generalizing store with
  | nil => cases member
  | cons listener rest hypothesis =>
      simp only [callAll, List.mem_cons] at member
      rcases member with rfl | later
      · exact ⟨rfl, rfl, rfl⟩
      · have values : (store.afterCall listener).values = store.values := by
          unfold afterCall
          split <;> rfl
        have file : (store.afterCall listener).file = store.file := by
          unfold afterCall
          split <;> rfl
        rw [← values, ← file]
        exact hypothesis later

theorem store_of_callAll {store : Store} {tree : Tree} {key : String} {value : Value}
    {listeners : List Listener} {before after : List Call} {call : Call}
    (split : (store.callAll tree key value listeners).1 = before ++ call :: after) :
    call.store =
      (before.map fun earlier => earlier.notice.listener).foldl afterCall store := by
  induction listeners generalizing store before with
  | nil => simp [callAll] at split
  | cons listener rest hypothesis =>
      cases before with
      | nil =>
          simp only [callAll, List.nil_append, List.cons.injEq] at split
          simp [← split.1]
      | cons first others =>
          simp only [callAll, List.cons_append, List.cons.injEq] at split
          rcases split with ⟨rfl, later⟩
          have onward := hypothesis later
          simpa using onward

/-- Setting a value is calling the listeners after saving it. -/
theorem set_eq_of_saves {store : Store} {tree left : Tree} {key : String} {value : Value}
    (saves : (store.put key value).save tree = (.ok (), left)) :
    store.set tree key value =
      ⟨((store.put key value).callAll left key value store.listeners).2, left,
        (store.calls tree key value).map Call.notice, none⟩ := by
  simp only [set, saves, calls, snd_callAll, map_notice_callAll, listeners_put]

theorem set_eq_of_not_saves {store : Store} {tree left : Tree} {key : String} {value : Value}
    {fault : SaveFault} (fails : (store.put key value).save tree = (.error fault, left)) :
    store.set tree key value = ⟨store.put key value, left, [], some fault⟩ ∧
      store.calls tree key value = [] := by
  simp only [set, fails, calls, and_self]

/-- A value is set and saved, or it is set and not saved. -/
theorem set_cases (store : Store) (tree : Tree) (key : String) (value : Value) :
    (∃ left, (store.put key value).save tree = (.ok (), left)) ∨
      ∃ fault left, (store.put key value).save tree = (.error fault, left) := by
  rcases (store.put key value).save tree with ⟨fault | _, left⟩
  · exact .inr ⟨fault, left, rfl⟩
  · exact .inl ⟨left, rfl⟩

theorem map_notice_calls (store : Store) (tree : Tree) (key : String) (value : Value) :
    (store.calls tree key value).map Call.notice = (store.set tree key value).notices := by
  rcases store.set_cases tree key value with ⟨left, saves⟩ | ⟨fault, left, fails⟩
  · rw [set_eq_of_saves saves]
  · rcases set_eq_of_not_saves fails with ⟨unsaved, none⟩
    rw [unsaved, none]
    rfl

theorem nodup_keys_put {store : Store} (distinct : (Entries.keys store.values).Nodup)
    (key : String) (value : Value) : (Entries.keys (store.put key value).values).Nodup := by
  unfold put
  split
  · exact Entries.nodup_keys_drop distinct key
  · exact Entries.nodup_keys_put distinct key value

/-- Who leaves when it is called has no subscription afterwards, and nobody else loses one. -/
theorem listeners_afterNotices (store : Store) :
    (store.afterNotices store.listeners).listeners =
      store.listeners.filter fun listener => !listener.leavesAfterOne := by
  have erased (staying others : List Listener)
      (stays : ∀ listener ∈ staying, listener.leavesAfterOne = false) :
      (others.filter (·.leavesAfterOne)).foldl List.erase (staying ++ others) =
        staying ++ others.filter fun listener => !listener.leavesAfterOne := by
    induction others generalizing staying with
    | nil => simp
    | cons listener rest hypothesis =>
        cases leaves : listener.leavesAfterOne with
        | true =>
            have absent : listener ∉ staying := by
              intro member
              simp [stays listener member] at leaves
            simp [leaves, List.erase_append_right _ absent, hypothesis staying stays]
        | false =>
            have longer : ∀ other ∈ staying ++ [listener], other.leavesAfterOne = false := by
              intro other member
              rcases List.mem_append.mp member with old | new
              · exact stays other old
              · rwa [List.mem_singleton.mp new]
            simpa [leaves] using hypothesis (staying ++ [listener]) longer
  have listeners_foldl (leaving : List Listener) (store : Store) :
      (leaving.foldl unsubscribe store).listeners = leaving.foldl List.erase store.listeners := by
    induction leaving generalizing store with
    | nil => rfl
    | cons first rest hypothesis => exact hypothesis (store.unsubscribe first)
  rw [afterNotices, listeners_foldl]
  exact erased [] store.listeners (by simp)

end Store

/-! ## Courses -/

/-- What decides who is called: a listener joins, or its oldest subscription ends, or a change is
announced. -/
inductive Deed
  | joined (listener : Listener)
  | parted (listener : Listener)
  | announced (key : String) (value : Value)

/-- A store and its disk with what has been done to them: the calls and the deeds so far, the values
that were last saved, and the changes since then that could not be saved. -/
structure Course where
  store : Store
  tree : Tree
  calls : List Call
  deeds : List Deed
  kept : List (String × Value)
  unsaved : List (String × Value)

/-- What can be done: a listener is subscribed or unsubscribed, values are set, or something else
changes the disk. -/
inductive Act
  | subscribe (listener : Listener)
  | unsubscribe (listener : Listener)
  | update (update : Update)
  | disturb (tree : Tree)

namespace Course

/-- The course of a store that holds what was last saved. -/
def start (store : Store) (tree : Tree) : Course :=
  ⟨store, tree, [], [], store.values, []⟩

/-- A value is set. -/
def set (course : Course) (key : String) (value : Value) : Course :=
  let change := course.store.set course.tree key value
  let calls := course.calls ++ course.store.calls course.tree key value
  match change.fault with
  | none =>
    ⟨change.store, change.tree, calls, course.deeds ++ [.announced key value], change.store.values,
      []⟩
  | some _ =>
    ⟨change.store, change.tree, calls, course.deeds, course.kept, course.unsaved ++ [(key, value)]⟩

/-- A row of values is set, one after the other, until one cannot be saved. -/
def setAll (course : Course) : List (String × Value) → Course
  | [] => course
  | (key, value) :: rest =>
    match (course.store.set course.tree key value).fault with
    | none => (course.set key value).setAll rest
    | some _ => course.set key value

/-- An act is done. -/
def step (course : Course) : Act → Course
  | .subscribe listener =>
    { course with
      store := course.store.subscribe listener
      deeds := course.deeds ++ [.joined listener] }
  | .unsubscribe listener =>
    { course with
      store := course.store.unsubscribe listener
      deeds := course.deeds ++ [.parted listener] }
  | .update update => course.setAll update.entries
  | .disturb tree => { course with tree }

/-- A row of acts is done. -/
def run (course : Course) (acts : List Act) : Course :=
  acts.foldl step course

variable {course : Course} {key : String} {value : Value}

theorem set_of_saved (saved : (course.store.set course.tree key value).fault = none) :
    course.set key value =
      ⟨(course.store.set course.tree key value).store,
        (course.store.set course.tree key value).tree,
        course.calls ++ course.store.calls course.tree key value,
        course.deeds ++ [.announced key value],
        (course.store.set course.tree key value).store.values, []⟩ := by
  simp only [set, saved]

theorem set_of_unsaved {fault : Store.SaveFault}
    (unsaved : (course.store.set course.tree key value).fault = some fault) :
    course.set key value =
      ⟨(course.store.set course.tree key value).store,
        (course.store.set course.tree key value).tree,
        course.calls ++ course.store.calls course.tree key value, course.deeds, course.kept,
        course.unsaved ++ [(key, value)]⟩ := by
  simp only [set, unsaved]

theorem store_set :
    (course.set key value).store = (course.store.set course.tree key value).store := by
  simp only [set]
  split <;> rfl

theorem tree_set : (course.set key value).tree = (course.store.set course.tree key value).tree := by
  simp only [set]
  split <;> rfl

theorem calls_set :
    (course.set key value).calls = course.calls ++ course.store.calls course.tree key value := by
  simp only [set]
  split <;> rfl

/-- A course goes the way of the store: setting values in it is setting them in the store. -/
theorem setAll_eq (course : Course) (entries : List (String × Value)) :
    let change := course.store.setAll course.tree entries
    (course.setAll entries).store = change.store ∧ (course.setAll entries).tree = change.tree ∧
      (course.setAll entries).calls.map Call.notice =
        course.calls.map Call.notice ++ change.notices := by
  induction entries generalizing course with
  | nil => simp [setAll, Store.setAll]
  | cons entry rest hypothesis =>
      obtain ⟨key, value⟩ := entry
      have later := hypothesis (course.set key value)
      rw [store_set, tree_set, calls_set] at later
      cases outcome : (course.store.set course.tree key value).fault with
      | none => simpa [setAll, Store.setAll, outcome, Store.map_notice_calls] using later
      | some fault =>
          simp [setAll, Store.setAll, outcome, store_set, tree_set, calls_set,
            Store.map_notice_calls]

/-- What holds at the start and is kept by every value that is set holds after a row of values. -/
theorem setAll_induction {holds : Course → Prop} {entries : List (String × Value)}
    (each : ∀ course, ∀ entry ∈ entries, holds course → holds (course.set entry.1 entry.2))
    (now : holds course) : holds (course.setAll entries) := by
  induction entries generalizing course with
  | nil => exact now
  | cons entry rest hypothesis =>
      have first := each course entry List.mem_cons_self now
      unfold setAll
      split
      · apply hypothesis _ first
        intro course other member
        exact each course other (List.mem_cons_of_mem entry member)
      · exact first

/-- What holds at the start and is kept by every act holds after a run. -/
theorem run_induction {holds : Course → Prop} {acts : List Act}
    (each : ∀ course, ∀ act ∈ acts, holds course → holds (course.step act)) (now : holds course) :
    holds (course.run acts) := by
  induction acts generalizing course with
  | nil => exact now
  | cons act rest hypothesis =>
      have first := each course act List.mem_cons_self now
      apply hypothesis _ first
      intro course other member
      exact each course other (List.mem_cons_of_mem act member)

end Course

end ImageCatalog.Settings
