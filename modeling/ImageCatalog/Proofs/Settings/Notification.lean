import ImageCatalog.Proofs.Settings.Course

/-!
# Who hears of what

The notices of a whole course depend on nothing but the order in which listeners join and part and
changes are announced: `hearings` reads them off, from the subscriptions at the start. Whoever is
subscribed when a change is announced hears of it once for each of its subscriptions, and finds the
new values in the store and in the file. Listeners that leave while they are called are gone when
the next change is announced, so that of a row of values they hear of the first only.
-/

namespace ImageCatalog.Settings

open Disk Text

/-- The notices that some deeds lead to, from the listeners who are present at first. -/
def hearings : List Listener → List Deed → List Notice
  | _, [] => []
  | present, .joined listener :: later => hearings (present ++ [listener]) later
  | present, .parted listener :: later => hearings (present.erase listener) later
  | present, .announced key value :: later =>
    present.map (fun listener => ⟨listener, key, value⟩) ++
      hearings (present.filter fun listener => !listener.leavesAfterOne) later

/-- The listeners who are present after some deeds. -/
def presentAfter : List Listener → List Deed → List Listener
  | present, [] => present
  | present, .joined listener :: later => presentAfter (present ++ [listener]) later
  | present, .parted listener :: later => presentAfter (present.erase listener) later
  | present, .announced _ _ :: later =>
    presentAfter (present.filter fun listener => !listener.leavesAfterOne) later

theorem hearings_concat (present : List Listener) (deeds : List Deed) (last : Deed) :
    hearings present (deeds ++ [last]) =
      hearings present deeds ++ hearings (presentAfter present deeds) [last] := by
  induction deeds generalizing present with
  | nil => simp [hearings, presentAfter]
  | cons deed rest hypothesis => cases deed <;> simp [hearings, presentAfter, hypothesis]

theorem presentAfter_concat (present : List Listener) (deeds : List Deed) (last : Deed) :
    presentAfter present (deeds ++ [last]) = presentAfter (presentAfter present deeds) [last] := by
  induction deeds generalizing present with
  | nil => rfl
  | cons deed rest hypothesis => cases deed <;> simp [presentAfter, hypothesis]

namespace Store

variable {store : Store} {tree : Tree} {key : String} {value : Value}

/-- A store is written to its file as a JSON text. -/
def IsWritten (store : Store) (tree : Tree) : Prop :=
  ∀ file, store.file = some file → ∃ text,
    Json.writeIndented (.object store.values) = .ok text ∧
      tree.contentOf file = .ok (Utf8.encode text)

theorem isWritten_of_save {left : Tree} (saves : store.save tree = (.ok (), left)) :
    store.IsWritten left := by
  intro file located
  rcases parts_of_save located saves with ⟨_, text, _, writes, _, written⟩
  exact ⟨text, writes, Tree.contentOf_of_write written⟩

/-- A saved change is announced to all listeners, who find it in the store and in the file, and
those who leave are gone afterwards. -/
theorem calls_of_saved (saved : (store.set tree key value).fault = none) :
    (store.calls tree key value).map Call.notice =
        store.listeners.map (fun listener => ⟨listener, key, value⟩) ∧
      (∀ call ∈ store.calls tree key value,
        call.store.values = (store.put key value).values ∧ call.store.IsWritten call.tree) ∧
      (store.set tree key value).store.listeners =
        store.listeners.filter fun listener => !listener.leavesAfterOne := by
  rcases store.set_cases tree key value with ⟨left, saves⟩ | ⟨fault, left, fails⟩
  · refine ⟨?_, ?_, ?_⟩
    · simp only [calls, saves, map_notice_callAll, listeners_put]
    · intro call member
      simp only [calls, saves] at member
      rcases found_of_mem_callAll member with ⟨values, file, found⟩
      refine ⟨values, ?_⟩
      unfold IsWritten
      rw [values, file, found]
      exact isWritten_of_save saves
    · rw [set_eq_of_saves saves, snd_callAll, ← listeners_put store key value,
        listeners_afterNotices]
  · rw [(set_eq_of_not_saves fails).1] at saved
    cases saved

/-- Whoever is called finds what the listeners called before it have made of the store. -/
theorem store_of_calls (saved : (store.set tree key value).fault = none) {before after : List Call}
    {call : Call} (split : store.calls tree key value = before ++ call :: after) :
    call.store =
      (before.map fun earlier => earlier.notice.listener).foldl afterCall
        (store.put key value) := by
  rcases store.set_cases tree key value with ⟨left, saves⟩ | ⟨fault, left, fails⟩
  · simp only [calls, saves] at split
    exact store_of_callAll split
  · rw [(set_eq_of_not_saves fails).1] at saved
    cases saved

theorem calls_of_unsaved {fault : SaveFault}
    (unsaved : (store.set tree key value).fault = some fault) :
    store.calls tree key value = [] ∧
      (store.set tree key value).store.listeners = store.listeners := by
  rcases store.set_cases tree key value with ⟨left, saves⟩ | ⟨_, left, fails⟩
  · rw [set_eq_of_saves saves] at unsaved
    cases unsaved
  · rcases set_eq_of_not_saves fails with ⟨changes, none⟩
    rw [changes]
    exact ⟨none, listeners_put store key value⟩

/-- Among the notices of a row of values, those for a listener who is not there are none. -/
theorem filter_notices_setAll_of_not_mem {listener : Listener} (absent : listener ∉ store.listeners)
    (entries : List (String × Value)) :
    (store.setAll tree entries).notices.filter (fun notice => notice.listener = listener) = [] := by
  induction entries generalizing store tree with
  | nil => rfl
  | cons entry rest hypothesis =>
      obtain ⟨key, value⟩ := entry
      cases outcome : (store.set tree key value).fault with
      | some fault =>
          simp [setAll, outcome, ← map_notice_calls, (calls_of_unsaved outcome).1]
      | none =>
          rcases calls_of_saved outcome with ⟨notices, _, left⟩
          have gone : listener ∉ (store.set tree key value).store.listeners := by
            rw [left]
            intro member
            exact absent (List.mem_filter.mp member).1
          have unheard : ∀ other ∈ store.listeners, ¬other = listener := by
            rintro other member rfl
            exact absent member
          simpa [setAll, outcome, ← map_notice_calls, notices, hypothesis gone] using unheard

/-- Of a row of values a listener who leaves when it is called hears of the first only, once for
each of its subscriptions. -/
theorem filter_notices_setAll {listener : Listener} (leaves : listener.leavesAfterOne = true)
    (saved : (store.set tree key value).fault = none) (rest : List (String × Value)) :
    (store.setAll tree ((key, value) :: rest)).notices.filter
        (fun notice => notice.listener = listener) =
      List.replicate (store.listeners.count listener) ⟨listener, key, value⟩ := by
  rcases calls_of_saved saved with ⟨notices, _, left⟩
  have gone : listener ∉ (store.set tree key value).store.listeners := by
    rw [left]
    simp [leaves]
  have first (listeners : List Listener) :
      (listeners.map fun other => (⟨other, key, value⟩ : Notice)).filter
        (fun notice => notice.listener = listener) =
      List.replicate (listeners.count listener) ⟨listener, key, value⟩ := by
    induction listeners with
    | nil => rfl
    | cons other others hypothesis =>
        by_cases same : other = listener
        · simp [same, hypothesis, List.replicate_succ]
        · simp [same, hypothesis]
  simp [setAll, saved, ← map_notice_calls, notices, first, filter_notices_setAll_of_not_mem gone]

end Store

namespace Course

/-- The calls and the subscriptions of a course are those that its deeds lead to. -/
def IsHeard (present : List Listener) (course : Course) : Prop :=
  course.calls.map Call.notice = hearings present course.deeds ∧
    course.store.listeners = presentAfter present course.deeds

variable {course : Course} {present : List Listener}

theorem IsHeard.set (heard : course.IsHeard present) (key : String) (value : Value) :
    (course.set key value).IsHeard present := by
  rcases heard with ⟨notices, listeners⟩
  cases outcome : (course.store.set course.tree key value).fault with
  | none =>
      rcases Store.calls_of_saved outcome with ⟨told, _, left⟩
      rw [set_of_saved outcome]
      constructor
      · simp [hearings_concat, hearings, notices, told, listeners]
      · simp [presentAfter_concat, presentAfter, left, listeners]
  | some fault =>
      rcases Store.calls_of_unsaved outcome with ⟨none, left⟩
      rw [set_of_unsaved outcome]
      constructor
      · simpa [none] using notices
      · simpa [left] using listeners

theorem IsHeard.step (heard : course.IsHeard present) (act : Act) :
    (course.step act).IsHeard present := by
  cases act with
  | subscribe listener =>
      constructor
      · simpa [Course.step, hearings_concat, hearings] using heard.1
      · simp [Course.step, Store.subscribe, presentAfter_concat, presentAfter, heard.2]
  | unsubscribe listener =>
      constructor
      · simpa [Course.step, hearings_concat, hearings] using heard.1
      · simp [Course.step, Store.unsubscribe, presentAfter_concat, presentAfter, heard.2]
  | update update =>
      exact setAll_induction (fun _ entry _ now => IsHeard.set now entry.1 entry.2) heard
  | disturb tree => exact heard

theorem isHeard_run (store : Store) (tree : Tree) (acts : List Act) :
    ((start store tree).run acts).IsHeard store.listeners :=
  run_induction (fun _ act _ now => IsHeard.step now act) ⟨rfl, rfl⟩

/-- No name has two values in the store of a course. -/
def IsMap (course : Course) : Prop :=
  (Entries.keys course.store.values).Nodup

theorem IsMap.set (isMap : course.IsMap) (key : String) (value : Value) :
    (course.set key value).IsMap := by
  rw [IsMap, store_set, Store.values_set]
  exact Store.nodup_keys_put isMap key value

theorem IsMap.step (isMap : course.IsMap) (act : Act) : (course.step act).IsMap := by
  cases act with
  | update update =>
      exact setAll_induction (fun _ entry _ now => IsMap.set now entry.1 entry.2) isMap
  | _ => exact isMap

theorem isMap_run {store : Store} (distinct : (Entries.keys store.values).Nodup) (tree : Tree)
    (acts : List Act) : ((start store tree).run acts).IsMap :=
  run_induction (fun _ act _ now => IsMap.step now act) distinct

theorem perform_step (course : Course) (update : Update) :
    let change := update.perform course.store course.tree
    let next := course.step (.update update)
    next.store = change.store ∧ next.tree = change.tree ∧
      next.calls.map Call.notice = course.calls.map Call.notice ++ change.notices := by
  cases update with
  | several entries => exact course.setAll_eq entries
  | one key value =>
      have single : course.setAll [(key, value)] = course.set key value := by
        unfold setAll
        split <;> rfl
      simp [step, Update.entries, Update.perform, single, store_set, tree_set, calls_set,
        Store.map_notice_calls]

end Course

/-- In the course of a store, whatever is done to it and whatever happens to the disk, the notices
are those that its deeds lead to. A change that is saved is told to everyone who is subscribed then,
in the order of the subscriptions and once for each, although those who are called first may have
left the store when the next one is called; whoever is called finds the new values in the store and
in the file. A change that is not saved is told to nobody. Unsubscribing ends the
oldest subscription of a listener and no other one. Of a row of values a listener who leaves when it
is called hears of the first only. -/
theorem changes_are_heard {store : Store} (distinct : (Entries.keys store.values).Nodup)
    (tree : Tree) (acts : List Act) :
    let course := (Course.start store tree).run acts
    let present := course.store.listeners
    (course.calls.map Call.notice = hearings store.listeners course.deeds ∧
      present = presentAfter store.listeners course.deeds) ∧
    (∀ update, let change := Update.perform course.store course.tree update
      let next := course.step (.update update)
      next.store = change.store ∧ next.tree = change.tree ∧
        next.calls.map Call.notice = course.calls.map Call.notice ++ change.notices) ∧
    (∀ key value, let change := course.store.set course.tree key value
      let calls := course.store.calls course.tree key value
      (change.fault = none →
        calls.map Call.notice = present.map (fun listener => ⟨listener, key, value⟩) ∧
        ∀ before call after, calls = before ++ call :: after →
          call.store = (before.map fun earlier => earlier.notice.listener).foldl Store.afterCall
            (course.store.put key value) ∧
          call.store.values = assign course.store.values key value ∧
          call.store.IsWritten call.tree) ∧
      (change.fault ≠ none → calls = [] ∧ change.store.listeners = present)) ∧
    (∀ listener, (listener ∉ present → course.store.unsubscribe listener = course.store) ∧
      ∀ older newer, present = older ++ listener :: newer → listener ∉ older →
        (course.store.unsubscribe listener).listeners = older ++ newer) ∧
    ∀ listener key value rest, listener.leavesAfterOne = true →
      (course.store.set course.tree key value).fault = none →
      (course.store.setAll course.tree ((key, value) :: rest)).notices.filter
          (fun notice => notice.listener = listener) =
        List.replicate (present.count listener) ⟨listener, key, value⟩ := by
  intro course present
  refine ⟨Course.isHeard_run store tree acts, course.perform_step, fun key value => ⟨?_, ?_⟩,
    fun listener => ⟨?_, ?_⟩, ?_⟩
  · intro saved
    rcases Store.calls_of_saved saved with ⟨notices, found, _⟩
    refine ⟨notices, fun before call after split => ?_⟩
    rcases found call (by simp [split]) with ⟨values, written⟩
    rw [values, Store.values_put_eq_assign (Course.isMap_run distinct tree acts)]
    exact ⟨Store.store_of_calls saved split, rfl, written⟩
  · intro unsaved
    rcases Option.ne_none_iff_exists'.mp unsaved with ⟨fault, fails⟩
    exact Store.calls_of_unsaved fails
  · intro absent
    have same : course.store.listeners.erase listener = course.store.listeners :=
      List.erase_of_not_mem absent
    rw [Store.unsubscribe, same]
  · intro older newer split absent
    simp only [present] at split
    simp only [Store.unsubscribe, split, List.erase_append_right _ absent, List.erase_cons_head]
  · intro listener key value rest leaves saved
    exact Store.filter_notices_setAll leaves saved rest

/-- A store on a file with one listener who stays and, twice, one who leaves when it is called. -/
def attendedStore : Store :=
  ⟨some sampleFile, sampleValues, [⟨"leaves", true⟩, ⟨"stays", false⟩, ⟨"leaves", true⟩]⟩

/-- Two values are set, the listener who stays joins again and parts, and one more value is set. -/
def attendedActs : List Act :=
  [.update (.several [("a", .int 1), ("b", .null)]), .subscribe ⟨"stays", false⟩,
    .unsubscribe ⟨"stays", false⟩, .subscribe ⟨"leaves", true⟩, .update (.one "c" (.bool false))]

theorem changes_are_heard_attended :
    (Entries.keys attendedStore.values).Nodup ∧
    ((Course.start attendedStore sampleDisk).run attendedActs).calls.map
        (fun call => (call.notice.listener.name, call.notice.key)) =
      [("leaves", "a"), ("stays", "a"), ("leaves", "a"), ("stays", "b"), ("stays", "c"),
        ("leaves", "c")] := by
  have distinct : (Entries.keys attendedStore.values).Nodup := by decide
  have heard := (changes_are_heard distinct sampleDisk attendedActs).1.1
  have outlines := congrArg
    (List.map fun notice : Notice => (notice.listener.name, notice.key)) heard
  rw [List.map_map] at outlines
  refine ⟨distinct, outlines.trans ?_⟩
  decide +kernel

end ImageCatalog.Settings
