import ImageCatalog.Catalog.Source
import ImageCatalog.Proofs.Items
import ImageCatalog.Proofs.Results

/-!
# Sessions

In a session several calls ask one source for its catalog while settings change, the catalog is
invalidated, and replies arrive, in any order. Asking for a configuration by its name asks for the
whole catalog, so that it is no event of its own. Between two events nothing happens: loading looks
at the source when it starts, when a reply arrives, and when it ends.

A session keeps what the source does not: the number of changes so far, the number of changes before
each call, the backends that each call reads from, and the call that filled the cache.
-/

namespace ImageCatalog.Catalog

open Disk Items Settings

/-- The backends from which the categories of a load are read, or their directory. -/
def Load.backends {Fault : Type} : Load Fault → List Backend
  | .waiting backend => [backend]
  | .reading categories => categories.map CategoryLoad.backend
  | .stopped _ => []

/-- The backend that the settings about the catalog select, whatever the others are. -/
def Source.selected (source : Source) : Except Source.Fault Backend := do
  let settings ← source.settings.mapError .environment
  let staticUrl ← (Effective.address source.store .staticUrl settings.staticUrl).mapError .saved
  let repositoryUrl ←
    (Effective.address source.store .repositoryUrl settings.repositoryUrl).mapError .saved
  return Source.backendOf {
    staticUrl
    repositoryUrl
    usesStaticIndex := Effective.usesStaticIndexOf source.store settings.usesStaticIndex
    token := (Effective.saved? source.store .token).or (settings.token.map Value.text)
    downloads := settings.downloads }

/-- A call for the catalog: the number of changes before it, the backend from which it reads the
directory of categories, and how far it has loaded the catalog. -/
structure Call where
  began : Nat
  asked : Backend
  load : Load Source.Fault

/-- The backends that a call reads from. -/
def Call.backends (call : Call) : List Backend :=
  call.asked :: call.load.backends

/-- A reply arrives for a call. -/
def Call.take (selected : Except Source.Fault Backend) (slot : Slot) (reply : Reply) (call : Call) :
    Call :=
  { call with load := call.load.deliver selected slot reply }

/-- A source in use: its calls, the number of changes so far, and the call that filled the cache. -/
structure Session where
  source : Source
  calls : List Call
  changes : Nat
  filled : Option Call

namespace Session

/-- What happens in a session. Calls are told by their positions among those that have not ended. A
setting is saved on the disk as it is at that moment. -/
inductive Event
  | ask
  | reply (position : Nat) (slot : Slot) (reply : Reply)
  | finish (position : Nat)
  | set (disk : Tree) (key : String) (value : Value)
  | invalidate

/-- A call for the catalog that is not answered at once. -/
def ask (session : Session) : Session :=
  match session.source.startLoad with
  | .ok (.load (.waiting backend)) =>
      { session with calls := session.calls ++ [⟨session.changes, backend, .waiting backend⟩] }
  | _ => session

/-- A call ends that waits for nothing any more. -/
def finish (session : Session) (position : Nat) (call : Call) : Session :=
  match Source.outcome call.load with
  | .error _ => { session with calls := session.calls.eraseIdx position }
  | .ok _ =>
      { session with
        source := (session.source.finishLoad call.load).2
        calls := session.calls.eraseIdx position
        filled := some call }

/-- What an event makes of a session. -/
def step (session : Session) : Event → Session
  | .ask => session.ask
  | .reply position slot reply =>
      { session with
        calls := session.calls.modify position (Call.take session.source.backend slot reply) }
  | .finish position =>
      match session.calls[position]? with
      | some call => if call.load.pending.isEmpty then session.finish position call else session
      | none => session
  | .set disk key value =>
      { session with
        source := session.source.afterChange (session.source.store.set disk key value)
        changes := if concernsCatalog key then session.changes + 1 else session.changes }
  | .invalidate =>
      { session with source := session.source.invalidate, changes := session.changes + 1 }

/-- What a row of events makes of a session. -/
def run (session : Session) (events : List Event) : Session :=
  events.foldl step session

/-- A session of a new source. -/
def start (homes : Homes) (settings : Except Settings.Fault Settings) (store : Store) : Session :=
  ⟨.start homes settings store, [], 0, none⟩

end Session

/-! ## Settings about the catalog -/

namespace Source

/-- The backend that all settings select is the one that those about the catalog select. -/
theorem selected_of_backend {source : Source} {backend : Backend}
    (effective : source.backend = .ok backend) : source.selected = .ok backend := by
  rcases Results.map_ok effective with ⟨settings, inForce, rfl⟩
  rcases Results.bind_ok inForce with ⟨environment, environmentOk, saved⟩
  rcases Results.bind_ok (Results.mapError_ok saved) with ⟨staticUrl, staticOk, others⟩
  rcases Results.bind_ok others with ⟨repositoryUrl, repositoryOk, rest⟩
  rcases Results.bind_ok rest with ⟨downloads, _, made⟩
  cases made
  simp only [selected, Results.mapError_ok environmentOk, staticOk, repositoryOk, bind, Except.bind,
    Results.mapError_of_ok]
  rfl

/-- The selection depends on the saved settings about the catalog only. -/
theorem selected_congr {source : Source} {store : Store}
    (same : ∀ name : SavedName, name.concernsCatalog = true →
      Entries.find? name.key store.values = Entries.find? name.key source.store.values) :
    ({ source with store } : Source).selected = source.selected := by
  have saved (name : SavedName) (concerns : name.concernsCatalog = true) :
      Effective.saved? store name = Effective.saved? source.store name := by
    simp only [Effective.saved?, same name concerns]
  have switch : store.get SavedName.usesStaticIndex.key =
      source.store.get SavedName.usesStaticIndex.key := by
    simp only [Store.get, same .usesStaticIndex rfl]
  simp only [selected, Effective.address, Effective.usesStaticIndexOf, switch,
    saved .staticUrl rfl, saved .repositoryUrl rfl, saved .token rfl]

/-- Setting something else does not change the selection. -/
theorem selected_set {source : Source} {disk : Tree} {key : String} {value : Value}
    (unconcerned : concernsCatalog key = false) :
    ({ source with store := (source.store.set disk key value).store } : Source).selected =
      source.selected := by
  refine selected_congr fun name concerns => ?_
  rw [Store.values_set]
  refine Store.find?_values_put_of_ne source.store (fun same => ?_) value
  rw [← same, concernsCatalog_key, concerns] at unconcerned
  cases unconcerned

/-- Some notices make a source forget its catalog if one of them is for it and about the catalog. -/
theorem foldl_hear (notices : List Notice) (source : Source) :
    notices.foldl hear source =
      if ∃ notice ∈ notices, notice.listener = listener ∧ concernsCatalog notice.key = true then
        source.invalidate
      else source := by
  induction notices generalizing source with
  | nil => simp
  | cons first rest hypothesis =>
      rw [List.foldl_cons, hypothesis]
      simp only [List.exists_mem_cons_iff]
      by_cases here : first.listener = listener ∧ concernsCatalog first.key = true
      · simp only [hear, here, and_self, true_or, if_true]
        split <;> rfl
      · simp only [hear, here, false_or, if_false]

/-- What setting a value makes of a source that listens to its store. -/
theorem afterChange_set {source : Source} (subscribed : listener ∈ source.store.listeners)
    (disk : Tree) (key : String) (value : Value) :
    source.afterChange (source.store.set disk key value) =
      { source with
        store := (source.store.set disk key value).store
        cache :=
          if concernsCatalog key = true ∧ (source.store.set disk key value).fault = none then .empty
          else source.cache } := by
  rw [afterChange, foldl_hear]
  rcases source.store.set_saved_or_unsaved disk key value with
    ⟨left, saved⟩ | ⟨fault, left, unsaved⟩
  · have heard : (∃ notice ∈ source.store.listeners.map fun other => (⟨other, key, value⟩ : Notice),
        notice.listener = listener ∧ concernsCatalog notice.key = true) ↔
        concernsCatalog key = true := by
      simp only [List.mem_map, exists_exists_and_eq_and]
      constructor
      · rintro ⟨_, _, _, concerns⟩
        exact concerns
      · intro concerns
        exact ⟨listener, subscribed, rfl, concerns⟩
    simp only [saved, heard, and_true]
    split <;> rfl
  · simp [unsaved]

theorem startLoad_eq_load {source : Source} {load : Load Fault}
    (starts : source.startLoad = .ok (.load load)) :
    ∃ backend, source.backend = .ok backend ∧ load = .waiting backend := by
  unfold startLoad at starts
  cases kept : source.cache.get? with
  | some configs => simp [kept] at starts
  | none =>
      simp only [kept] at starts
      rcases Results.map_ok starts with ⟨backend, effective, made⟩
      cases made
      exact ⟨backend, effective, rfl⟩

end Source

/-! ## Backends of a load -/

theorem CategoryLoad.backend_deliverFiles (reply : Reply) (load : CategoryLoad) :
    (load.deliverFiles reply).backend = load.backend := by
  unfold deliverFiles
  split <;> rfl

theorem CategoryLoad.backend_deliverDocument (position : Nat) (reply : Reply)
    (load : CategoryLoad) : (load.deliverDocument position reply).backend = load.backend := by
  unfold deliverDocument
  split <;> rfl

theorem Load.backends_readAll {Fault : Type} {selected : Except Fault Backend}
    {categories : List String} {backend : Backend}
    (reads : backend ∈ (readAll selected categories).backends) : selected = .ok backend := by
  cases categories with
  | nil => simp [readAll, backends] at reads
  | cons first others =>
      cases selected with
      | error fault => simp [readAll, backends] at reads
      | ok other =>
          simp only [readAll, backends, List.mem_map, exists_exists_and_eq_and] at reads
          rcases reads with ⟨category, _, same⟩
          rw [← same]
          rfl

/-- A reply makes a load read from no other backends but the one that is selected. -/
theorem Load.backends_deliver {Fault : Type} {selected : Except Fault Backend} {slot : Slot}
    {reply : Reply} {load : Load Fault} {backend : Backend}
    (reads : backend ∈ (load.deliver selected slot reply).backends) :
    backend ∈ load.backends ∨ selected = .ok backend := by
  have backends_modify (categories : List CategoryLoad) (position : Nat)
      (change : CategoryLoad → CategoryLoad)
      (keeps : ∀ category, (change category).backend = category.backend) :
      (reading (categories.modify position change) : Load Fault).backends =
        (reading categories : Load Fault).backends :=
    map_modify_eq keeps categories position
  cases load with
  | stopped fault => exact .inl (by cases slot <;> exact reads)
  | waiting asked =>
      cases slot with
      | files position => exact .inl reads
      | document position file => exact .inl reads
      | categories => exact .inr (backends_readAll reads)
  | reading categories =>
      left
      cases slot with
      | categories => exact reads
      | files position =>
          rwa [deliver, backends_modify _ _ _ (CategoryLoad.backend_deliverFiles reply)] at reads
      | document position file =>
          rwa [deliver, backends_modify _ _ _ (CategoryLoad.backend_deliverDocument file reply)]
            at reads

end ImageCatalog.Catalog
