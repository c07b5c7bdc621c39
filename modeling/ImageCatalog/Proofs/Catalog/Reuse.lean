import ImageCatalog.Proofs.Catalog.Totality
import Mathlib.Data.List.Induction

/-!
# Reuse of the catalog

Here the operations on a source follow one another: none begins before the one before it has ended.
The source listens to a store in memory, so that every change of a setting is heard, and between two
operations the network may change in any way.

In such a row of operations the cache is never out of date. It holds a catalog exactly if some
operation has loaded it and no later one made the source forget it (`LastLoaded`), and then the
settings still select the backend from which it was loaded, because only the operations that forget
the catalog can select another one (`Source.perform_of_remembers`).
-/

namespace ImageCatalog.Catalog

open Disk Http Items Settings

/-- What is done with a source, over the network as it is at that moment. -/
inductive Operation
  | getAll (network : Network)
  | getByName (network : Network) (name : String)
  | listCategories (network : Network)
  | listCategory (network : Network) (category : String)
  | invalidate
  | set (key : String) (value : Value)
  | setAll (entries : List (String × Value))

namespace Operation

/-- The network over which an operation asks for the whole catalog, if it does. -/
def asks? : Operation → Option Network
  | .getAll network => some network
  | .getByName network _ => some network
  | _ => none

/-- Whether an operation makes a source forget its catalog: it invalidates it or sets a setting that
says where the catalog is, be it to the same value or to none. -/
def forgets : Operation → Bool
  | .invalidate => true
  | .set key _ => concernsCatalog key
  | .setAll entries => entries.any fun entry => concernsCatalog entry.1
  | _ => false

end Operation

namespace Source

/-- What an operation makes of a source. Reading the categories, or one of them, leaves nothing
behind; the disk does not matter to a store in memory. -/
def perform (source : Source) : Operation → Source
  | .getAll network => (source.getAll network).source
  | .getByName network name => (source.getByName network name).source
  | .listCategories _ => source
  | .listCategory _ _ => source
  | .invalidate => source.invalidate
  | .set key value => source.afterChange (source.store.set .empty key value)
  | .setAll entries => source.afterChange (source.store.setAll .empty entries)

/-- What a row of operations makes of a source. -/
def run (source : Source) (operations : List Operation) : Source :=
  operations.foldl perform source

/-- Whether one of some operations on a source loaded a catalog from a backend over a network, and
none of the later ones makes the source forget it. -/
def LastLoaded (source : Source) (operations : List Operation) (backend : Backend)
    (network : Network) (catalog : List Config) : Prop :=
  ∃ before asking after,
    operations = before ++ asking :: after ∧ asking.asks? = some network ∧
    (source.run before).startLoad = .ok (.load (.waiting backend)) ∧
    ((source.run before).getAll network).result = .ok catalog ∧
    ∀ later ∈ after, later.forgets = false

/-- Whether a source listens to its store, which is in memory. -/
structure IsOpen (source : Source) : Prop where
  inMemory : source.store.file = none
  subscribed : listener ∈ source.store.listeners

variable {source : Source}

/-! ## Operations that change settings -/

theorem isOpen_start (homes : Homes) (settings : Except Settings.Fault Settings)
    (values : List (String × Value)) (listeners : List Listener) :
    (start homes settings ⟨none, values, listeners⟩).IsOpen :=
  ⟨rfl, by simp [start, Store.subscribe]⟩

/-- Setting a value is heard by an open source. -/
theorem IsOpen.perform_set (isOpen : source.IsOpen) (key : String) (value : Value) :
    source.perform (.set key value) =
      { source with
        store := (source.store.set .empty key value).store
        cache := if concernsCatalog key = true then .empty else source.cache } := by
  rw [perform, afterChange_set isOpen.subscribed]
  simp only [Store.set_of_memory isOpen.inMemory, and_true]

theorem afterChange_eq (change : Store.Change) :
    source.afterChange change =
      { source with
        store := change.store
        cache :=
          if ∃ notice ∈ change.notices, notice.listener = listener ∧ concernsCatalog notice.key then
            .empty
          else source.cache } := by
  rw [afterChange, foldl_hear]
  split <;> rfl

/-- Setting several values is setting one after the other. -/
theorem IsOpen.perform_setAll_cons (isOpen : source.IsOpen) (key : String) (value : Value)
    (rest : List (String × Value)) :
    source.perform (.setAll ((key, value) :: rest)) =
      (source.perform (.set key value)).perform (.setAll rest) := by
  simp only [perform, Store.setAll, Store.set_of_memory isOpen.inMemory, afterChange_eq,
    List.mem_append, or_and_right, exists_or]
  split_ifs <;> simp_all

theorem isOpen_perform_set (isOpen : source.IsOpen) (key : String) (value : Value) :
    (source.perform (.set key value)).IsOpen := by
  rw [isOpen.perform_set]
  refine ⟨(Store.file_set _ _ _ _).trans isOpen.inMemory, ?_⟩
  exact (Store.mem_listeners_set rfl _ _ _ _).mpr isOpen.subscribed

/-- What setting several values makes of an open source, which stays open. -/
theorem isOpen_perform_setAll (isOpen : source.IsOpen) (entries : List (String × Value)) :
    (source.perform (.setAll entries)).IsOpen := by
  induction entries generalizing source with
  | nil => exact isOpen
  | cons entry rest hypothesis =>
      rw [isOpen.perform_setAll_cons]
      exact hypothesis (isOpen_perform_set isOpen entry.1 entry.2)

theorem cache_perform_setAll (isOpen : source.IsOpen) (entries : List (String × Value)) :
    (source.perform (.setAll entries)).cache =
      if (Operation.setAll entries).forgets then .empty else source.cache := by
  induction entries generalizing source with
  | nil => rfl
  | cons entry rest hypothesis =>
      rw [isOpen.perform_setAll_cons, hypothesis (isOpen_perform_set isOpen entry.1 entry.2),
        isOpen.perform_set]
      simp only [Operation.forgets, List.any_cons]
      by_cases later : (rest.any fun entry => concernsCatalog entry.1) = true
      · simp only [later, Bool.or_true, if_true]
      · simp only [later, Bool.or_eq_true, Bool.false_eq_true, or_false, if_false]

theorem selected_perform_set (isOpen : source.IsOpen) {key : String}
    (unconcerned : concernsCatalog key = false) (value : Value) :
    (source.perform (.set key value)).selected = source.selected := by
  rw [isOpen.perform_set]
  exact selected_set unconcerned

theorem selected_perform_setAll (isOpen : source.IsOpen) {entries : List (String × Value)}
    (remembers : (Operation.setAll entries).forgets = false) :
    (source.perform (.setAll entries)).selected = source.selected := by
  induction entries generalizing source with
  | nil => rfl
  | cons entry rest hypothesis =>
      simp only [Operation.forgets, List.any_cons, Bool.or_eq_false_iff] at remembers hypothesis
      rw [isOpen.perform_setAll_cons,
        hypothesis (isOpen_perform_set isOpen entry.1 entry.2) remembers.2,
        selected_perform_set isOpen remembers.1]

/-! ## Operations that ask for the catalog -/

theorem startLoad_eq_cached_iff {catalog : List Config} :
    source.startLoad = .ok (.cached catalog) ↔ source.cache.get? = some catalog := by
  unfold startLoad
  cases kept : source.cache.get? with
  | some configs => simp
  | none => cases source.backend <;> simp [Except.map]

theorem startLoad_eq_load_iff {backend : Backend} :
    source.startLoad = .ok (.load (.waiting backend)) ↔
      source.cache.get? = none ∧ source.backend = .ok backend := by
  unfold startLoad
  cases kept : source.cache.get? with
  | some configs => simp
  | none => cases source.backend <;> simp [Except.map]

/-- A kept catalog is the answer, without any request. -/
theorem getAll_of_cached (network : Network) {catalog : List Config}
    (cached : source.startLoad = .ok (.cached catalog)) :
    source.getAll network = ⟨.ok catalog, source, []⟩ := by
  simp only [getAll, cached]

theorem getAll_of_fault (network : Network) {fault : Fault}
    (fails : source.startLoad = .error fault) :
    source.getAll network = ⟨.error fault, source, []⟩ := by
  simp only [getAll, fails]

/-- Asking for the catalog changes the cache only, and there it leaves what it answers with. -/
theorem source_getAll (source : Source) (network : Network) :
    (source.getAll network).source =
      { source with
        cache := ⟨(source.getAll network).result.toOption.or source.cache.get?⟩ } := by
  cases starts : source.startLoad with
  | error fault => rw [getAll_of_fault network starts]; rfl
  | ok start =>
      cases start with
      | cached catalog =>
          rw [getAll_of_cached network starts]
          have kept : (⟨some catalog⟩ : Cache) = source.cache := by
            rw [← startLoad_eq_cached_iff.mp starts]
            rfl
          simp only [Except.toOption, Option.some_or, kept]
      | load load =>
          rcases startLoad_eq_load starts with ⟨backend, selected, rfl⟩
          have unloaded : source.cache.isLoaded = false := by
            simpa [Cache.isLoaded, Cache.get?] using (startLoad_eq_load_iff.mp starts).1
          have loads : (source.getAll network).result = _ ∧ (source.getAll network).source = _ :=
            getAll_of_unloaded selected unloaded
          rw [loads.2, loads.1]
          rfl

theorem Operation.forgets_of_asks? {operation : Operation} {network : Network}
    (asks : operation.asks? = some network) : operation.forgets = false := by
  cases operation <;> cases asks <;> rfl

/-! ## One operation -/

theorem perform_of_asks? (source : Source) {operation : Operation} {network : Network}
    (asks : operation.asks? = some network) :
    source.perform operation = (source.getAll network).source := by
  cases operation <;> cases asks <;> rfl

theorem isOpen_perform (isOpen : source.IsOpen) (operation : Operation) :
    (source.perform operation).IsOpen := by
  cases operation with
  | getAll network =>
      rw [perform, source_getAll]
      exact ⟨isOpen.inMemory, isOpen.subscribed⟩
  | getByName network name =>
      rw [perform, getByName, source_getAll]
      exact ⟨isOpen.inMemory, isOpen.subscribed⟩
  | listCategories network => exact isOpen
  | listCategory network category => exact isOpen
  | invalidate => exact ⟨isOpen.inMemory, isOpen.subscribed⟩
  | set key value => exact isOpen_perform_set isOpen key value
  | setAll entries => exact isOpen_perform_setAll isOpen entries

/-- Only an operation that makes a source forget its catalog can select another backend. -/
theorem selected_perform (isOpen : source.IsOpen) {operation : Operation}
    (remembers : operation.forgets = false) :
    (source.perform operation).selected = source.selected := by
  cases operation with
  | getAll network => rw [perform, source_getAll]; rfl
  | getByName network name => rw [perform, getByName, source_getAll]; rfl
  | listCategories network => rfl
  | listCategory network category => rfl
  | invalidate => rfl
  | set key value => exact selected_perform_set isOpen remembers value
  | setAll entries => exact selected_perform_setAll isOpen remembers

theorem cache_perform_of_forgets (isOpen : source.IsOpen) {operation : Operation}
    (forgets : operation.forgets = true) : (source.perform operation).cache = .empty := by
  cases operation with
  | invalidate => rfl
  | set key value => rw [isOpen.perform_set]; exact if_pos forgets
  | setAll entries => rw [cache_perform_setAll isOpen, if_pos forgets]
  | _ => cases forgets

theorem cache_perform_of_remembers (isOpen : source.IsOpen) {operation : Operation}
    (remembers : operation.forgets = false) (silent : operation.asks? = none) :
    (source.perform operation).cache = source.cache := by
  cases operation with
  | listCategories network => rfl
  | listCategory network category => rfl
  | set key value =>
      rw [isOpen.perform_set]
      simp only [Operation.forgets] at remembers
      simp [remembers]
  | setAll entries => rw [cache_perform_setAll isOpen, if_neg (by simp [remembers])]
  | invalidate => cases remembers
  | _ => cases silent

/-- After an operation the cache holds a catalog exactly if the operation has loaded it, or the
cache held it before and the operation does not make the source forget it. -/
theorem get?_perform (isOpen : source.IsOpen) (operation : Operation) (catalog : List Config) :
    (source.perform operation).cache.get? = some catalog ↔
      (∃ network backend, operation.asks? = some network ∧
        source.startLoad = .ok (.load (.waiting backend)) ∧
        (source.getAll network).result = .ok catalog) ∨
      operation.forgets = false ∧ source.cache.get? = some catalog := by
  cases asks : operation.asks? with
  | none =>
      cases forgets : operation.forgets with
      | true => simp [cache_perform_of_forgets isOpen forgets, Cache.empty, Cache.get?]
      | false => simp [cache_perform_of_remembers isOpen forgets asks]
  | some network =>
      have remembers := Operation.forgets_of_asks? asks
      rw [perform_of_asks? source asks, source_getAll]
      simp only [remembers, Option.some.injEq, exists_and_left, exists_eq_left', true_and,
        exists_and_right, Cache.get?]
      cases starts : source.startLoad with
      | error fault => simp [getAll_of_fault network starts, Except.toOption]
      | ok start =>
          cases start with
          | cached kept =>
              have cached : source.cache.configs? = some kept := startLoad_eq_cached_iff.mp starts
              simp [getAll_of_cached network starts, Except.toOption, cached]
          | load load =>
              rcases startLoad_eq_load starts with ⟨backend, _, rfl⟩
              have unloaded : source.cache.configs? = none := (startLoad_eq_load_iff.mp starts).1
              cases result : (source.getAll network).result <;>
                simp [unloaded, Except.toOption]

/-! ## Rows of operations -/

theorem run_concat (operations : List Operation) (operation : Operation) :
    source.run (operations ++ [operation]) = (source.run operations).perform operation := by
  simp [run]

theorem isOpen_run (isOpen : source.IsOpen) (operations : List Operation) :
    (source.run operations).IsOpen := by
  induction operations using List.reverseRecOn with
  | nil => exact isOpen
  | append_singleton operations last hypothesis =>
      rw [run_concat]
      exact isOpen_perform hypothesis last

theorem lastLoaded_concat_iff {operations : List Operation} {last : Operation} {backend : Backend}
    {network : Network} {catalog : List Config} :
    source.LastLoaded (operations ++ [last]) backend network catalog ↔
      (last.asks? = some network ∧
        (source.run operations).startLoad = .ok (.load (.waiting backend)) ∧
        ((source.run operations).getAll network).result = .ok catalog) ∨
      last.forgets = false ∧ source.LastLoaded operations backend network catalog := by
  constructor
  · rintro ⟨before, asking, after, split, asks, loads, brings, remembers⟩
    rcases concat_eq_append_cons.mp split with ⟨rfl, rfl, rfl⟩ | ⟨rest, rfl, rfl⟩
    · exact .inl ⟨asks, loads, brings⟩
    · refine .inr ⟨remembers last (by simp), before, asking, rest, rfl, asks, loads, brings, ?_⟩
      exact fun later laterMem => remembers later (by simp [laterMem])
  · rintro (⟨asks, loads, brings⟩ |
      ⟨remembers, before, asking, after, rfl, asks, loads, brings, others⟩)
    · exact ⟨operations, last, [], rfl, asks, loads, brings, by simp⟩
    · refine ⟨before, asking, after ++ [last], by simp, asks, loads, brings, ?_⟩
      intro later laterMem
      rcases List.mem_append.mp laterMem with earlier | isLast
      · exact others later earlier
      · rw [List.mem_singleton.mp isLast]
        exact remembers

/-- The cache holds the catalog that was loaded last, and none if a later operation made the source
forget it. -/
theorem get?_run_iff (isOpen : source.IsOpen) (unloaded : source.cache.get? = none)
    {operations : List Operation} {catalog : List Config} :
    (source.run operations).cache.get? = some catalog ↔
      ∃ backend network, source.LastLoaded operations backend network catalog := by
  induction operations using List.reverseRecOn with
  | nil =>
      simp only [run, List.foldl_nil, unloaded, reduceCtorEq, false_iff]
      rintro ⟨backend, network, before, asking, after, split, _⟩
      simp at split
  | append_singleton operations last hypothesis =>
      rw [run_concat, get?_perform (isOpen_run isOpen operations), hypothesis, exists_comm]
      simp only [lastLoaded_concat_iff, exists_or, exists_and_left]

/-- The settings still select the backend from which the catalog was loaded last. -/
theorem selected_of_lastLoaded (isOpen : source.IsOpen) {operations : List Operation}
    {backend : Backend} {network : Network} {catalog : List Config}
    (loaded : source.LastLoaded operations backend network catalog) :
    (source.run operations).selected = .ok backend := by
  induction operations using List.reverseRecOn with
  | nil =>
      rcases loaded with ⟨before, asking, after, split, _⟩
      simp at split
  | append_singleton operations last hypothesis =>
      have still := isOpen_run isOpen operations
      rw [run_concat]
      rcases lastLoaded_concat_iff.mp loaded with ⟨asks, loads, _⟩ | ⟨remembers, earlier⟩
      · rw [selected_perform still (Operation.forgets_of_asks? asks)]
        exact selected_of_backend (startLoad_eq_load_iff.mp loads).2
      · rw [selected_perform still remembers]
        exact hypothesis earlier

/-- From an operation that makes the source forget its catalog on, the cache stays empty until the
catalog is asked for. -/
theorem get?_run_of_forgets (isOpen : source.IsOpen) (before : List Operation)
    {forgetting : Operation} (forgets : forgetting.forgets = true) {after : List Operation}
    (silent : ∀ later ∈ after, later.asks? = none) :
    (source.run (before ++ forgetting :: after)).cache.get? = none := by
  induction after using List.reverseRecOn with
  | nil =>
      rw [run_concat, cache_perform_of_forgets (isOpen_run isOpen before) forgets]
      rfl
  | append_singleton after last hypothesis =>
      rw [← List.cons_append, ← List.append_assoc, run_concat]
      have still := isOpen_run isOpen (before ++ forgetting :: after)
      have empty := hypothesis fun later laterMem => silent later (by simp [laterMem])
      rw [Option.eq_none_iff_forall_ne_some]
      intro catalog kept
      rcases (get?_perform still last catalog).mp kept with ⟨network, _, asks, _⟩ | ⟨_, earlier⟩
      · rw [silent last (by simp)] at asks
        cases asks
      · rw [empty] at earlier
        cases earlier

end Source

/-- Whether a network answers with a listing of the categories of a backend. -/
def Backend.IsListed (network : Network) (backend : Backend) : Prop :=
  ∃ names, backend.readCategories (backend.reply network backend.categoriesUrl) = .ok names

namespace Source

/-- When a catalog is used again. What is given out of the cache is the catalog that was loaded
last, from the backend that is still selected, and it costs no request. A catalog whose categories
were listed stays in the cache until an operation makes the source forget it; after that, the next
one who asks gets what the backend that is selected then offers. -/
theorem reuses_last_load (homes : Homes) (settings : Except Settings.Fault Settings)
    (values : List (String × Value)) (listeners : List Listener) (operations : List Operation)
    (network : Network) :
    let opened := start homes settings ⟨none, values, listeners⟩
    let now := opened.run operations
    (∀ catalog, now.startLoad = .ok (.cached catalog) →
      ∃ backend earlier, opened.LastLoaded operations backend earlier catalog ∧
        now.selected = .ok backend ∧ (now.Fits → now.backend = .ok backend) ∧
        now.getAll network = ⟨.ok catalog, now, []⟩ ∧
        ∀ name, now.getByName network name =
          ⟨.ok (catalog.find? fun config => config.name == name), now, []⟩) ∧
    (∀ backend earlier catalog, opened.LastLoaded operations backend earlier catalog →
      backend.IsListed earlier → now.startLoad = .ok (.cached catalog)) ∧
    ∀ before forgetting after, operations = before ++ forgetting :: after →
      forgetting.forgets = true → (∀ later ∈ after, later.asks? = none) →
      ∀ backend, now.backend = .ok backend →
        now.startLoad = .ok (.load (.waiting backend)) ∧
        ∃ catalog, IsCatalog network backend catalog ∧
          (now.getAll network).result = .ok catalog ∧
          ∀ name, (now.getByName network name).result =
            .ok (catalog.find? fun config => config.name == name) := by
  intro opened now
  have isOpen : opened.IsOpen := isOpen_start homes settings values listeners
  have kept_iff (catalog : List Config) : now.cache.get? = some catalog ↔
      ∃ backend earlier, opened.LastLoaded operations backend earlier catalog :=
    get?_run_iff isOpen rfl
  refine ⟨fun catalog cached => ?_, fun backend earlier catalog loaded _ => ?_, ?_⟩
  · rcases (kept_iff catalog).mp (startLoad_eq_cached_iff.mp cached) with ⟨backend, earlier, loaded⟩
    have selected := selected_of_lastLoaded isOpen loaded
    have answer := getAll_of_cached network cached
    refine ⟨backend, earlier, loaded, selected, (backend_of_selected · selected), answer, ?_⟩
    intro name
    rw [getByName, answer]
    rfl
  · exact startLoad_eq_cached_iff.mpr ((kept_iff catalog).mpr ⟨backend, earlier, loaded⟩)
  · rintro before forgetting after rfl forgets silent backend selected
    have empty : now.cache.get? = none := get?_run_of_forgets isOpen before forgets silent
    have unloaded : now.cache.isLoaded = false := by
      simpa [Cache.isLoaded, Cache.get?] using empty
    have result : (now.getAll network).result = _ := (getAll_of_unloaded selected unloaded).1
    refine ⟨startLoad_of_unloaded selected unloaded, _,
      isCatalog_firstOfEachName network backend, result, fun name => ?_⟩
    rw [getByName, result]
    rfl

/-- A catalog is used again after settings that do not concern it, over a network that fails, and is
loaded from the new address after settings that do. -/
theorem reuses_last_load_moved :
    let quiet : List Operation :=
      [.getAll twiceOffered, .setAll [("download_path", .text "e"), ("other", .null)],
        .listCategories twiceOffered]
    let moved := quiet ++
      [.setAll [("other", .int 1), ("static_api_url", .text "j")], .listCategory twiceOffered "a"]
    (∃ catalog, (indexSource.run quiet).startLoad = .ok (.cached catalog) ∧
      catalog.map Config.name = ["x"] ∧
      (indexSource.run quiet).getAll (fun _ => .failed "ReadTimeout" "") =
        ⟨.ok catalog, indexSource.run quiet, []⟩) ∧
    (indexSource.run moved).startLoad = .ok (.load (.waiting (.staticIndex "j/"))) := by
  intro quiet moved
  have names : ((indexSource.run quiet).cache.get?.map fun catalog => catalog.map Config.name) =
      some ["x"] := by decide +kernel
  rcases Option.map_eq_some_iff.mp names with ⟨catalog, kept, named⟩
  have cached := startLoad_eq_cached_iff.mpr kept
  have general (operations : List Operation) (network : Network) :=
    reuses_last_load indexSource.homes indexSource.settings [] [] operations network
  rcases (general quiet fun _ => .failed "ReadTimeout" "").1 catalog cached with
    ⟨_, _, _, _, _, answer, _⟩
  have reloads := (general moved twiceOffered).2.2 quiet _ [.listCategory twiceOffered "a"] rfl
    (by decide) (by simp [Operation.asks?]) (.staticIndex "j/") rfl
  exact ⟨⟨catalog, cached, named, answer⟩, reloads.1⟩

end Source

end ImageCatalog.Catalog
