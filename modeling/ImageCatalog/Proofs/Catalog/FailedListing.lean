import ImageCatalog.Proofs.Catalog.Coherence
import ImageCatalog.Proofs.Catalog.Reuse

/-!
# Listings that fail

A directory of categories that is not read counts as one without categories, and the cache does not
tell them apart: the call goes on as if nothing had been listed, and when it ends the empty catalog
is in the cache. There it stays, whatever the network does later, until the source is made to forget
it or a call that was under way fills the cache again. So a failure is remembered.

This is shown for operations that follow one another, and for calls that overlap.
-/

namespace ImageCatalog.Catalog

open Disk Http Items Settings

/-- Whether a reply lists the categories of a backend. -/
def Backend.Lists (backend : Backend) (reply : Reply) : Prop :=
  ∃ names, backend.readCategories reply = .ok names

/-- A reply lists categories if it brings an answer that can be read; it does not if the address
brings nothing, as after a failure on the way or a status that is no success, or if the answer is no
directory. -/
theorem Backend.lists_iff {backend : Backend} {reply : Reply} :
    backend.Lists reply ↔
      ∃ answer entries, reply = .ok answer ∧ backend.readEntries answer = .ok entries := by
  cases reply with
  | error failure => simp [Lists, readCategories, bind, Except.bind]
  | ok answer =>
      cases read : backend.readEntries answer with
      | error failure => simp [Lists, readCategories, bind, Except.bind, read]
      | ok entries => simp [Lists, readCategories, bind, Except.bind, read, pure, Except.pure]

theorem Backend.toOption_readCategories {backend : Backend} {reply : Reply}
    (failed : ¬backend.Lists reply) : (backend.readCategories reply).toOption = none := by
  cases read : backend.readCategories reply with
  | error failure => rfl
  | ok names => exact absurd ⟨names, read⟩ failed

namespace Source

variable {source : Source} {backend : Backend} {network : Network}

/-- Whether a source answers every question with the empty catalog, over any network and without a
request. -/
def AnswersEmpty (source : Source) : Prop :=
  ∀ network, source.getAll network = ⟨.ok [], source, []⟩ ∧
    ∀ name, source.getByName network name = ⟨.ok none, source, []⟩

theorem answersEmpty_of_kept (kept : source.cache.get? = some []) : source.AnswersEmpty := by
  intro network
  have answer := getAll_of_cached network (startLoad_eq_cached_iff.mpr kept)
  refine ⟨answer, fun name => ?_⟩
  rw [getByName, answer]
  rfl

/-! ## Operations that follow one another -/

/-- Asking over a network that does not list the categories leaves the empty catalog in the
cache. -/
theorem getAll_of_not_isListed (loads : source.startLoad = .ok (.load (.waiting backend)))
    (failed : ¬backend.IsListed network) :
    source.getAll network = ⟨.ok [], { source with cache := ⟨some []⟩ },
      (backend.fetch network backend.categoriesUrl).2⟩ := by
  have unread := Backend.toOption_readCategories failed
  have first : Load.round network source.backend ((.waiting backend : Load Fault), []) =
      (.reading [], (backend.fetch network backend.categoriesUrl).2) := by
    have selected := (startLoad_eq_load_iff.mp loads).2
    refine Prod.ext ?_ rfl
    rw [selected, Load.round_waiting, Backend.categories, unread]
    rfl
  rw [getAll_of_startLoad loads, Load.threeRounds, first]
  rfl

theorem unconcerned_notices_set (store : Store) (tree : Tree) {key : String}
    (unconcerned : concernsCatalog key = false) (value : Value) :
    ∀ notice ∈ (store.set tree key value).notices, concernsCatalog notice.key = false := by
  intro notice given
  rcases store.set_saved_or_unsaved tree key value with ⟨left, saved⟩ | ⟨fault, left, unsaved⟩
  · rw [saved, List.mem_map] at given
    rcases given with ⟨_, _, rfl⟩
    exact unconcerned
  · rw [unsaved] at given
    cases given

theorem unconcerned_notices_setAll (store : Store) (tree : Tree) {entries : List (String × Value)}
    (unconcerned : ∀ entry ∈ entries, concernsCatalog entry.1 = false) :
    ∀ notice ∈ (store.setAll tree entries).notices, concernsCatalog notice.key = false := by
  induction entries generalizing store tree with
  | nil => simp [Store.setAll]
  | cons entry rest hypothesis =>
      rw [List.forall_mem_cons] at unconcerned
      have now := unconcerned_notices_set store tree unconcerned.1 entry.2
      intro notice given
      simp only [Store.setAll] at given
      split at given
      · exact now notice given
      · rcases List.mem_append.mp given with here | later
        · exact now notice here
        · exact hypothesis _ _ unconcerned.2 notice later

/-- A change of which no notice concerns the catalog leaves the cache as it is. -/
theorem cache_afterChange {change : Store.Change}
    (unconcerned : ∀ notice ∈ change.notices, concernsCatalog notice.key = false) :
    (source.afterChange change).cache = source.cache := by
  rw [afterChange_eq]
  refine if_neg ?_
  rintro ⟨notice, given, _, concerns⟩
  rw [unconcerned notice given] at concerns
  cases concerns

/-- An operation that does not make a source forget its catalog leaves a catalog where it is. -/
theorem cache_perform_of_kept {catalog : List Config} (kept : source.cache.get? = some catalog)
    {operation : Operation} (remembers : operation.forgets = false) :
    (source.perform operation).cache = source.cache := by
  have answer (network : Network) : (source.getAll network).source = source := by
    rw [getAll_of_cached network (startLoad_eq_cached_iff.mpr kept)]
  cases operation with
  | getAll network => rw [perform, answer]
  | getByName network name => rw [perform, getByName, answer]
  | listCategories network => rfl
  | listCategory network category => rfl
  | invalidate => cases remembers
  | set key value => exact cache_afterChange (unconcerned_notices_set _ _ remembers value)
  | setAll entries =>
      refine cache_afterChange (unconcerned_notices_setAll _ _ ?_)
      simpa [Operation.forgets] using remembers

theorem cache_run_of_kept {catalog : List Config} (kept : source.cache.get? = some catalog)
    {operations : List Operation}
    (remember : ∀ operation ∈ operations, operation.forgets = false) :
    (source.run operations).cache.get? = some catalog := by
  induction operations generalizing source with
  | nil => exact kept
  | cons first rest hypothesis =>
      rw [List.forall_mem_cons] at remember
      refine hypothesis ?_ remember.2
      rw [cache_perform_of_kept kept remember.1, kept]

theorem get?_afterChange_of_none (unloaded : source.cache.get? = none) (change : Store.Change) :
    (source.afterChange change).cache.get? = none := by
  simp only [afterChange_eq]
  split_ifs
  · rfl
  · exact unloaded

/-- An empty cache stays empty until the catalog is asked for. -/
theorem get?_run_of_none (unloaded : source.cache.get? = none) {operations : List Operation}
    (silent : ∀ operation ∈ operations, operation.asks? = none) :
    (source.run operations).cache.get? = none := by
  induction operations generalizing source with
  | nil => exact unloaded
  | cons first rest hypothesis =>
      rw [List.forall_mem_cons] at silent
      refine hypothesis ?_ silent.2
      cases first with
      | getAll network => cases silent.1
      | getByName network name => cases silent.1
      | listCategories network => exact unloaded
      | listCategory network category => exact unloaded
      | invalidate => rfl
      | set key value => exact get?_afterChange_of_none unloaded _
      | setAll entries => exact get?_afterChange_of_none unloaded _

/-- After an operation that makes a source forget its catalog, the next one who asks gets what the
backend that is selected then offers. Invalidation does so to every source. -/
theorem exists_catalog_of_forgets {before after : List Operation} {forgetting : Operation}
    (forgets : forgetting.forgets = true) (heard : forgetting = .invalidate ∨ source.IsOpen)
    (silent : ∀ later ∈ after, later.asks? = none)
    (selected : (source.run (before ++ forgetting :: after)).backend = .ok backend)
    (network : Network) :
    ∃ catalog, IsCatalog network backend catalog ∧
      ((source.run (before ++ forgetting :: after)).getAll network).result = .ok catalog := by
  have forgotten : ((source.run before).perform forgetting).cache.get? = none := by
    rcases heard with rfl | isOpen
    · rfl
    · rw [cache_perform_of_forgets (isOpen_run isOpen before) forgets]
      rfl
  have split : source.run (before ++ forgetting :: after) =
      ((source.run before).perform forgetting).run after := by
    simp [run]
  have unloaded : (source.run (before ++ forgetting :: after)).cache.isLoaded = false := by
    rw [Cache.isLoaded, ← Cache.get?, split, get?_run_of_none forgotten silent]
    rfl
  exact ⟨_, isCatalog_firstOfEachName network backend, (getAll_of_unloaded selected unloaded).1⟩

end Source

/-! ## Calls that overlap -/

/-- A call after no category was listed for it: it waits for nothing and has read nothing. -/
def Call.unlisted (call : Call) : Call :=
  { call with load := .reading [] }

theorem Call.take_unlisted (call : Call) (selected : Except Source.Fault Backend) (slot : Slot)
    (reply : Reply) : call.unlisted.take selected slot reply = call.unlisted := by
  cases slot <;> simp [take, unlisted, Load.deliver]

/-- A call for which no category is listed goes on without any, be it that there are none or that
the listing failed. -/
theorem Call.take_of_unread {call : Call} {backend : Backend} (waits : call.load = .waiting backend)
    {reply : Reply} (unread : (backend.readCategories reply).toOption.getD [] = [])
    (selected : Except Source.Fault Backend) :
    call.take selected .categories reply = call.unlisted := by
  rw [Call.take, waits, Load.deliver, unread]
  rfl

namespace Session

/-- Whether an event leaves a catalog in the cache as it is: no call ends, nothing is invalidated,
and no setting is set that says where the catalog is. -/
def Event.spares : Event → Bool
  | .ask => true
  | .reply _ _ _ => true
  | .finish _ => false
  | .set _ key _ => !concernsCatalog key
  | .invalidate => false

variable {session : Session} {call : Call} {position : Nat}

theorem cache_step_of_spares {event : Event} (spares : event.spares = true) :
    (session.step event).source.cache = session.source.cache := by
  cases event with
  | ask =>
      simp only [step, Session.ask]
      split <;> rfl
  | reply position slot reply => rfl
  | finish position => cases spares
  | set disk key value =>
      have unconcerned : concernsCatalog key = false := by simpa [Event.spares] using spares
      exact Source.cache_afterChange (Source.unconcerned_notices_set _ _ unconcerned value)
  | invalidate => cases spares

theorem cache_run_of_spares {events : List Event} (spare : ∀ event ∈ events, event.spares = true) :
    (session.run events).source.cache = session.source.cache := by
  induction events generalizing session with
  | nil => rfl
  | cons first rest hypothesis =>
      rw [List.forall_mem_cons] at spare
      exact (hypothesis spare.2).trans (cache_step_of_spares spare.1)

theorem step_reply (present : session.calls[position]? = some call) (slot : Slot) (reply : Reply) :
    session.step (.reply position slot reply) =
      { session with
        calls := session.calls.set position (call.take session.source.backend slot reply) } := by
  rw [step, List.modify_eq_set_getElem?, present]
  rfl

/-- A call without categories ends with the empty catalog in the cache. -/
theorem step_finish_unlisted (present : session.calls[position]? = some call.unlisted) :
    (session.step (.finish position)).source.cache = ⟨some []⟩ := by
  have ended : Source.outcome call.unlisted.load = .ok [] := rfl
  have idle : call.unlisted.load.pending.isEmpty = true := rfl
  simp only [step, present, idle, if_true, finish_of_outcome position ended]
  rfl

theorem calls_finish (position : Nat) (call : Call) :
    (session.finish position call).calls = session.calls.eraseIdx position := by
  unfold Session.finish
  split <;> rfl

/-- A call without categories stays under way until it ends. -/
theorem unlisted_mem_step (present : call.unlisted ∈ session.calls) (event : Event) :
    call.unlisted ∈ (session.step event).calls ∨
      ∃ target, event = .finish target ∧ session.calls[target]? = some call.unlisted := by
  cases event with
  | ask =>
      left
      simp only [step, Session.ask]
      split
      · exact List.mem_append_left _ present
      · exact present
  | reply target slot reply =>
      left
      rcases List.mem_iff_getElem?.mp present with ⟨place, here⟩
      refine List.mem_iff_getElem?.mpr ⟨place, ?_⟩
      rw [step, List.getElem?_modify, here]
      split
      · exact congrArg some (call.take_unlisted _ slot reply)
      · rfl
  | finish target =>
      simp only [step]
      split
      · next other found =>
          split
          · rcases List.mem_iff_getElem?.mp present with ⟨place, here⟩
            by_cases same : place = target
            · exact .inr ⟨target, rfl, same ▸ here⟩
            · rw [calls_finish]
              exact .inl (List.mem_eraseIdx_iff_getElem?.mpr ⟨place, same, here⟩)
          · exact .inl present
      · exact .inl present
  | set disk key value => exact .inl present
  | invalidate => exact .inl present

/-- In any row of events a call without categories stays under way, or it ends at one of them. -/
theorem unlisted_mem_run (present : call.unlisted ∈ session.calls) (events : List Event) :
    call.unlisted ∈ (session.run events).calls ∨
      ∃ before target after, events = before ++ .finish target :: after ∧
        (session.run before).calls[target]? = some call.unlisted := by
  induction events generalizing session with
  | nil => exact .inl present
  | cons first rest hypothesis =>
      rcases unlisted_mem_step present first with stays | ⟨target, rfl, ends⟩
      · rcases hypothesis stays with still | ⟨before, target, after, rfl, ends⟩
        · exact .inl still
        · exact .inr ⟨first :: before, target, after, rfl, ends⟩
      · exact .inr ⟨[], target, rest, rfl, ends⟩

/-- Once a call without categories has ended, the source answers with the empty catalog as long as
all events spare it. -/
theorem answersEmpty_of_finish_unlisted {before after : List Event} {target : Nat}
    (ends : (session.run before).calls[target]? = some call.unlisted)
    (spare : ∀ event ∈ after, event.spares = true) :
    (session.run (before ++ .finish target :: after)).source.AnswersEmpty := by
  have split : session.run (before ++ .finish target :: after) =
      ((session.run before).step (.finish target)).run after := by
    simp [run]
  refine Source.answersEmpty_of_kept ?_
  rw [split, cache_run_of_spares spare, step_finish_unlisted ends]
  rfl

end Session

/-- What becomes of a call for the catalog if the categories are not listed. Among operations that
follow one another, it gives the empty catalog and leaves it in the cache, so that the source
answers with it over any network until it is made to forget it; then the next one who asks gets what
the selected backend offers. Among calls that overlap, the call goes on as if no category were
listed and stays under way until it ends; then it gives the empty catalog and leaves it in the
cache, and from then on the source answers with it as long as no other call ends, nothing is
invalidated and no setting about the catalog is set. -/
theorem failed_listing_remembered :
    (∀ (source : Source) (backend : Backend) (network : Network),
      source.startLoad = .ok (.load (.waiting backend)) → ¬backend.IsListed network →
      let made := (backend.fetch network backend.categoriesUrl).2
      let emptied := { source with cache := ⟨some []⟩ }
      source.getAll network = ⟨.ok [], emptied, made⟩ ∧
      (∀ name, source.getByName network name = ⟨.ok none, emptied, made⟩) ∧
      (∀ quiet : List Operation, (∀ operation ∈ quiet, operation.forgets = false) →
        (emptied.run quiet).AnswersEmpty) ∧
      (∀ before forgetting after, forgetting.forgets = true →
        (forgetting = .invalidate ∨ source.IsOpen) → (∀ later ∈ after, later.asks? = none) →
        let now := emptied.run (before ++ forgetting :: after)
        ∀ selected later, now.backend = .ok selected →
          ∃ catalog, IsCatalog later selected catalog ∧ (now.getAll later).result = .ok catalog)) ∧
    ∀ (session : Session) (position : Nat) (call : Call) (backend : Backend) (reply : Reply),
      session.calls[position]? = some call → call.load = .waiting backend →
      ¬backend.Lists reply →
      let failed := session.step (.reply position .categories reply)
      (∀ empty, backend.readCategories empty = .ok [] →
        session.step (.reply position .categories empty) = failed) ∧
      (∀ ending : Source, ending.finishLoad call.unlisted.load =
        (.ok [], { ending with cache := ⟨some []⟩ })) ∧
      ∀ events : List Session.Event,
        (call.unlisted ∈ (failed.run events).calls ∨
          ∃ before target after, events = before ++ .finish target :: after ∧
            (failed.run before).calls[target]? = some call.unlisted) ∧
        ∀ before target after, events = before ++ .finish target :: after →
          (failed.run before).calls[target]? = some call.unlisted →
          (∀ event ∈ after, event.spares = true) → (failed.run events).source.AnswersEmpty := by
  constructor
  · intro source backend network loads failed made emptied
    have answer : source.getAll network = ⟨.ok [], emptied, made⟩ :=
      Source.getAll_of_not_isListed loads failed
    refine ⟨answer, fun name => ?_, fun quiet remember => ?_, ?_⟩
    · rw [Source.getByName, answer]
      rfl
    · exact Source.answersEmpty_of_kept (Source.cache_run_of_kept rfl remember)
    · intro before forgetting after forgets heard silent now selected later selects
      have stillHeard : forgetting = .invalidate ∨ emptied.IsOpen :=
        heard.imp_right fun isOpen => ⟨isOpen.inMemory, isOpen.subscribed⟩
      exact Source.exists_catalog_of_forgets forgets stillHeard silent selects later
  · intro session position call backend reply present waits unlisted failed
    have unread : (backend.readCategories reply).toOption.getD [] = [] := by
      rw [Backend.toOption_readCategories unlisted, Option.getD_none]
    have steps (other : Reply)
        (none : (backend.readCategories other).toOption.getD [] = []) :
        session.step (.reply position .categories other) =
          { session with calls := session.calls.set position call.unlisted } := by
      rw [Session.step_reply present, Call.take_of_unread waits none]
    have member : call.unlisted ∈ failed.calls := by
      have inside := (List.getElem?_eq_some_iff.mp present).1
      simp only [failed, steps reply unread, List.mem_set inside]
    refine ⟨fun empty lists => ?_, fun ending => rfl,
      fun events => ⟨Session.unlisted_mem_run member events, ?_⟩⟩
    · have none : (backend.readCategories empty).toOption.getD [] = [] := by
        rw [lists]
        rfl
      exact (steps empty none).trans (steps reply unread).symm
    · rintro before target after rfl ends spare
      exact Session.answersEmpty_of_finish_unlisted ends spare

/-- A network that answers nothing. -/
def unreachable : Network := fun _ => .failed "ReadTimeout" ""

theorem not_isListed_unreachable : ¬(Backend.staticIndex "i/").IsListed unreachable := by
  intro listed
  rcases Backend.lists_iff.mp listed with ⟨_, _, brings, _⟩
  cases brings

/-- A source that failed to read the categories answers with the empty catalog over a network that
lists them, until it is invalidated; and so does one whose call ended after a reply without an
answer. -/
theorem failed_listing_remembered_unreachable :
    let asked := (indexSource.getAll unreachable).source
    let quiet := [Operation.getAll twiceOffered, .set "download_path" (.text "e")]
    let asking := (Session.indexSession (.inMemory [])).step .ask
    let unanswered : Reply := .error (.send (.transport ⟨"i/", none, "ReadTimeout"⟩))
    let events := [Session.Event.finish 0, .set .empty "download_path" (.text "e"), .ask]
    (asked.run quiet).AnswersEmpty ∧
    (∃ catalog, IsCatalog twiceOffered (.staticIndex "i/") catalog ∧
      ((asked.run (quiet ++ [.invalidate])).getAll twiceOffered).result = .ok catalog) ∧
    ((asking.step (.reply 0 .categories unanswered)).run events).source.AnswersEmpty := by
  intro asked quiet asking unanswered events
  rcases failed_listing_remembered.1 indexSource (.staticIndex "i/") unreachable rfl
    not_isListed_unreachable with ⟨answer, _, remembers, forgets⟩
  have left : asked = { indexSource with cache := ⟨some []⟩ } := by
    simp only [asked, answer]
  have unlisted : ¬(Backend.staticIndex "i/").Lists unanswered := by
    intro lists
    rcases Backend.lists_iff.mp lists with ⟨_, _, brings, _⟩
    simp only [unanswered, reduceCtorEq] at brings
  have inSession := (failed_listing_remembered.2 asking 0 _ (.staticIndex "i/") unanswered rfl rfl
    unlisted).2.2 events
  rw [left]
  exact ⟨remembers quiet (by decide), forgets quiet .invalidate [] rfl (.inl rfl) (by simp) _ _ rfl,
    inSession.2 [] 0 _ rfl rfl (by decide)⟩

/-- A failure is not made good by a network that lists the categories, over which a source that has
not failed gets a catalog. -/
theorem failed_listing_not_repeated :
    let asked := (indexSource.getAll unreachable).source
    ¬(Backend.staticIndex "i/").IsListed unreachable ∧
    (Backend.staticIndex "i/").IsListed twiceOffered ∧
    asked.cache.isLoaded = true ∧
    ((asked.getAll twiceOffered).result.toOption.map fun catalog => catalog.map Config.name) =
      some [] ∧
    ((indexSource.getAll twiceOffered).result.toOption.map fun catalog =>
      catalog.map Config.name) = some ["x"] := by
  have listed : (Backend.staticIndex "i/").IsListed twiceOffered := ⟨["a", "b"], by decide +kernel⟩
  exact ⟨not_isListed_unreachable, listed, by decide +kernel, by decide +kernel, by decide +kernel⟩

end ImageCatalog.Catalog
