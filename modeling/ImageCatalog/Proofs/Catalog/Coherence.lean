import ImageCatalog.Proofs.Catalog.Session
import ImageCatalog.Proofs.Catalog.WholeCatalog

/-!
# Coherence of the cache

The catalog in the cache is coherent if a call loaded it that began after the latest change and that
read from the backend that the settings now in force select, and from no other. While no change is
made, calls keep to this backend (`Call.Fits`), so that a catalog can be incoherent for one reason
only: a change was made after its call had begun.

Nothing keeps a call from filling the cache after such a change, and a setting that cannot be saved
changes without the source hearing of it. The main result says that there is no third way: all
states of a session are coherent if and only if neither happens in it.
-/

namespace ImageCatalog.Catalog

open Disk Items Settings

/-- Whether a call fits the selected backend and the number of changes: it began when there were not
more changes, and if none was made since, it reads from the selected backend only. -/
structure Call.Fits (selected : Except Source.Fault Backend) (changes : Nat) (call : Call) :
    Prop where
  began_le : call.began ≤ changes
  reads : call.began = changes → ∀ backend ∈ call.backends, selected = .ok backend

theorem Call.Fits.of_change {selected next : Except Source.Fault Backend} {changes : Nat}
    {call : Call} (fits : call.Fits selected changes) : call.Fits next (changes + 1) := by
  have began := fits.began_le
  exact ⟨by omega, fun recent => by omega⟩

/-- A call that reads on from the selected backend still fits. -/
theorem Call.Fits.take {source : Source} {changes : Nat} {call : Call}
    (fits : call.Fits source.selected changes) (slot : Slot) (reply : Reply) :
    (call.take source.backend slot reply).Fits source.selected changes := by
  refine ⟨fits.began_le, fun recent backend reads => ?_⟩
  have before := fits.reads recent
  rcases List.mem_cons.mp reads with rfl | reads
  · exact before call.asked (by simp [Call.backends])
  · rcases Load.backends_deliver reads with read | effective
    · exact before backend (by simp [Call.backends, read])
    · exact Source.selected_of_backend effective

namespace Session

/-- Whether the cache holds what an ended call has loaded. -/
def Holds (session : Session) (call : Call) : Prop :=
  session.filled = some call ∧ call.load.pending = [] ∧
    session.source.cache.get? = some (firstOfEachName call.load.configs)

/-- Whether the catalog in the cache, if there is one, was loaded by a call that began after the
latest change, and from the backend alone that the settings now in force select. -/
def Coherent (session : Session) : Prop :=
  session.source.cache.isLoaded = true →
    ∃ call, session.Holds call ∧ call.began = session.changes ∧
      ∀ backend ∈ call.backends, session.source.selected = .ok backend

/-- Whether an event spoils the cache: a call fills it that began before the latest change, or a
setting about the catalog changes but cannot be saved while there is a catalog in the cache. -/
def Spoils (session : Session) : Event → Prop
  | .finish position =>
      ∃ call configs, session.calls[position]? = some call ∧ call.load.pending = [] ∧
        Source.outcome call.load = .ok configs ∧ call.began < session.changes
  | .set disk key value =>
      concernsCatalog key = true ∧ (session.source.store.set disk key value).fault ≠ none ∧
        session.source.cache.isLoaded = true
  | _ => False

/-- What all events keep: the source listens to its store, and the calls under way and the one that
filled the cache go with the source. -/
structure Sound (session : Session) : Prop where
  subscribed : Source.listener ∈ session.source.store.listeners
  calls : ∀ call ∈ session.calls, call.Fits session.source.selected session.changes
  filled : session.source.cache.isLoaded = true →
    ∃ call, session.Holds call ∧ call.Fits session.source.selected session.changes

variable {session : Session}

theorem sound_start (homes : Homes) (settings : Except Settings.Fault Settings) (store : Store) :
    (start homes settings store).Sound where
  subscribed := by simp [start, Source.start, Store.subscribe]
  calls := by simp [start]
  filled := by simp [start, Source.start, Cache.empty, Cache.isLoaded]

/-- A catalog in the cache is coherent exactly if no change was made after its call had begun. -/
theorem Sound.coherent_iff (sound : session.Sound) :
    session.Coherent ↔ (session.source.cache.isLoaded = true →
      ∀ call, session.filled = some call → call.began = session.changes) := by
  constructor
  · intro coherent loaded call filled
    rcases coherent loaded with ⟨other, ⟨otherFilled, _⟩, recent, _⟩
    rw [filled, Option.some.injEq] at otherFilled
    rw [otherFilled]
    exact recent
  · intro recent loaded
    rcases sound.filled loaded with ⟨call, holds, fits⟩
    have began := recent loaded call holds.1
    exact ⟨call, holds, began, fits.reads began⟩

theorem Sound.ask (sound : session.Sound) : session.ask.Sound := by
  unfold Session.ask
  split
  · next backend starts =>
      refine ⟨sound.subscribed, fun call callMem => ?_, sound.filled⟩
      rcases List.mem_append.mp callMem with earlier | isNew
      · exact sound.calls call earlier
      · rcases Source.startLoad_eq_load starts with ⟨other, effective, same⟩
        cases same
        rw [List.mem_singleton.mp isNew]
        refine ⟨Nat.le_refl _, fun _ reads readsMem => ?_⟩
        simp only [Call.backends, Load.backends, List.mem_cons, List.not_mem_nil, or_false,
          or_self] at readsMem
        rw [readsMem]
        exact Source.selected_of_backend effective
  · exact sound

theorem configs_of_outcome {load : Load Source.Fault} {configs : List Config}
    (ended : Source.outcome load = .ok configs) : configs = load.configs := by
  cases load <;> cases ended <;> rfl

theorem finish_of_outcome (position : Nat) {call : Call} {configs : List Config}
    (ended : Source.outcome call.load = .ok configs) :
    session.finish position call =
      { session with
        source := { session.source with cache := ⟨some (firstOfEachName configs)⟩ }
        calls := session.calls.eraseIdx position
        filled := some call } := by
  simp only [Session.finish, ended, Source.finishLoad_of_outcome session.source ended]

theorem Sound.finish (sound : session.Sound) {position : Nat} {call : Call}
    (present : session.calls[position]? = some call) (idle : call.load.pending = []) :
    (session.finish position call).Sound := by
  have others : ∀ other ∈ session.calls.eraseIdx position,
      other.Fits session.source.selected session.changes :=
    fun other otherMem => sound.calls other (List.mem_of_mem_eraseIdx otherMem)
  cases ended : Source.outcome call.load with
  | error fault =>
      simp only [Session.finish, ended]
      exact ⟨sound.subscribed, others, sound.filled⟩
  | ok configs =>
      rw [finish_of_outcome position ended, configs_of_outcome ended]
      have fits := sound.calls call (List.mem_of_getElem? present)
      exact ⟨sound.subscribed, others, fun _ => ⟨call, ⟨rfl, idle, rfl⟩, fits⟩⟩

/-- What setting a value does in a session. -/
theorem step_set (subscribed : Source.listener ∈ session.source.store.listeners) (disk : Tree)
    (key : String) (value : Value) :
    session.step (.set disk key value) =
      { session with
        source := { session.source with
          store := (session.source.store.set disk key value).store
          cache :=
            if concernsCatalog key = true ∧ (session.source.store.set disk key value).fault = none
            then .empty
            else session.source.cache }
        changes := if concernsCatalog key then session.changes + 1 else session.changes } := by
  rw [step, Source.afterChange_set subscribed]

theorem Sound.set (sound : session.Sound) (disk : Tree) (key : String) (value : Value) :
    (session.step (.set disk key value)).Sound := by
  have subscribed : Source.listener ∈ (session.source.store.set disk key value).store.listeners :=
    (Store.mem_listeners_set rfl _ _ _ _).mpr sound.subscribed
  rw [step_set sound.subscribed]
  cases concerns : concernsCatalog key with
  | false =>
      have same : ({ session.source with
          store := (session.source.store.set disk key value).store } : Source).selected =
          session.source.selected := Source.selected_set concerns
      refine ⟨subscribed, fun call callMem => ?_, fun loaded => ?_⟩
      · exact same ▸ sound.calls call callMem
      · rcases sound.filled loaded with ⟨call, holds, fits⟩
        exact ⟨call, holds, same ▸ fits⟩
  | true =>
      refine ⟨subscribed, fun call callMem => (sound.calls call callMem).of_change, ?_⟩
      cases unsaved : (session.source.store.set disk key value).fault with
      | none =>
          intro loaded
          simp [Cache.empty, Cache.isLoaded] at loaded
      | some fault =>
          intro loaded
          rcases sound.filled loaded with ⟨call, holds, fits⟩
          exact ⟨call, holds, fits.of_change⟩

theorem Sound.step (sound : session.Sound) (event : Event) : (session.step event).Sound := by
  cases event with
  | ask => exact sound.ask
  | set disk key value => exact sound.set disk key value
  | invalidate =>
      refine ⟨sound.subscribed, fun call callMem => (sound.calls call callMem).of_change, ?_⟩
      intro loaded
      cases loaded
  | reply position slot reply =>
      refine ⟨sound.subscribed, ?_, sound.filled⟩
      refine forall_mem_modify sound.calls fun call present => ?_
      exact (sound.calls call (List.mem_of_getElem? present)).take slot reply
  | finish position =>
      simp only [Session.step]
      split
      · next call present =>
          split
          · next idle => exact sound.finish present (List.isEmpty_iff.mp idle)
          · exact sound
      · exact sound

/-! ## Which events spoil the cache -/

theorem coherent_set_iff (sound : session.Sound) (coherent : session.Coherent) (disk : Tree)
    (key : String) (value : Value) :
    (session.step (.set disk key value)).Coherent ↔ ¬session.Spoils (.set disk key value) := by
  have recent := sound.coherent_iff.mp coherent
  rw [(sound.set disk key value).coherent_iff, step_set sound.subscribed, Spoils]
  cases concerns : concernsCatalog key with
  | false => exact ⟨fun _ spoils => Bool.false_ne_true spoils.1, fun _ => recent⟩
  | true =>
      cases unsaved : (session.source.store.set disk key value).fault with
      | none =>
          refine ⟨fun _ spoils => spoils.2.1 rfl, fun _ loaded => ?_⟩
          simp [Cache.empty, Cache.isLoaded] at loaded
      | some fault =>
          constructor
          · rintro later ⟨_, _, loaded⟩
            rcases sound.filled loaded with ⟨call, holds, _⟩
            have began : call.began = session.changes := recent loaded call holds.1
            have beganLater : call.began = session.changes + 1 := later loaded call holds.1
            omega
          · intro unspoilt loaded
            exact (unspoilt ⟨rfl, by simp, loaded⟩).elim

theorem spoils_finish_iff {position : Nat} {call : Call}
    (present : session.calls[position]? = some call) :
    session.Spoils (.finish position) ↔
      call.load.pending = [] ∧ (∃ configs, Source.outcome call.load = .ok configs) ∧
        call.began < session.changes := by
  simp [Spoils, present]

theorem coherent_finish_iff (sound : session.Sound) (coherent : session.Coherent)
    (position : Nat) :
    (session.step (.finish position)).Coherent ↔ ¬session.Spoils (.finish position) := by
  cases present : session.calls[position]? with
  | none => simpa [step, Spoils, present] using coherent
  | some call =>
      simp only [step, present, spoils_finish_iff present]
      by_cases idle : call.load.pending = []
      · simp only [idle, List.isEmpty_nil, if_true]
        cases ended : Source.outcome call.load with
        | error fault =>
            simp only [Session.finish, ended]
            exact ⟨fun _ spoils => by simp at spoils, fun _ => coherent⟩
        | ok configs =>
            rw [(sound.finish present idle).coherent_iff, finish_of_outcome position ended]
            have began := (sound.calls call (List.mem_of_getElem? present)).began_le
            constructor
            · rintro recent ⟨_, _, overtaken⟩
              have beganNow : call.began = session.changes := recent rfl call rfl
              omega
            · rintro unspoilt _ other same
              cases same
              change call.began = session.changes
              by_contra overtaken
              exact unspoilt ⟨trivial, ⟨configs, rfl⟩, by omega⟩
      · have waits : call.load.pending.isEmpty = false := by simpa using idle
        simp only [waits]
        exact ⟨fun _ spoils => idle spoils.1, fun _ => coherent⟩

/-- From a coherent state, an event leads to an incoherent one exactly if it spoils the cache. -/
theorem coherent_step_iff (sound : session.Sound) (coherent : session.Coherent) (event : Event) :
    (session.step event).Coherent ↔ ¬session.Spoils event := by
  cases event with
  | reply position slot reply => exact ⟨fun _ spoils => spoils, fun _ => coherent⟩
  | finish position => exact coherent_finish_iff sound coherent position
  | set disk key value => exact coherent_set_iff sound coherent disk key value
  | invalidate => exact ⟨fun _ spoils => spoils, fun _ loaded => by cases loaded⟩
  | ask =>
      refine ⟨fun _ spoils => spoils, fun _ => ?_⟩
      simp only [step, Session.ask]
      split
      · exact coherent
      · exact coherent

/-- All states of a session are coherent exactly if no event spoils the cache. -/
theorem coherent_run_iff (sound : session.Sound) (coherent : session.Coherent)
    (events : List Event) :
    (∀ before later, events = before ++ later → (session.run before).Coherent) ↔
      ∀ before event later, events = before ++ event :: later →
        ¬(session.run before).Spoils event := by
  induction events generalizing session with
  | nil =>
      refine ⟨fun _ before event later split => by simp at split, fun _ before later split => ?_⟩
      rw [(List.append_eq_nil_iff.mp split.symm).1]
      exact coherent
  | cons first rest hypothesis =>
      have leads := coherent_step_iff sound coherent first
      rw [forall_split_cons, forall_split_item_cons]
      constructor
      · rintro ⟨_, all⟩
        have unspoilt : ¬session.Spoils first := leads.mp (all [] rest rfl)
        exact ⟨unspoilt, (hypothesis (sound.step first) (leads.mpr unspoilt)).mp all⟩
      · rintro ⟨unspoilt, unspoiltLater⟩
        have next := hypothesis (sound.step first) (leads.mpr unspoilt)
        exact ⟨coherent, next.mpr unspoiltLater⟩

theorem sound_run (sound : session.Sound) (events : List Event) : (session.run events).Sound := by
  induction events generalizing session with
  | nil => exact sound
  | cons first rest hypothesis => exact hypothesis (sound.step first)

/-- When the cache is coherent: in one state exactly if no change was made after the call that
filled it had begun, and in all states of a session exactly if no event spoils it. -/
theorem coherent_session_iff (homes : Homes) (settings : Except Settings.Fault Settings)
    (store : Store) (events : List Event) :
    let session := start homes settings store
    ((session.run events).Coherent ↔
      ((session.run events).source.cache.isLoaded = true →
        ∀ call, (session.run events).filled = some call →
          call.began = (session.run events).changes)) ∧
    ((∀ before later, events = before ++ later → (session.run before).Coherent) ↔
      ∀ before event later, events = before ++ event :: later →
        ¬(session.run before).Spoils event) := by
  intro session
  have sound : session.Sound := sound_start homes settings store
  have coherent : session.Coherent := by
    intro loaded
    cases loaded
  exact ⟨(sound_run sound events).coherent_iff, coherent_run_iff sound coherent events⟩

/-! ## Spoilt caches -/

theorem Coherent.began {session : Session} (coherent : session.Coherent)
    (loaded : session.source.cache.isLoaded = true) :
    session.filled.map Call.began = some session.changes := by
  rcases coherent loaded with ⟨call, ⟨filled, _⟩, recent, _⟩
  rw [filled, Option.map_some, recent]

/-- A session of a source of which the settings select a static index. -/
def indexSession (store : Store) : Session :=
  start (.own (.ofText "/home"))
    (.ok ⟨"i", "", true, none, .ofText "d", Settings.defaultTimeout, .ofText "s"⟩) store

/-- Replies that bring a category with a file. -/
def replies : List Event :=
  let bring (text : String) : Reply := .ok ⟨"", 200, [], Text.Utf8.encode text⟩
  [.reply 0 .categories (bring (anchorText "folder" "a")),
    .reply 0 (.files 0) (bring (anchorText "file" "x.api.json")),
    .reply 0 (.document 0 0) (bring serviceText)]

/-- The static index moves. -/
def moveTo (disk : Tree) : Event :=
  .set disk SavedName.staticUrl.key (.text "j")

/-- The addresses from which the catalog in the cache was read, and the one that is selected. -/
def addresses (session : Session) : Option (List String) × Option String :=
  (session.filled.map fun call => call.backends.map Backend.categoriesUrl,
    session.source.selected.toOption.map Backend.categoriesUrl)

/-- A call fills the cache from an index that is no longer selected; a call fills it from two
indexes; a call fills it although it was invalidated; and a setting that cannot be saved leaves a
catalog in it. -/
theorem incoherent_sessions :
    let overtaken :=
      (indexSession (.inMemory [])).run (.ask :: replies ++ [moveTo .empty, .finish 0])
    let mixed :=
      (indexSession (.inMemory [])).run (.ask :: moveTo .empty :: replies ++ [.finish 0])
    let refilled :=
      (indexSession (.inMemory [])).run (.ask :: replies ++ [.invalidate, .finish 0])
    let unsaved :=
      (indexSession ⟨some (.ofText "f/s"), [], []⟩).run
        (.ask :: replies ++ [.finish 0, moveTo { items := [(.ofText "f", .file [])] }])
    (∀ session ∈ [overtaken, mixed, refilled, unsaved],
      (session.source.cache.get?.map fun configs => configs.map Config.name) = some ["x"] ∧
        ¬session.Coherent) ∧
    [overtaken, mixed, refilled, unsaved].map addresses =
      [(some ["i/", "i/"], some "j/"), (some ["i/", "j/"], some "j/"),
        (some ["i/", "i/"], some "i/"), (some ["i/", "i/"], some "j/")] := by
  intro overtaken mixed refilled unsaved
  refine ⟨fun session sessionMem => ?_, by decide +kernel⟩
  have stale : (session.source.cache.get?.map fun configs => configs.map Config.name) = some ["x"] ∧
      session.source.cache.isLoaded = true ∧
      session.filled.map Call.began ≠ some session.changes := by
    revert session
    decide +kernel
  exact ⟨stale.1, fun coherent => stale.2.2 (coherent.began stale.2.1)⟩

end Session

end ImageCatalog.Catalog
