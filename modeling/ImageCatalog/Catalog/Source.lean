import ImageCatalog.Catalog.Cache
import ImageCatalog.Catalog.Load
import ImageCatalog.Settings.Effective

/-!
# The catalog

A `Source` reads the catalog from the backend that the settings select and keeps the last catalog
that it loaded as a whole. It listens to its store of saved settings, and forgets the catalog when a
setting changes that says where the catalog is. Of configurations with one name the first is kept.

What goes wrong at the backend leads to missing parts, never to a fault; settings that do not fit
do.
-/

namespace ImageCatalog.Catalog

open Disk Http

/-- The settings of the environment, the saved settings, and the catalog that was loaded last. -/
structure Source where
  homes : Homes
  settings : Except Settings.Fault Settings
  store : Settings.Store
  cache : Cache

namespace Source

/-- Why no backend is selected: the settings of the environment or the saved ones do not fit. -/
inductive Fault
  | environment (fault : Settings.Fault)
  | saved (fault : Settings.Effective.Fault)
deriving DecidableEq, Repr

/-- The listener by which a source hears of changes of its store. -/
def listener : Settings.Listener :=
  ⟨"catalog", false⟩

/-- A source that listens to its store and has not loaded anything. -/
def start (homes : Homes) (settings : Except Settings.Fault Settings) (store : Settings.Store) :
    Source :=
  ⟨homes, settings, store.subscribe listener, .empty⟩

/-- The settings in force. -/
def effective (source : Source) : Except Fault Settings.Effective := do
  let settings ← source.settings.mapError .environment
  (Settings.Effective.of source.homes source.store settings).mapError .saved

/-- The backend that some settings select. -/
def backendOf (effective : Settings.Effective) : Backend :=
  if effective.usesStaticIndex then .staticIndex effective.staticUrl
  else .repository effective.repositoryUrl effective.token

/-- The backend that the settings in force select. -/
def backend (source : Source) : Except Fault Backend :=
  source.effective.map backendOf

/-- Forget the catalog. -/
def invalidate (source : Source) : Source :=
  { source with cache := source.cache.invalidate }

/-- Hear of a change of a setting. -/
def hear (source : Source) (notice : Settings.Notice) : Source :=
  if notice.listener = listener ∧ Settings.concernsCatalog notice.key then source.invalidate
  else source

/-- Take over a change of the store. -/
def afterChange (source : Source) (change : Settings.Store.Change) : Source :=
  change.notices.foldl hear { source with store := change.store }

/-- Stop listening to the store. -/
def close (source : Source) : Source :=
  { source with store := source.store.unsubscribe listener }

/-- The categories of the catalog, with the requests that were made. -/
def listCategories (network : Network) (source : Source) :
    Except Fault (List String) × List Request :=
  match source.backend with
  | .error fault => (.error fault, [])
  | .ok backend =>
    let (reply, made) := backend.fetch network backend.categoriesUrl
    (.ok ((backend.readCategories reply).toOption.getD []), made)

/-- The outcome of loading that has ended. -/
def outcome (load : Load Fault) : Except Fault (List Config) :=
  match load with
  | .stopped fault => .error fault
  | other => .ok other.configs

/-- The configurations of one category, with the requests that were made. -/
def listCategory (network : Network) (source : Source) (category : String) :
    Except Fault (List Config) × List Request :=
  let selected := source.backend
  let started := Load.readAll selected [category]
  let (load, made) := ((started, []) |> Load.round network selected) |> Load.round network selected
  (outcome load, made)

/-- How asking for the whole catalog goes on: there is a catalog already, or it has to be loaded. -/
inductive Start
  | cached (configs : List Config)
  | load (load : Load Fault)

/-- Start asking for the whole catalog. -/
def startLoad (source : Source) : Except Fault Start :=
  match source.cache.get? with
  | some configs => .ok (.cached configs)
  | none => source.backend.map fun backend => .load (.waiting backend)

/-- Keep the catalog of loading that has ended. -/
def finishLoad (source : Source) (load : Load Fault) : Except Fault (List Config) × Source :=
  match outcome load with
  | .error fault => (.error fault, source)
  | .ok configs =>
    let catalog := firstOfEachName configs
    (.ok catalog, { source with cache := source.cache.set catalog })

/-- What asking for something leaves behind: the result, the source, and the requests that were
made. -/
structure Outcome (Result : Type) where
  result : Except Fault Result
  source : Source
  requests : List Request

/-- The whole catalog. -/
def getAll (network : Network) (source : Source) : Outcome (List Config) :=
  match source.startLoad with
  | .error fault => ⟨.error fault, source, []⟩
  | .ok (.cached configs) => ⟨.ok configs, source, []⟩
  | .ok (.load started) =>
    let round := Load.round network source.backend
    let (load, made) := round (round (round (started, [])))
    let (result, final) := source.finishLoad load
    ⟨result, final, made⟩

/-- The configuration of a name. -/
def getByName (network : Network) (source : Source) (name : String) : Outcome (Option Config) :=
  let outcome := source.getAll network
  ⟨outcome.result.map fun configs => configs.find? fun config => config.name == name,
    outcome.source, outcome.requests⟩

end Source

end ImageCatalog.Catalog
