import ImageCatalog.Catalog.Backend

/-!
# Loading the catalog

Loading starts with the directory of categories. When it has arrived all categories are read at
once, and of each category all files at once as soon as its directory has arrived. Replies may
arrive in any order: `deliver` takes the one for a `Slot`, and a reply for a slot that does not wait
for one changes nothing. `round` answers everything that is waited for.

A directory that cannot be read counts as empty, and a file that cannot be read is left out. Each
category is read from the backend that is selected when the reading of it starts; loading stops if
none can be selected.
-/

namespace ImageCatalog.Catalog

open Http

/-- How far a file has been read. -/
inductive FileState
  | waiting
  | finished (config? : Option Config)

/-- A file that is being read. -/
structure FileLoad where
  file : File
  state : FileState

/-- How far a category has been read. -/
inductive CategoryState
  | waiting
  | reading (files : List FileLoad)

/-- A category that is being read from a backend. -/
structure CategoryLoad where
  backend : Backend
  category : String
  state : CategoryState

/-- How far the catalog has been loaded. -/
inductive Load (Fault : Type)
  | waiting (backend : Backend)
  | reading (categories : List CategoryLoad)
  | stopped (fault : Fault)

/-- What a reply is for: the directory of categories, the directory of a category, or a file of a
category, by their positions. -/
inductive Slot
  | categories
  | files (category : Nat)
  | document (category file : Nat)
deriving DecidableEq, Repr

/-- An address that is to be fetched from a backend. -/
structure Pending where
  backend : Backend
  url : String

/-- Fetch what is waited for. -/
def Pending.fetch (network : Network) (pending : Pending) : Reply × List Request :=
  pending.backend.fetch network pending.url

namespace FileLoad

/-- A file of which nothing has been read. -/
def start (file : File) : FileLoad :=
  ⟨file, .waiting⟩

/-- Take the reply for a file. -/
def deliver (category : String) (reply : Reply) (load : FileLoad) : FileLoad :=
  match load.state with
  | .waiting => { load with state := .finished (load.file.readConfig category reply).toOption }
  | .finished _ => load

/-- The configuration in a file that was read. -/
def config? (load : FileLoad) : Option Config :=
  match load.state with
  | .waiting => none
  | .finished config? => config?

/-- Whether a file is still waited for. -/
def isWaiting (load : FileLoad) : Bool :=
  match load.state with
  | .waiting => true
  | .finished _ => false

end FileLoad

namespace CategoryLoad

/-- A category of which nothing has been read. -/
def start (backend : Backend) (category : String) : CategoryLoad :=
  ⟨backend, category, .waiting⟩

/-- The configurations among some files, which are to be read. -/
def toRead (files : List File) : List FileLoad :=
  (files.filter fun file => Config.isConfigFile file.name).map FileLoad.start

/-- Take the reply for the directory of a category. -/
def deliverFiles (reply : Reply) (load : CategoryLoad) : CategoryLoad :=
  match load.state with
  | .waiting =>
    let files := (load.backend.readFiles load.category reply).toOption.getD []
    { load with state := .reading (toRead files) }
  | .reading _ => load

/-- Take the reply for a file of a category. -/
def deliverDocument (position : Nat) (reply : Reply) (load : CategoryLoad) : CategoryLoad :=
  match load.state with
  | .waiting => load
  | .reading files =>
    { load with state := .reading (files.modify position (FileLoad.deliver load.category reply)) }

/-- The configurations of a category that were read, in the order of its directory. -/
def configs (load : CategoryLoad) : List Config :=
  match load.state with
  | .waiting => []
  | .reading files => files.filterMap FileLoad.config?

/-- What a category at a position waits for. -/
def pending (position : Nat) (load : CategoryLoad) : List (Slot × Pending) :=
  match load.state with
  | .waiting => [(.files position, ⟨load.backend, load.backend.filesUrl load.category⟩)]
  | .reading files =>
    (files.zipIdx.filter fun entry => entry.1.isWaiting).map fun entry =>
      (.document position entry.2, ⟨load.backend, entry.1.file.address⟩)

end CategoryLoad

namespace Load

variable {Fault : Type}

/-- Start reading some categories from a selected backend. -/
def readAll (selected : Except Fault Backend) (categories : List String) : Load Fault :=
  match selected, categories with
  | _, [] => .reading []
  | .ok backend, _ => .reading (categories.map (CategoryLoad.start backend))
  | .error fault, _ => .stopped fault

/-- Take a reply; the backend is the one that is selected when the reply arrives. -/
def deliver (selected : Except Fault Backend) (slot : Slot) (reply : Reply) (load : Load Fault) :
    Load Fault :=
  match load, slot with
  | .waiting backend, .categories =>
    readAll selected ((backend.readCategories reply).toOption.getD [])
  | .reading categories, .files position =>
    .reading (categories.modify position (CategoryLoad.deliverFiles reply))
  | .reading categories, .document position file =>
    .reading (categories.modify position (CategoryLoad.deliverDocument file reply))
  | other, _ => other

/-- What loading waits for. -/
def pending : Load Fault → List (Slot × Pending)
  | .waiting backend => [(.categories, ⟨backend, backend.categoriesUrl⟩)]
  | .reading categories =>
    categories.zipIdx.flatMap fun entry => entry.1.pending entry.2
  | .stopped _ => []

/-- The configurations that were read, in the order of the directories. -/
def configs : Load Fault → List Config
  | .reading categories => categories.flatMap CategoryLoad.configs
  | _ => []

/-- Fetch something that is waited for and take the reply. -/
def answer (network : Network) (selected : Except Fault Backend)
    (progress : Load Fault × List Request) (waiting : Slot × Pending) :
    Load Fault × List Request :=
  let (reply, made) := waiting.2.fetch network
  (progress.1.deliver selected waiting.1 reply, progress.2 ++ made)

/-- Fetch everything that is waited for. -/
def round (network : Network) (selected : Except Fault Backend)
    (progress : Load Fault × List Request) : Load Fault × List Request :=
  progress.1.pending.foldl (answer network selected) progress

end Load

/-- The configurations of a row without those whose name has occurred before. -/
def firstOfEachName (configs : List Config) : List Config :=
  configs.foldl (fun kept config =>
    if kept.any fun other => other.name == config.name then kept else kept ++ [config]) []

end ImageCatalog.Catalog
