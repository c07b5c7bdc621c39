import ImageCatalog.Proofs.Catalog.Arrival

/-!
# Loading in rounds

Asking for the catalog without overlap answers everything that is waited for, round by round. A
round brings every category one stage further, so that three rounds read the whole catalog: its
directory, the directories of its categories, and their files.
-/

namespace ImageCatalog.Catalog

open Http Items

variable {network : Network} {backend : Backend}

/-- A category one stage further: its directory is read, or its files are. -/
def CategoryLoad.advance (network : Network) (load : CategoryLoad) : CategoryLoad :=
  match load.state with
  | .waiting =>
      load.deliverFiles (load.backend.reply network (load.backend.filesUrl load.category))
  | .reading files =>
      { load with
        state := .reading (files.map fun file =>
          file.deliver load.category (load.backend.reply network file.file.address)) }

namespace Load

variable {Fault : Type}

/-- Take the reply to something that is waited for. -/
def take (network : Network) (selected : Except Fault Backend) (load : Load Fault)
    (waiting : Slot × Pending) : Load Fault :=
  load.deliver selected waiting.1 (waiting.2.fetch network).1

theorem fst_foldl_answer (selected : Except Fault Backend) (awaited : List (Slot × Pending))
    (progress : Load Fault × List Request) :
    (awaited.foldl (answer network selected) progress).1 =
      awaited.foldl (take network selected) progress.1 := by
  induction awaited generalizing progress with
  | nil => rfl
  | cons first rest hypothesis => exact hypothesis _

theorem foldl_take_category (selected : Except Fault Backend) (before : List CategoryLoad)
    (category : CategoryLoad) (after : List CategoryLoad) :
    (category.pending before.length).foldl (take network selected)
      (.reading (before ++ category :: after)) =
      .reading (before ++ category.advance network :: after) := by
  rcases category with ⟨backend, name, _ | files⟩
  · simp only [CategoryLoad.pending, List.foldl_cons, List.foldl_nil, take, deliver,
      modify_append_cons]
    rfl
  · simp only [CategoryLoad.pending, List.foldl_map, List.foldl_filter]
    refine foldl_zipIdx (fun files : List FileLoad =>
      Load.reading (before ++ ⟨backend, name, .reading files⟩ :: after)) ?_ [] files
    intro earlier file later
    rcases file with ⟨file, _ | config?⟩
    · simp only [take, deliver, modify_append_cons, CategoryLoad.deliverDocument]
      rfl
    · rfl

/-- A round brings every category one stage further. -/
theorem round_reading {selected : Except Fault Backend} {progress : Load Fault × List Request}
    {categories : List CategoryLoad} (reading : progress.1 = .reading categories) :
    (round network selected progress).1 =
      .reading (categories.map (CategoryLoad.advance network)) := by
  rw [round, fst_foldl_answer, reading, Load.pending, List.foldl_flatMap]
  exact foldl_zipIdx Load.reading (foldl_take_category selected) [] categories

theorem round_waiting (backend selected : Backend) (made : List Request) :
    (round network (.ok selected) ((.waiting backend : Load Fault), made)).1 =
      .reading ((backend.categories network).map (CategoryLoad.start selected)) :=
  readAll_ok selected _

/-- The rounds in which the whole catalog is read. -/
def threeRounds (network : Network) (selected : Except Fault Backend) (load : Load Fault) :
    Load Fault × List Request :=
  round network selected (round network selected (round network selected (load, [])))

end Load

namespace CategoryLoad

/-- Two stages after its start a category has been read. -/
theorem configs_advance_advance (backend : Backend) (category : String) :
    (((start backend category).advance network).advance network).configs =
      backend.offeredIn network category := by
  have finished : ∀ file : FileLoad, file.state = .waiting →
      (file.deliver category (backend.reply network file.file.address)).config? =
        backend.config? network category file.file := by
    intro file waiting
    simp only [FileLoad.deliver, waiting]
    rfl
  simp only [advance, start, deliverFiles, configs, Backend.offeredIn, toRead, List.map_map,
    List.filterMap_map]
  exact List.filterMap_congr fun file _ => finished (FileLoad.start file) rfl

end CategoryLoad

namespace Source

theorem finishLoad_of_outcome (source : Source) {load : Load Fault} {configs : List Config}
    (ended : outcome load = .ok configs) :
    source.finishLoad load =
      (.ok (firstOfEachName configs),
        { source with cache := ⟨some (firstOfEachName configs)⟩ }) := by
  rw [finishLoad, ended]
  rfl

theorem outcome_threeRounds (backend : Backend) :
    outcome (Load.threeRounds network (.ok backend) (.waiting backend)).1 =
      .ok (backend.offered network) := by
  have read : (Load.threeRounds network (.ok backend) (.waiting backend : Load Fault)).1 =
      .reading ((((backend.categories network).map (CategoryLoad.start backend)).map
        (CategoryLoad.advance network)).map (CategoryLoad.advance network)) :=
    Load.round_reading (Load.round_reading (Load.round_waiting backend backend []))
  rw [read]
  simp only [outcome, Load.configs, List.map_map, List.flatMap_map, Function.comp_def,
    CategoryLoad.configs_advance_advance]
  rfl

theorem getAll_of_startLoad {source : Source} {load : Load Fault}
    (starts : source.startLoad = .ok (.load load)) :
    source.getAll network =
      let final := Load.threeRounds network source.backend load
      ⟨(source.finishLoad final.1).1, (source.finishLoad final.1).2, final.2⟩ := by
  simp only [getAll, starts, Load.threeRounds]

/-- Without a kept catalog, asking for the catalog starts to load it from the selected backend. -/
theorem startLoad_of_unloaded {source : Source} (selected : source.backend = .ok backend)
    (unloaded : source.cache.isLoaded = false) :
    source.startLoad = .ok (.load (.waiting backend)) := by
  have empty : source.cache.get? = none := by
    simpa [Cache.isLoaded, Cache.get?] using unloaded
  simp [startLoad, empty, selected, Except.map]

/-- Without a kept catalog, asking for the catalog reads all that the selected backend offers and
keeps the first configuration of each name. -/
theorem getAll_of_unloaded {source : Source} (selected : source.backend = .ok backend)
    (unloaded : source.cache.isLoaded = false) :
    (source.getAll network).result = .ok (firstOfEachName (backend.offered network)) ∧
      (source.getAll network).source =
        { source with cache := ⟨some (firstOfEachName (backend.offered network))⟩ } := by
  rw [getAll_of_startLoad (startLoad_of_unloaded selected unloaded), selected]
  simp only [finishLoad_of_outcome source (outcome_threeRounds backend), and_self]

end Source

end ImageCatalog.Catalog
