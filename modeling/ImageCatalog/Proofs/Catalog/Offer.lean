import ImageCatalog.Catalog.Source
import ImageCatalog.Proofs.Items
import ImageCatalog.Proofs.Results

/-!
# What a backend offers

Over a network that answers every request in a fixed way, a backend has categories, its categories
have files, and some of the files hold configurations. `Offers` says at which place a configuration
is offered: the position of its category among the categories and the position of its file among the
files of the category. A directory that cannot be read counts as empty.

`placed` enumerates all offers, and does so in the order of their places; `offered` is the same row
without the places, in the form in which loading puts it together.
-/

namespace ImageCatalog.Catalog

open Http Items

namespace Backend

variable (network : Network) (backend : Backend)

/-- What an address brings. -/
def reply (url : String) : Reply :=
  (backend.fetch network url).1

/-- The categories of a backend. -/
def categories : List String :=
  (backend.readCategories (backend.reply network backend.categoriesUrl)).toOption.getD []

/-- The files of a category. -/
def files (category : String) : List File :=
  (backend.readFiles category (backend.reply network (backend.filesUrl category))).toOption.getD []

/-- The configuration in a file of a category, if it has one. -/
def config? (category : String) (file : File) : Option Config :=
  (file.readConfig category (backend.reply network file.address)).toOption

/-- The files of a category that are named like configurations. -/
def configFiles (category : String) : List File :=
  (backend.files network category).filter fun file => Config.isConfigFile file.name

/-- The configurations of a category in the order of its files. -/
def offeredIn (category : String) : List Config :=
  (backend.configFiles network category).filterMap (backend.config? network category)

/-- All configurations in the order of the categories and their files. -/
def offered : List Config :=
  (backend.categories network).flatMap (backend.offeredIn network)

end Backend

/-- Where a configuration is offered: the positions of its category and of its file. -/
structure Place where
  category : Nat
  file : Nat
deriving DecidableEq

/-- Whether a place comes before another one in the order of the categories and their files. -/
def Place.Precedes (place other : Place) : Prop :=
  place.category < other.category ∨ place.category = other.category ∧ place.file < other.file

/-- Whether a configuration is offered at a place: the file there has its name with the suffix of
configuration files, and the document that the file brings describes it. -/
def Offers (network : Network) (backend : Backend) (place : Place) (config : Config) : Prop :=
  ∃ file answer document,
    (backend.categories network)[place.category]? = some config.category ∧
    (backend.files network config.category)[place.file]? = some file ∧
    file.name = config.name ++ Config.fileSuffix ∧
    backend.reply network file.address = .ok answer ∧
    answer.json = .ok document ∧
    Config.build document config.name config.category = .ok config

/-- Whether a configuration is offered at a place and none of its name is offered before. -/
def OffersFirst (network : Network) (backend : Backend) (place : Place) (config : Config) : Prop :=
  Offers network backend place config ∧
    ∀ other rival, Offers network backend other rival → rival.name = config.name →
      ¬other.Precedes place

/-- The configurations of the category at a position, with their places. -/
def placedIn (network : Network) (backend : Backend) (entry : String × Nat) :
    List (Place × Config) :=
  (backend.files network entry.1).zipIdx.filterMap fun (file, position) =>
    if Config.isConfigFile file.name then
      (backend.config? network entry.1 file).map fun config => (⟨entry.2, position⟩, config)
    else none

/-- All configurations with their places. -/
def placed (network : Network) (backend : Backend) : List (Place × Config) :=
  (backend.categories network).zipIdx.flatMap (placedIn network backend)

variable {network : Network} {backend : Backend}

theorem map_placedIn (entry : String × Nat) :
    (placedIn network backend entry).map Prod.snd = backend.offeredIn network entry.1 := by
  have unplaced (file : File × Nat) :
      ((if Config.isConfigFile file.1.name then
        (backend.config? network entry.1 file.1).map fun config =>
          ((⟨entry.2, file.2⟩ : Place), config)
      else none).map Prod.snd) =
        if Config.isConfigFile file.1.name then backend.config? network entry.1 file.1
        else none := by
    split
    · cases backend.config? network entry.1 file.1 <;> rfl
    · rfl
  rw [placedIn, Backend.offeredIn, Backend.configFiles, List.map_filterMap, List.filterMap_filter]
  simp only [unplaced]
  conv => rhs; rw [← List.zipIdx_map_fst 0 (backend.files network entry.1), List.filterMap_map]
  rfl

theorem map_placed : (placed network backend).map Prod.snd = backend.offered network := by
  rw [placed, Backend.offered, List.map_flatMap]
  simp only [map_placedIn]
  conv => rhs; rw [← List.zipIdx_map_fst 0 (backend.categories network), List.flatMap_map]

theorem mem_placedIn_iff {entry : String × Nat} {place : Place} {config : Config} :
    (place, config) ∈ placedIn network backend entry ↔
      place.category = entry.2 ∧
      ∃ file, (backend.files network entry.1)[place.file]? = some file ∧
        Config.isConfigFile file.name = true ∧
        backend.config? network entry.1 file = some config := by
  rw [placedIn, List.mem_filterMap]
  constructor
  · rintro ⟨⟨file, position⟩, fileMem, found⟩
    rw [List.mem_zipIdx_iff_getElem?] at fileMem
    simp only [Option.ite_none_right_eq_some, Option.map_eq_some_iff, Prod.mk.injEq] at found
    rcases found with ⟨isConfig, other, described, rfl, rfl⟩
    exact ⟨rfl, file, fileMem, isConfig, described⟩
  · rintro ⟨sameCategory, file, fileMem, isConfig, described⟩
    refine ⟨(file, place.file), List.mem_zipIdx_iff_getElem?.mpr fileMem, ?_⟩
    simp [isConfig, described, ← sameCategory]

/-- The offers are enumerated in the order of their places. -/
theorem pairwise_placed :
    (placed network backend).Pairwise fun entry later => entry.1.Precedes later.1 := by
  rw [placed, List.pairwise_flatMap]
  constructor
  · intro entry _
    rw [placedIn, List.pairwise_filterMap]
    refine (pairwise_zipIdx _).imp fun earlier first firstFound second secondFound => ?_
    simp only [Option.ite_none_right_eq_some, Option.map_eq_some_iff] at firstFound secondFound
    rcases firstFound with ⟨_, _, _, rfl⟩
    rcases secondFound with ⟨_, _, _, rfl⟩
    exact .inr ⟨rfl, earlier⟩
  · refine (pairwise_zipIdx _).imp fun earlier first firstMem second secondMem => ?_
    have firstCategory := (mem_placedIn_iff.mp firstMem).1
    have secondCategory := (mem_placedIn_iff.mp secondMem).1
    exact .inl (by omega)

theorem readConfig_eq_ok_iff {file : File} {category : String} {reply : Reply} {config : Config} :
    file.readConfig category reply = .ok config ↔
      ∃ answer document, reply = .ok answer ∧ answer.json = .ok document ∧
        Config.build document (Config.nameOfFile file.name) category = .ok config := by
  constructor
  · intro reads
    rcases Results.bind_ok reads with ⟨answer, replied, later⟩
    rcases Results.bind_ok later with ⟨document, read, built⟩
    exact ⟨answer, document, replied, Results.mapError_ok read, Results.mapError_ok built⟩
  · rintro ⟨answer, document, rfl, read, built⟩
    simp only [File.readConfig, read, built, bind, Except.bind, Results.mapError_of_ok]

theorem name_category_of_build {document : Value} {name category : String} {config : Config}
    (built : Config.build document name category = .ok config) :
    config.name = name ∧ config.category = category := by
  unfold Config.build at built
  split at built
  · cases built
    exact ⟨rfl, rfl⟩
  · cases built

/-- The configurations are enumerated at the places where they are offered. -/
theorem mem_placed_iff {place : Place} {config : Config} :
    (place, config) ∈ placed network backend ↔ Offers network backend place config := by
  rw [placed, List.mem_flatMap]
  constructor
  · rintro ⟨⟨category, position⟩, categoryMem, placedMem⟩
    rw [List.mem_zipIdx_iff_getElem?] at categoryMem
    rcases mem_placedIn_iff.mp placedMem with ⟨rfl, file, fileMem, isConfig, described⟩
    rcases (Config.isConfigFile_iff file.name).mp isConfig with ⟨name, named⟩
    rcases readConfig_eq_ok_iff.mp (Results.eq_ok_of_toOption described) with
      ⟨answer, document, replied, read, built⟩
    rcases name_category_of_build built with ⟨configNamed, inCategory⟩
    simp only at *
    subst inCategory
    rw [named, Config.nameOfFile_append] at configNamed built
    subst configNamed
    exact ⟨file, answer, document, categoryMem, fileMem, named, replied, read, built⟩
  · rintro ⟨file, answer, document, categoryMem, fileMem, named, replied, read, built⟩
    refine ⟨(config.category, place.category), List.mem_zipIdx_iff_getElem?.mpr categoryMem, ?_⟩
    refine mem_placedIn_iff.mpr ⟨rfl, file, fileMem, ?_, ?_⟩
    · exact (Config.isConfigFile_iff file.name).mpr ⟨config.name, named⟩
    · have read : file.readConfig config.category (backend.reply network file.address) =
          .ok config := by
        refine readConfig_eq_ok_iff.mpr ⟨answer, document, replied, read, ?_⟩
        rw [named, Config.nameOfFile_append, built]
      simp [Backend.config?, read, Except.toOption]

end ImageCatalog.Catalog
