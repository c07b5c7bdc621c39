import ImageCatalog.Proofs.Catalog.Session
import ImageCatalog.Proofs.Catalog.WholeCatalog
import ImageCatalog.Proofs.Settings.Fitting

/-!
# Operations on the catalog that end without a fault

Whatever goes wrong while the catalog is read leads to missing parts: a directory that is not read
counts as empty and a file that is not read is left out. The settings are the exception. They are
put in force before anything is read, and where they do not fit, no backend is selected and the
operation ends in a fault; only a catalog in the cache is given out without looking at them. The
main result says that there is no other way to a fault, and what the operations give otherwise.
-/

namespace ImageCatalog.Catalog

open Disk Http Settings

namespace Source

/-- Whether the settings of the environment are in order and the saved ones fit. -/
def Fits (source : Source) : Prop :=
  ∃ environment, source.settings = .ok environment ∧
    Effective.Fits source.homes source.store environment

variable {source : Source}

/-- A backend is selected exactly if the settings fit. -/
theorem backend_ok_iff : (∃ backend, source.backend = .ok backend) ↔ source.Fits := by
  constructor
  · rintro ⟨backend, selected⟩
    rcases Results.map_ok selected with ⟨effective, inForce, _⟩
    rcases Results.bind_ok inForce with ⟨environment, environmentOk, saved⟩
    exact ⟨environment, Results.mapError_ok environmentOk,
      Effective.of_ok_iff.mp ⟨effective, Results.mapError_ok saved⟩⟩
  · rintro ⟨environment, environmentOk, fits⟩
    rcases Effective.of_ok_iff.mpr fits with ⟨effective, inForce⟩
    refine ⟨backendOf effective, ?_⟩
    simp only [backend, Source.effective, environmentOk, Results.mapError_of_ok, bind, Except.bind,
      inForce]
    rfl

/-- If the settings fit, the backend that is selected is the one that those about the catalog
select. -/
theorem backend_of_selected {backend : Backend} (fits : source.Fits)
    (selected : source.selected = .ok backend) : source.backend = .ok backend := by
  rcases backend_ok_iff.mpr fits with ⟨other, effective⟩
  have same := selected_of_backend effective
  rw [selected] at same
  rw [effective, ← same]

/-! ## What the operations give -/

/-- A listing that is not read counts as one without categories. -/
theorem listCategories_eq (network : Network) (source : Source) :
    (source.listCategories network).1 =
      source.backend.map fun backend => backend.categories network := by
  unfold listCategories
  cases source.backend <;> rfl

/-- A category is read in two rounds; what is not read of it is left out. -/
theorem listCategory_eq (network : Network) (source : Source) (category : String) :
    (source.listCategory network category).1 =
      source.backend.map fun backend => backend.offeredIn network category := by
  unfold listCategory
  cases source.backend with
  | error fault => rfl
  | ok backend =>
      have started :
          ((Load.readAll (.ok backend) [category] : Load Fault), ([] : List Request)).1 =
          .reading [CategoryLoad.start backend category] := rfl
      have listed :
        (Load.round network (.ok backend) (Load.readAll (.ok backend) [category], [])).1 =
          .reading ([CategoryLoad.start backend category].map (CategoryLoad.advance network)) :=
        Load.round_reading started
      have read : (Load.round network (.ok backend)
          (Load.round network (.ok backend) (Load.readAll (.ok backend) [category], []))).1 =
          .reading (([CategoryLoad.start backend category].map (CategoryLoad.advance network)).map
            (CategoryLoad.advance network)) :=
        Load.round_reading listed
      simp only [read, outcome, Load.configs, List.map_cons, List.map_nil, List.flatMap_cons,
        List.flatMap_nil, List.append_nil, CategoryLoad.configs_advance_advance]
      rfl

theorem result_getAll_of_unloaded (network : Network) {source : Source}
    (unloaded : source.cache.isLoaded = false) :
    (source.getAll network).result =
      source.backend.map fun backend => firstOfEachName (backend.offered network) := by
  cases selected : source.backend with
  | ok backend => exact (getAll_of_unloaded selected unloaded).1
  | error fault =>
      have empty : source.cache.get? = none := by
        simpa [Cache.isLoaded, Cache.get?] using unloaded
      simp [getAll, startLoad, empty, selected, Except.map]

theorem result_getAll_of_loaded (network : Network) {source : Source} {catalog : List Config}
    (kept : source.cache.get? = some catalog) : (source.getAll network).result = .ok catalog := by
  simp [getAll, startLoad, kept]

/-- Which operations end without a fault, and with what. Reading the categories, or one of them,
does exactly if the settings fit, and asking for the whole catalog also if it is in the cache. What
the backend does not bring is missing from the result. -/
theorem total_iff_fits (network : Network) (source : Source) (category name : String) :
    ((∃ names, (source.listCategories network).1 = .ok names) ↔ source.Fits) ∧
    ((∃ configs, (source.listCategory network category).1 = .ok configs) ↔ source.Fits) ∧
    ((∃ catalog, (source.getAll network).result = .ok catalog) ↔
      source.cache.isLoaded = true ∨ source.Fits) ∧
    ((∃ found, (source.getByName network name).result = .ok found) ↔
      source.cache.isLoaded = true ∨ source.Fits) ∧
    ∀ backend, source.backend = .ok backend →
      (source.listCategories network).1 = .ok (backend.categories network) ∧
      (source.listCategory network category).1 = .ok (backend.offeredIn network category) ∧
      (source.cache.isLoaded = false →
        (source.getAll network).result = .ok (firstOfEachName (backend.offered network))) := by
  have map_ok_iff {Source Target Cause : Type} (change : Source → Target)
      (result : Except Cause Source) :
      (∃ target, result.map change = .ok target) ↔ ∃ value, result = .ok value := by
    cases result <;> simp [Except.map]
  have whole : (∃ catalog, (source.getAll network).result = .ok catalog) ↔
      source.cache.isLoaded = true ∨ source.Fits := by
    cases kept : source.cache.get? with
    | some catalog =>
        have loaded : source.cache.isLoaded = true := by
          simpa [Cache.isLoaded, Cache.get?] using Option.isSome_of_eq_some kept
        simp [result_getAll_of_loaded network kept, loaded]
    | none =>
        have unloaded : source.cache.isLoaded = false := by
          simpa [Cache.isLoaded, Cache.get?] using kept
        rw [result_getAll_of_unloaded network unloaded, map_ok_iff, backend_ok_iff, unloaded]
        simp
  refine ⟨?_, ?_, whole, ?_, fun backend selected => ⟨?_, ?_, fun unloaded => ?_⟩⟩
  · rw [listCategories_eq, map_ok_iff, backend_ok_iff]
  · rw [listCategory_eq, map_ok_iff, backend_ok_iff]
  · rw [getByName, map_ok_iff, whole]
  · rw [listCategories_eq, selected]
    rfl
  · rw [listCategory_eq, selected]
    rfl
  · rw [result_getAll_of_unloaded network unloaded, selected]
    rfl

/-- An address that is a number or a flag, a location that is a list, and an environment that is out
of order let every operation end in a fault, although the network brings a catalog. -/
theorem faults_of_unfit_settings :
    let environment : Settings :=
      ⟨"i", "", true, none, .ofText "d", Settings.defaultTimeout, .ofText "s"⟩
    let saved (values : List (String × Value)) : Source :=
      start (.own (.ofText "/home")) (.ok environment) (.inMemory values)
    let unfit : List Source :=
      [saved [("static_api_url", .int 5)], saved [("github_api_url", .bool true)],
        saved [("download_path", .list [.null])],
        start (.own (.ofText "/home")) (.error (.invalid [])) (.inMemory [])]
    ((saved []).listCategories twiceOffered).1 = .ok ["a", "b"] ∧
    ∀ source ∈ unfit,
      (source.listCategories twiceOffered).1.toOption = none ∧
      (source.listCategory twiceOffered "b").1.toOption.isNone ∧
      (source.getAll twiceOffered).result.toOption.isNone ∧
      (source.getByName twiceOffered "x").result.toOption.isNone := by
  decide +kernel

end Source

end ImageCatalog.Catalog
