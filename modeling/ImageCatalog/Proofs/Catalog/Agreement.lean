import ImageCatalog.Proofs.Catalog.Serving
import ImageCatalog.Proofs.Catalog.Totality

/-!
# The two kinds of backend agree

What a source reads of a stored catalog does not depend on the kind of backend that serves it. A
static index and a repository both show the catalog, and a source over a backend that shows it reads
the names of the categories, their configurations and the whole catalog, each in the stored order.
-/

namespace ImageCatalog.Catalog

open Http Settings

variable {network : Network} {backend : Backend} {stored : Stored}

namespace Source

variable {source : Source}

theorem backend_of_effective {settings : Effective} (inForce : source.effective = .ok settings) :
    source.backend = .ok (backendOf settings) := by
  rw [backend, inForce]
  rfl

/-- What a source reads over a backend that shows a stored catalog. -/
theorem results_of_shows (selected : source.backend = .ok backend)
    (unloaded : source.cache.isLoaded = false) (shows : Shows network backend stored) :
    (source.listCategories network).1 = .ok stored.names ∧
      (∀ category ∈ stored.visible,
        (source.listCategory network category.name.text).1 = .ok category.configs) ∧
      (source.getAll network).result = .ok (firstOfEachName stored.configs) := by
  refine ⟨?_, fun category member => ?_, ?_⟩
  · rw [listCategories_eq, selected, ← shows.categories]
    rfl
  · rw [listCategory_eq, selected, ← offeredIn_of_shows shows member]
    rfl
  · rw [result_getAll_of_unloaded network unloaded, selected, ← offered_of_shows shows]
    rfl

/-- A stored catalog can be served as a static index and as a repository, and a source that uses the
one reads the same as a source that uses the other. -/
theorem backends_agree (stored : Stored) {index repository : Source}
    {indexSettings repositorySettings : Effective}
    (indexInForce : index.effective = .ok indexSettings)
    (usesIndex : indexSettings.usesStaticIndex = true)
    (indexUnloaded : index.cache.isLoaded = false)
    (repositoryInForce : repository.effective = .ok repositorySettings)
    (usesRepository : repositorySettings.usesStaticIndex = false)
    (repositoryUnloaded : repository.cache.isLoaded = false) {download : Name → Name → String}
    (downloads : HasDownloads repositorySettings.repositoryUrl download stored) :
    let base := indexSettings.staticUrl
    let contentsBase := repositorySettings.repositoryUrl
    let token := repositorySettings.token
    (∃ network, ServesIndex network base stored) ∧
    ((Backend.repository contentsBase token).CanAsk →
      ∃ network, ServesContents network contentsBase token download stored) ∧
    ∀ indexNetwork repositoryNetwork, ServesIndex indexNetwork base stored →
      ServesContents repositoryNetwork contentsBase token download stored →
      (index.listCategories indexNetwork).1 = .ok stored.names ∧
      (repository.listCategories repositoryNetwork).1 = .ok stored.names ∧
      (∀ category ∈ stored.visible,
        (index.listCategory indexNetwork category.name.text).1 = .ok category.configs ∧
        (repository.listCategory repositoryNetwork category.name.text).1 =
          .ok category.configs) ∧
      (index.getAll indexNetwork).result = .ok (firstOfEachName stored.configs) ∧
      (repository.getAll repositoryNetwork).result = .ok (firstOfEachName stored.configs) := by
  refine ⟨exists_servesIndex _ stored, fun asks => exists_servesContents asks downloads, ?_⟩
  intro indexNetwork repositoryNetwork servesIndex servesContents
  have indexSelected : index.backend = .ok (.staticIndex indexSettings.staticUrl) := by
    rw [backend_of_effective indexInForce, backendOf, if_pos usesIndex]
  have repositorySelected : repository.backend =
      .ok (.repository repositorySettings.repositoryUrl repositorySettings.token) := by
    rw [backend_of_effective repositoryInForce, backendOf, usesRepository]
    rfl
  have indexShows := shows_of_servesIndex servesIndex
  have repositoryShows := shows_of_servesContents servesContents
    fun category member file fileMem => downloads.ne_empty member fileMem
  rcases results_of_shows indexSelected indexUnloaded indexShows with
    ⟨indexNames, indexEach, indexWhole⟩
  rcases results_of_shows repositorySelected repositoryUnloaded repositoryShows with
    ⟨repositoryNames, repositoryEach, repositoryWhole⟩
  exact ⟨indexNames, repositoryNames,
    fun category member => ⟨indexEach category member, repositoryEach category member⟩,
    indexWhole, repositoryWhole⟩

/-- A catalog with a name that is escaped and encoded, and with a hidden category. -/
def sampleStored : Stored where
  categories :=
    [{ name := ⟨"a&b <é>", by decide, by decide, by decide, by decide +kernel⟩
       files :=
        [⟨⟨"x.api.json", by decide, by decide, by decide, by decide +kernel⟩,
            Text.Utf8.encode serviceText⟩,
          ⟨⟨"\"x\".txt", by decide, by decide, by decide, by decide +kernel⟩, []⟩]
       distinct := by decide },
      { name := ⟨".x", by decide, by decide, by decide, by decide +kernel⟩
        files :=
          [⟨⟨"y.api.json", by decide, by decide, by decide, by decide +kernel⟩,
            Text.Utf8.encode serviceText⟩]
        distinct := by decide }]
  distinct := by decide

/-- Addresses for the contents of its files. -/
def sampleDownload (category file : Name) : String :=
  "d/" ++ category.text ++ "/" ++ file.text

/-- A source of which the settings select a repository. -/
def repositorySource : Source :=
  .start (.own (.ofText "/home"))
    (.ok ⟨"", "r", false, none, .ofText "d", Settings.defaultTimeout, .ofText "s"⟩) (.inMemory [])

theorem backends_agree_sample :
    let indexSettings : Effective := ⟨"i/", "/", true, none, .ofText "d"⟩
    let repositorySettings : Effective := ⟨"/", "r/", false, none, .ofText "d"⟩
    indexSource.effective = .ok indexSettings ∧ indexSource.cache.isLoaded = false ∧
    repositorySource.effective = .ok repositorySettings ∧
    repositorySource.cache.isLoaded = false ∧
    HasDownloads "r/" sampleDownload sampleStored ∧
    sampleStored.configs.map (fun config => (config.name, config.category)) =
      [("x", "a&b <é>")] ∧
    ∃ indexNetwork repositoryNetwork, ServesIndex indexNetwork "i/" sampleStored ∧
      ServesContents repositoryNetwork "r/" none sampleDownload sampleStored ∧
      (indexSource.listCategories indexNetwork).1 = .ok ["a&b <é>"] ∧
      (repositorySource.listCategories repositoryNetwork).1 = .ok ["a&b <é>"] ∧
      (indexSource.getAll indexNetwork).result =
        (repositorySource.getAll repositoryNetwork).result := by
  intro indexSettings repositorySettings
  have indexInForce : indexSource.effective = .ok indexSettings := rfl
  have repositoryInForce : repositorySource.effective = .ok repositorySettings := rfl
  have downloads : HasDownloads "r/" sampleDownload sampleStored :=
    ⟨by decide +kernel, by decide +kernel, by decide +kernel⟩
  have names : sampleStored.names = ["a&b <é>"] := by decide +kernel
  rcases backends_agree sampleStored indexInForce rfl rfl repositoryInForce rfl rfl downloads with
    ⟨⟨indexNetwork, servesIndex⟩, someContents, agree⟩
  rcases someContents ⟨_, rfl, rfl⟩ with ⟨repositoryNetwork, servesContents⟩
  rcases agree indexNetwork repositoryNetwork servesIndex servesContents with
    ⟨indexNames, repositoryNames, _, indexWhole, repositoryWhole⟩
  rw [names] at indexNames repositoryNames
  exact ⟨indexInForce, rfl, repositoryInForce, rfl, downloads, by decide +kernel, indexNetwork,
    repositoryNetwork, servesIndex, servesContents, indexNames, repositoryNames,
    indexWhole.trans repositoryWhole.symm⟩

end Source

end ImageCatalog.Catalog
