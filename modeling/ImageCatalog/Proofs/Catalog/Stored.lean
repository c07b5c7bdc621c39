import ImageCatalog.Proofs.Catalog.Contents
import ImageCatalog.Proofs.Catalog.Offer
import ImageCatalog.Proofs.Catalog.Page
import ImageCatalog.Proofs.Text.Percent

/-!
# Stored catalogs and how they are served

A stored catalog is a row of categories with their files. A static index serves it as pages, one for
the categories and one for the files of each category; a repository serves it as listings in JSON,
without the categories whose names start with a point. Either way a backend `Shows` the catalog: it
has the categories, their files and the contents of the files, each in the order in which they are
stored. The addresses of the files differ, but nothing that is read depends on them.
-/

namespace ImageCatalog.Catalog

open Http Text

/-- The name of a category or a file: a text on one line without slashes and outer blanks. -/
structure Name where
  text : String
  ne_empty : text ≠ ""
  noSlash : '/' ∉ text.toList
  oneLine : '\n' ∉ text.toList
  trimmed : strip text = text

/-- A file of a stored catalog. -/
structure StoredFile where
  name : Name
  content : List UInt8

/-- A category of a stored catalog; its files have distinct names. -/
structure StoredCategory where
  name : Name
  files : List StoredFile
  distinct : (files.map fun file => file.name.text).Nodup

/-- A stored catalog; its categories have distinct names. -/
structure Stored where
  categories : List StoredCategory
  distinct : (categories.map fun category => category.name.text).Nodup

/-- The configuration in a file of a category, if it has one. -/
def StoredFile.config? (file : StoredFile) (category : String) : Option Config := do
  let document ← (Json.read (Utf8.decodeLenient file.content)).toOption
  (Config.build document (Config.nameOfFile file.name.text) category).toOption

/-- The configurations of a category in the order of its files. -/
def StoredCategory.configs (category : StoredCategory) : List Config :=
  (category.files.filter fun file => Config.isConfigFile file.name.text).filterMap fun file =>
    file.config? category.name.text

/-- The categories that are not hidden. -/
def Stored.visible (stored : Stored) : List StoredCategory :=
  stored.categories.filter fun category => !startsWith "." category.name.text

/-- The names of the categories that are not hidden. -/
def Stored.names (stored : Stored) : List String :=
  stored.visible.map fun category => category.name.text

/-- The configurations of all categories that are not hidden. -/
def Stored.configs (stored : Stored) : List Config :=
  stored.visible.flatMap StoredCategory.configs

namespace Name

variable (name : Name)

theorem chars_ne_nil : name.text.toList ≠ [] := by
  rw [Ne, String.toList_eq_nil_iff]
  exact name.ne_empty

theorem trim_chars : trim name.text.toList = name.text.toList := by
  rw [← String.ofList_inj, ← strip, name.trimmed, String.ofList_toList]

theorem getLast?_ne_slash : name.text.toList.getLast? ≠ some '/' :=
  fun last => name.noSlash (List.mem_of_getLast? last)

theorem mem_encodePath {char : Char} (member : char ∈ (Percent.encodePath name.text).toList) :
    Percent.isUnreserved char = true ∨ char = '%' ∨ isHalf char = true := by
  rcases Percent.mem_encodePath member with plain | percent | ⟨rfl | half, inside⟩
  · exact .inl plain
  · exact .inr (.inl percent)
  · exact absurd inside name.noSlash
  · exact .inr (.inr half)

end Name

/-! ## Pages -/

/-- The class of the anchors for a kind of entry. -/
def iconClasses : EntryKind → List Char
  | .directory => "icon icon-folder".toList
  | .file => "icon icon-file".toList

theorem kindOfClasses?_iconClasses (kind : EntryKind) :
    kindOfClasses? (iconClasses kind) = some kind := by
  cases kind <;> rfl

/-- The anchor of a name in the pages of a static index. -/
def indexAnchor (kind : EntryKind) (name : Name) : WrittenAnchor where
  target := (Percent.encodePath name.text).toList
  classes := iconClasses kind
  attributes := []
  label := name.text.toList.flatMap Entity.escapeChar
  target_plain := by
    intro char member
    rcases name.mem_encodePath member with plain | rfl | half
    · constructor <;>
      · rintro rfl
        revert plain
        decide
    · decide
    · constructor <;>
      · rintro rfl
        revert half
        decide
  classes_ne_nil := by cases kind <;> decide
  classes_plain := by cases kind <;> decide
  attributes_plain := by simp
  label_ne_nil := Entity.escape_ne_nil name.chars_ne_nil
  label_plain := ⟨Entity.not_mem_escape _, Entity.newline_not_mem_escape name.oneLine⟩

/-- Whether a page lists names, all of one kind, in the form of a static index. -/
def IsIndexOf (page : String) (kind : EntryKind) (names : List Name) : Prop :=
  Renders page.toList (names.map (indexAnchor kind))

theorem readPage_of_isIndexOf {page : String} {kind : EntryKind} {names : List Name}
    (isIndex : IsIndexOf page kind names) :
    readPage page = .ok (names.map fun name => ⟨name.text, kind, none⟩) := by
  have read (name : Name) : entryOfAnchor? (indexAnchor kind name).read =
      .ok (some ⟨name.text, kind, none⟩) := by
    have found := entryOfAnchor?_escape name.chars_ne_nil name.trim_chars name.getLast?_ne_slash
      (kindOfClasses?_iconClasses kind)
    rwa [String.ofList_toList] at found
  have each : List.Forall₂ (fun anchor entry? => entryOfAnchor? anchor.read = .ok entry?)
      (names.map (indexAnchor kind)) (names.map fun name => some ⟨name.text, kind, none⟩) := by
    rw [List.forall₂_map_left_iff, List.forall₂_map_right_iff]
    exact List.forall₂_same.mpr fun name _ => read name
  rw [readPage_of_renders isIndex each]
  simp [List.filterMap_map]

/-! ## Serving -/

/-- Whether an address brings a content. -/
def Brings (network : Network) (backend : Backend) (url : String) (content : List UInt8) : Prop :=
  ∃ answer, backend.reply network url = .ok answer ∧ answer.content = content

/-- The address of a category in a static index. -/
def indexUrl (base : String) (category : Name) : String :=
  base ++ Percent.encodePath category.text ++ "/"

/-- The address of a file in a static index. -/
def documentUrl (base : String) (category file : Name) : String :=
  indexUrl base category ++ Percent.encodePath file.text

/-- The address of a category in a repository. -/
def contentsUrl (base : String) (category : Name) : String :=
  base ++ Percent.encodePath category.text

/-- Whether a network serves a stored catalog as a static index. -/
structure ServesIndex (network : Network) (base : String) (stored : Stored) : Prop where
  categories : ∃ page, IsIndexOf page .directory (stored.categories.map StoredCategory.name) ∧
    Brings network (.staticIndex base) base (Utf8.encode page)
  files : ∀ category ∈ stored.categories, ∃ page,
    IsIndexOf page .file (category.files.map StoredFile.name) ∧
      Brings network (.staticIndex base) (indexUrl base category.name) (Utf8.encode page)
  documents : ∀ category ∈ stored.categories, ∀ file ∈ category.files,
    Brings network (.staticIndex base) (documentUrl base category.name file.name) file.content

/-- Whether a network serves the visible part of a stored catalog as a repository, with addresses
for the contents of the files. -/
structure ServesContents (network : Network) (base : String) (token : Option Value)
    (download : Name → Name → String) (stored : Stored) : Prop where
  categories : ∃ body, IsContentsOf body
      (stored.visible.map fun category => ⟨category.name.text, .directory, none⟩) ∧
    Brings network (.repository base token) base body
  files : ∀ category ∈ stored.visible, ∃ body, IsContentsOf body (category.files.map fun file =>
      ⟨file.name.text, .file, some (download category.name file.name)⟩) ∧
    Brings network (.repository base token) (contentsUrl base category.name) body
  documents : ∀ category ∈ stored.visible, ∀ file ∈ category.files,
    Brings network (.repository base token) (download category.name file.name) file.content

/-- Whether a backend shows the visible part of a stored catalog: it has the categories, their files
and the contents of the files. -/
structure Shows (network : Network) (backend : Backend) (stored : Stored) : Prop where
  categories : backend.categories network = stored.names
  files : ∀ category ∈ stored.visible, ∃ address : StoredFile → String,
    backend.files network category.name.text =
        category.files.map (fun file => ⟨file.name.text, address file⟩) ∧
      ∀ file ∈ category.files, Brings network backend (address file) file.content

variable {network : Network} {backend : Backend} {base url : String} {token : Option Value}
  {download : Name → Name → String} {stored : Stored} {category : StoredCategory}

theorem readEntries_index (base : String) {answer : Fetched} {page : String} {kind : EntryKind}
    {names : List Name}
    (isIndex : IsIndexOf page kind names) (brought : answer.content = Utf8.encode page) :
    (Backend.staticIndex base).readEntries answer =
      .ok (names.map fun name => ⟨name.text, kind, none⟩) := by
  have text : answer.text = page := by
    rw [Fetched.text, brought, Utf8.encode, Utf8.decodeLenient_encodeChars, String.ofList_toList]
  rw [Backend.readEntries, text, readPage_of_isIndexOf isIndex]
  rfl

theorem readEntries_contents (base : String) (token : Option Value) {answer : Fetched}
    {entries : List Entry}
    (isContents : IsContentsOf answer.content entries) :
    (Backend.repository base token).readEntries answer = .ok entries := by
  rcases isContents with ⟨items, reads, areItems⟩
  have json : answer.json = .ok (.list items) := reads
  simp only [Backend.readEntries, json, bind, Except.bind, Results.mapError_of_ok,
    readContents_of_items areItems]

theorem categories_of_readEntries {answer : Fetched} {entries : List Entry}
    (replied : backend.reply network backend.categoriesUrl = .ok answer)
    (read : backend.readEntries answer = .ok entries) :
    backend.categories network = (entries.filter backend.isCategory).map Entry.name := by
  rw [Backend.categories, replied, Backend.readCategories]
  simp only [bind, Except.bind, read]
  rfl

theorem files_of_readEntries {answer : Fetched} {entries : List Entry} {name : String}
    (replied : backend.reply network (backend.filesUrl name) = .ok answer)
    (read : backend.readEntries answer = .ok entries) :
    backend.files network name = entries.filterMap (backend.fileOf? name) := by
  rw [Backend.files, replied, Backend.readFiles]
  simp only [bind, Except.bind, read]
  rfl

/-- A static index shows the catalog that it serves. -/
theorem shows_of_servesIndex (serves : ServesIndex network base stored) :
    Shows network (.staticIndex base) stored where
  categories := by
    rcases serves.categories with ⟨page, isIndex, answer, replied, brought⟩
    rw [categories_of_readEntries replied (readEntries_index base isIndex brought)]
    simp [Stored.names, Stored.visible, List.filter_map, Function.comp_def, Backend.isCategory]
  files := by
    intro category member
    have stocked : category ∈ stored.categories := List.mem_of_mem_filter member
    rcases serves.files category stocked with ⟨page, isIndex, answer, replied, brought⟩
    refine ⟨fun file => documentUrl base category.name file.name, ?_,
      serves.documents category stocked⟩
    rw [files_of_readEntries replied (readEntries_index base isIndex brought)]
    simp [List.filterMap_map, Function.comp_def, Backend.fileOf?, documentUrl, indexUrl,
      Backend.filesUrl]

/-- A repository shows the catalog that it serves. -/
theorem shows_of_servesContents (serves : ServesContents network base token download stored)
    (nonempty : ∀ category ∈ stored.visible, ∀ file ∈ category.files,
      download category.name file.name ≠ "") :
    Shows network (.repository base token) stored where
  categories := by
    rcases serves.categories with ⟨body, isContents, answer, replied, rfl⟩
    rw [categories_of_readEntries replied (readEntries_contents base token isContents)]
    simp [Stored.names, List.filter_map, Function.comp_def, Backend.isCategory]
  files := by
    intro category member
    rcases serves.files category member with ⟨body, isContents, answer, replied, rfl⟩
    refine ⟨fun file => download category.name file.name, ?_, serves.documents category member⟩
    rw [files_of_readEntries replied (readEntries_contents base token isContents),
      List.filterMap_map, ← List.filterMap_eq_map]
    refine List.filterMap_congr fun file fileMem => ?_
    simp [Backend.fileOf?, nonempty category member file fileMem]

/-! ## Configurations -/

/-- What is read of a file is told by its name and its content. -/
theorem config?_of_brings {file : StoredFile} {address : String}
    (brings : Brings network backend address file.content) (category : String) :
    backend.config? network category ⟨file.name.text, address⟩ = file.config? category := by
  rcases brings with ⟨answer, replied, brought⟩
  have json : answer.json = Json.read (Utf8.decodeLenient file.content) := by
    rw [Fetched.json, Fetched.text, brought]
  rw [Backend.config?, replied, File.readConfig, StoredFile.config?]
  simp only [bind, Except.bind, json]
  cases Json.read (Utf8.decodeLenient file.content) with
  | error fault => rfl
  | ok document =>
      simp only [Results.mapError_of_ok, Except.toOption, Option.bind]
      cases Config.build document (Config.nameOfFile file.name.text) category <;> rfl

/-- A backend that shows a stored catalog offers the configurations of its categories. -/
theorem offeredIn_of_shows (shows : Shows network backend stored)
    (member : category ∈ stored.visible) :
    backend.offeredIn network category.name.text = category.configs := by
  rcases shows.files category member with ⟨address, files, documents⟩
  rw [Backend.offeredIn, Backend.configFiles, files, List.filter_map, List.filterMap_map,
    StoredCategory.configs]
  refine List.filterMap_congr fun file fileMem => ?_
  exact config?_of_brings (documents file (List.mem_of_mem_filter fileMem)) category.name.text

theorem offered_of_shows (shows : Shows network backend stored) :
    backend.offered network = stored.configs := by
  rw [Backend.offered, shows.categories, Stored.names, List.flatMap_map, Stored.configs]
  exact List.flatMap_congr fun category member => offeredIn_of_shows shows member

end ImageCatalog.Catalog
