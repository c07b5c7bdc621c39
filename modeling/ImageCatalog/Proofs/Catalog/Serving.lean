import ImageCatalog.Proofs.Catalog.Stored
import ImageCatalog.Proofs.Value.Entries
import Mathlib.Data.List.Nodup

/-!
# Every stored catalog can be served

The addresses of a static index are distinct for every stored catalog: encoding keeps names apart
and writes no slash, so that an address tells the category and the file. Hence there is a network
that serves the catalog as a static index. There is one that serves it as a repository as soon as
the addresses of the contents are distinct and apart from those of the listings.
-/

namespace ImageCatalog.Catalog

open Http Text

variable {backend : Backend} {base url : String} {token : Option Value} {content : List UInt8}
  {routes : List (String × List UInt8)} {download : Name → Name → String} {stored : Stored}

/-! ## Networks -/

/-- A network that answers some addresses with a content each, and no others. -/
def answering (routes : List (String × List UInt8)) : Network := fun request =>
  match Entries.find? request.url routes with
  | some content => .answered ⟨200, [], content⟩
  | none => .answered ⟨404, [], []⟩

/-- Whether the headers of the requests to a backend can be sent. -/
def Backend.CanAsk (backend : Backend) : Prop :=
  ∃ headers, backend.headers = .ok headers ∧ headers.all isSendable = true

theorem canAsk_index (base : String) : (Backend.staticIndex base).CanAsk :=
  ⟨[], rfl, rfl⟩

theorem brings_of_find? (asks : backend.CanAsk) (found : Entries.find? url routes = some content) :
    Brings (answering routes) backend url content := by
  rcases asks with ⟨headers, given, sendable⟩
  have answered : answering routes (Query.get url headers).toRequest =
      .answered ⟨200, [], content⟩ := by
    have asked : (Query.get url headers).toRequest.url = url := rfl
    rw [answering, asked, found]
  have stays : location? ⟨200, [], content⟩ = none := rfl
  have success : isSuccess 200 = true := rfl
  have sent : (send (answering routes) (.get url headers)).1 =
      .ok (fetched url ⟨200, [], content⟩) := by
    have all : (Query.get url headers).headers.all isSendable = true := sendable
    rw [send, if_pos all, redirectLimit, follow, answered]
    simp only [stays, success, if_true]
    rfl
  refine ⟨fetched url ⟨200, [], content⟩, ?_, rfl⟩
  rw [Backend.reply, Backend.fetch, given]
  simp only [sent]
  rfl

/-- Every content has its address if the addresses are distinct. -/
theorem brings_of_mem (asks : backend.CanAsk) (distinct : (Entries.keys routes).Nodup)
    (member : (url, content) ∈ routes) : Brings (answering routes) backend url content :=
  brings_of_find? asks (Entries.find?_of_mem distinct member)

/-! ## Pages -/

/-- A page with one anchor on each line. -/
def indexPage (kind : EntryKind) (names : List Name) : String :=
  String.ofList (names.flatMap fun name => (indexAnchor kind name).chars ++ ['\n'])

theorem renders_indexPage {gap : List Char} (free : ¬anchorMark <:+: gap) (kind : EntryKind)
    (names : List Name) :
    Renders (gap ++ names.flatMap fun name => (indexAnchor kind name).chars ++ ['\n'])
      (names.map (indexAnchor kind)) := by
  induction names generalizing gap with
  | nil =>
      rw [List.flatMap_nil, List.append_nil]
      exact .text free
  | cons name rest hypothesis =>
      have lineBreak : ¬anchorMark <:+: ['\n'] := by
        intro inside
        exact absurd inside.length_le (by decide)
      rw [List.flatMap_cons, List.append_assoc]
      exact .anchor free (hypothesis lineBreak)

theorem isIndexOf_indexPage (kind : EntryKind) (names : List Name) :
    IsIndexOf (indexPage kind names) kind names := by
  have nothing : ¬anchorMark <:+: [] := by
    intro inside
    exact absurd inside.length_le (by decide)
  rw [IsIndexOf, indexPage, String.toList_ofList]
  exact renders_indexPage nothing kind names

/-! ## Addresses -/

theorem slash_not_mem_encodePath (name : Name) : '/' ∉ (Percent.encodePath name.text).toList := by
  intro member
  rcases name.mem_encodePath member with plain | percent | half
  · revert plain
    decide
  · revert percent
    decide
  · revert half
    decide

theorem encodePath_ne_empty (name : Name) : Percent.encodePath name.text ≠ "" := by
  intro empty
  refine name.ne_empty (Percent.encodePath_injective ?_)
  rw [empty]
  rfl

theorem toList_indexUrl_append (base : String) (category : Name) (rest : String) :
    (indexUrl base category ++ rest).toList = base.toList ++
      ((Percent.encodePath category.text).toList ++ '/' :: rest.toList) := by
  simp [indexUrl, String.toList_append]

/-- An address below a category of a static index tells the category. -/
theorem indexUrl_append_inj {category other : Name} {rest further : String}
    (same : indexUrl base category ++ rest = indexUrl base other ++ further) :
    category.text = other.text ∧ rest = further := by
  have chars := congrArg String.toList same
  rw [toList_indexUrl_append, toList_indexUrl_append, List.append_cancel_left_eq] at chars
  have cut := congrArg (cutAtChar '/') chars
  rw [cutAtChar_append (slash_not_mem_encodePath category),
    cutAtChar_append (slash_not_mem_encodePath other), Prod.mk.injEq, Option.some.injEq] at cut
  exact ⟨Percent.encodePath_injective (String.toList_inj.mp cut.1), String.toList_inj.mp cut.2⟩

theorem indexUrl_append_ne (base : String) (category : Name) (rest : String) :
    indexUrl base category ++ rest ≠ base := by
  intro same
  have chars := congrArg (fun text => text.toList.length) same
  simp only [toList_indexUrl_append, List.length_append, List.length_cons] at chars
  omega

/-- The addresses of a category of a static index and its files. -/
def categoryUrls (base : String) (category : StoredCategory) : List String :=
  indexUrl base category.name ::
    category.files.map fun file => documentUrl base category.name file.name

theorem exists_of_mem_categoryUrls {category : StoredCategory}
    (member : url ∈ categoryUrls base category) :
    ∃ rest, url = indexUrl base category.name ++ rest := by
  rcases List.mem_cons.mp member with rfl | inFiles
  · exact ⟨"", by rw [String.append_empty]⟩
  · rcases List.mem_map.mp inFiles with ⟨file, _, rfl⟩
    exact ⟨_, rfl⟩

theorem nodup_categoryUrls (base : String) (category : StoredCategory) :
    (categoryUrls base category).Nodup := by
  rw [categoryUrls, List.nodup_cons]
  constructor
  · intro member
    rcases List.mem_map.mp member with ⟨file, _, same⟩
    have nothing : documentUrl base category.name file.name =
        indexUrl base category.name ++ "" := by rw [same, String.append_empty]
    exact encodePath_ne_empty file.name (indexUrl_append_inj nothing).2
  · have names := category.distinct
    rw [List.Nodup, List.pairwise_map] at names ⊢
    refine names.imp fun differs same => ?_
    exact differs (Percent.encodePath_injective (indexUrl_append_inj same).2)

/-- The addresses of a static index with their contents. -/
def indexRoutes (base : String) (stored : Stored) : List (String × List UInt8) :=
  (base, Utf8.encode (indexPage .directory (stored.categories.map StoredCategory.name))) ::
    stored.categories.flatMap fun category =>
      (indexUrl base category.name,
        Utf8.encode (indexPage .file (category.files.map StoredFile.name))) ::
      category.files.map fun file => (documentUrl base category.name file.name, file.content)

/-- The addresses of a static index are distinct. -/
theorem nodup_keys_indexRoutes (base : String) (stored : Stored) :
    (Entries.keys (indexRoutes base stored)).Nodup := by
  have keys : Entries.keys (indexRoutes base stored) =
      base :: stored.categories.flatMap (categoryUrls base) := by
    simp [indexRoutes, Entries.keys, List.map_flatMap, Function.comp_def]
    rfl
  rw [keys, List.nodup_cons, List.nodup_flatMap]
  -- No address is that of the index itself, and no two categories share one.
  refine ⟨?_, fun category _ => nodup_categoryUrls base category, ?_⟩
  · intro member
    rcases List.mem_flatMap.mp member with ⟨category, _, inCategory⟩
    rcases exists_of_mem_categoryUrls inCategory with ⟨rest, same⟩
    exact indexUrl_append_ne base category.name rest same.symm
  · have names := stored.distinct
    rw [List.Nodup, List.pairwise_map] at names
    refine names.imp fun {category other} differs => ?_
    intro url inCategory inOther
    rcases exists_of_mem_categoryUrls inCategory with ⟨rest, rfl⟩
    rcases exists_of_mem_categoryUrls inOther with ⟨further, same⟩
    exact differs (indexUrl_append_inj same).1

/-- Every stored catalog is served as a static index by some network. -/
theorem exists_servesIndex (base : String) (stored : Stored) :
    ∃ network, ServesIndex network base stored := by
  have brings {url : String} {content : List UInt8}
      (member : (url, content) ∈ indexRoutes base stored) :
      Brings (answering (indexRoutes base stored)) (.staticIndex base) url content :=
    brings_of_mem (canAsk_index base) (nodup_keys_indexRoutes base stored) member
  refine ⟨answering (indexRoutes base stored), ?_, ?_, ?_⟩
  · exact ⟨_, isIndexOf_indexPage _ _, brings List.mem_cons_self⟩
  · intro category member
    refine ⟨_, isIndexOf_indexPage _ _, brings (List.mem_cons_of_mem _ ?_)⟩
    exact List.mem_flatMap.mpr ⟨category, member, List.mem_cons_self⟩
  · intro category member file fileMem
    refine brings (List.mem_cons_of_mem _ (List.mem_flatMap.mpr ⟨category, member, ?_⟩))
    exact List.mem_cons_of_mem _ (List.mem_map.mpr ⟨file, fileMem, rfl⟩)

/-- The addresses of the listings of a repository. -/
def Stored.listings (stored : Stored) (base : String) : List String :=
  base :: stored.visible.map fun category => contentsUrl base category.name

/-- The addresses of the contents in a repository. -/
def Stored.downloads (stored : Stored) (download : Name → Name → String) : List String :=
  stored.visible.flatMap fun category =>
    category.files.map fun file => download category.name file.name

/-- Whether the addresses of the contents are distinct, not empty and apart from those of the
listings. -/
structure HasDownloads (base : String) (download : Name → Name → String) (stored : Stored) :
    Prop where
  distinct : (stored.downloads download).Nodup
  nonempty : "" ∉ stored.downloads download
  apart : ∀ url ∈ stored.downloads download, url ∉ stored.listings base

theorem HasDownloads.ne_empty (downloads : HasDownloads base download stored)
    {category : StoredCategory} (member : category ∈ stored.visible) {file : StoredFile}
    (fileMem : file ∈ category.files) : download category.name file.name ≠ "" := by
  intro empty
  refine downloads.nonempty (List.mem_flatMap.mpr ⟨category, member, ?_⟩)
  exact List.mem_map.mpr ⟨file, fileMem, empty⟩

theorem nodup_listings (base : String) (stored : Stored) : (stored.listings base).Nodup := by
  have inBase {rest further : String} (same : base ++ rest = base ++ further) : rest = further := by
    have chars := congrArg String.toList same
    rw [String.toList_append, String.toList_append, List.append_cancel_left_eq] at chars
    exact String.toList_inj.mp chars
  rw [Stored.listings, List.nodup_cons]
  constructor
  · intro member
    rcases List.mem_map.mp member with ⟨category, _, same⟩
    refine encodePath_ne_empty category.name (inBase ?_)
    rw [String.append_empty]
    exact same
  · have names := stored.distinct
    rw [List.Nodup, List.pairwise_map] at names ⊢
    refine (names.sublist List.filter_sublist).imp fun differs same => ?_
    exact differs (Percent.encodePath_injective (inBase same))

/-- Every stored catalog is served as a repository by some network. -/
theorem exists_servesContents (asks : (Backend.repository base token).CanAsk)
    (downloads : HasDownloads base download stored) :
    ∃ network, ServesContents network base token download stored := by
  choose body isContents using exists_isContentsOf
  let routes : List (String × List UInt8) :=
    (base, body (stored.visible.map fun category => ⟨category.name.text, .directory, none⟩)) ::
      stored.visible.map (fun category => (contentsUrl base category.name,
        body (category.files.map fun file =>
          ⟨file.name.text, .file, some (download category.name file.name)⟩))) ++
      stored.visible.flatMap fun category =>
        category.files.map fun file => (download category.name file.name, file.content)
  have keys : Entries.keys routes = stored.listings base ++ stored.downloads download := by
    simp [routes, Entries.keys, Stored.listings, Stored.downloads, List.map_flatMap,
      Function.comp_def]
  have distinct : (Entries.keys routes).Nodup := by
    rw [keys, List.nodup_append]
    refine ⟨nodup_listings base stored, downloads.distinct, ?_⟩
    rintro url listed other downloaded rfl
    exact downloads.apart url downloaded listed
  have brings {url : String} {content : List UInt8} (member : (url, content) ∈ routes) :
      Brings (answering routes) (.repository base token) url content :=
    brings_of_mem asks distinct member
  refine ⟨answering routes, ?_, ?_, ?_⟩
  · exact ⟨_, isContents _, brings (List.mem_append_left _ List.mem_cons_self)⟩
  · intro category member
    refine ⟨_, isContents _, brings (List.mem_append_left _ (List.mem_cons_of_mem _ ?_))⟩
    exact List.mem_map.mpr ⟨category, member, rfl⟩
  · intro category member file fileMem
    refine brings (List.mem_append_right _ (List.mem_flatMap.mpr ⟨category, member, ?_⟩))
    exact List.mem_map.mpr ⟨file, fileMem, rfl⟩

end ImageCatalog.Catalog
