import ImageCatalog.Proofs.Catalog.Serving

/-!
# Listings that one item spoils

Each item of a listing in JSON should give what it would give alone: the entry that it says, or
nothing. So it is, unless an item has a name and a kind but an address that is no text: such an item
spoils the listing, of which nothing is read then, and a repository that answers with it shows no
category or no file. `contents_isolated_iff` says that there is no other way for an item to affect
the others.
-/

namespace ImageCatalog.Catalog

open Entries Http

/-- The entries that an item gives alone: the one that it says, or none. -/
inductive IsRowOf (item : Value) : List Entry → Prop
  | entry {entry : Entry} (isItem : IsItemOf item entry) : IsRowOf item [entry]
  | nothing (silent : ∀ entry, ¬IsItemOf item entry) : IsRowOf item []

/-- Whether an item has the name and the kind of an entry, and an address that is neither a text nor
null. -/
def Spoils (item : Value) : Prop :=
  ∃ (fields : List (String × Value)) (name : String) (kind : EntryKind) (address : Value),
    item = .object fields ∧ find? "name" fields = some (.text name) ∧
      find? "type" fields = some (.text kind.tag) ∧
      find? "download_url" fields = some address ∧ address ≠ .null ∧ ∀ text, address ≠ .text text

/-- Whether each item of a listing is read as it is alone, and the listing is read as what its items
give, in their order. -/
def ReadsEach (items : List Value) : Prop :=
  ∃ rows, List.Forall₂ (fun item row => IsRowOf item row ∧ readContents (.list [item]) = .ok row)
    items rows ∧ readContents (.list items) = .ok rows.flatten

/-! ## Single items -/

variable {item : Value} {items : List Value} {fields : List (String × Value)}

theorem tag_of_ofTag? {word : String} {kind : EntryKind}
    (known : EntryKind.ofTag? word = some kind) : kind.tag = word := by
  unfold EntryKind.ofTag? at known
  split at known <;> cases known <;> rfl

theorem identify?_eq_some_iff {kind : EntryKind} {name : String} :
    identify? fields = some (kind, name) ↔
      find? "name" fields = some (.text name) ∧ find? "type" fields = some (.text kind.tag) := by
  have textOf {value : Value} {chars : String} :
      value.text? = some chars ↔ value = .text chars := by
    cases value <;> simp [Value.text?]
  simp only [identify?, bind, Option.bind_eq_some_iff, pure, Option.some.injEq, Prod.mk.injEq]
  constructor
  · rintro ⟨tagged, typed, word, isWord, kind, known, written, named, name, isName, rfl, rfl⟩
    rw [textOf] at isWord isName
    rw [tag_of_ofTag? known, ← isWord, ← isName]
    exact ⟨named, typed⟩
  · rintro ⟨named, typed⟩
    exact ⟨_, typed, _, rfl, _, ofTag?_tag kind, _, named, _, rfl, rfl, rfl⟩

/-- What is read of an item: the entry that it says, nothing, or a fault if it spoils. -/
theorem entryOfItem?_cases (item : Value) :
    (∃ entry, IsItemOf item entry ∧ entryOfItem? item = .ok (some entry)) ∨
    (Spoils item ∧ entryOfItem? item = .error .addressNotText) ∨
    (∀ entry, ¬IsItemOf item entry) ∧ ¬Spoils item ∧ entryOfItem? item = .ok none := by
  by_cases object : ∃ fields, item = .object fields
  · rcases object with ⟨fields, rfl⟩
    cases identified : identify? fields with
    | none =>
        refine .inr (.inr ⟨?_, ?_, by simp only [entryOfItem?, identified]⟩)
        · rintro entry ⟨others, same, named, typed, _⟩
          cases same
          rw [identify?_eq_some_iff.mpr ⟨named, typed⟩] at identified
          cases identified
        · rintro ⟨others, name, kind, _, same, named, typed, _⟩
          cases same
          rw [identify?_eq_some_iff.mpr ⟨named, typed⟩] at identified
          cases identified
    | some found =>
        rcases found with ⟨kind, name⟩
        rcases identify?_eq_some_iff.mp identified with ⟨named, typed⟩
        have said {address? : Option String} (gives : GivesAddress fields address?) :
            ∃ entry, IsItemOf (.object fields) entry ∧
              entryOfItem? (.object fields) = .ok (some entry) := by
          have isItem : IsItemOf (.object fields) ⟨name, kind, address?⟩ :=
            ⟨fields, rfl, named, typed, gives⟩
          exact ⟨_, isItem, entryOfItem?_of_isItemOf isItem⟩
        have spoils {address : Value} (there : find? "download_url" fields = some address)
            (notNull : address ≠ .null) (notText : ∀ text, address ≠ .text text)
            (fails : addressOf fields = .error .addressNotText) :
            Spoils (.object fields) ∧ entryOfItem? (.object fields) = .error .addressNotText := by
          refine ⟨⟨fields, name, kind, address, rfl, named, typed, there, notNull, notText⟩, ?_⟩
          simp only [entryOfItem?, identified, fails]
          rfl
        -- The address settles the rest.
        cases there : find? "download_url" fields with
        | none =>
            have gives : GivesAddress fields none := .inl there
            exact .inl (said gives)
        | some address =>
            cases address with
            | null =>
                have gives : GivesAddress fields none := .inr there
                exact .inl (said gives)
            | text chars =>
                have gives : GivesAddress fields (some chars) := there
                exact .inl (said gives)
            | _ =>
                exact .inr <| .inl <|
                  spoils there (by simp) (by simp) (by simp only [addressOf, there])
  · have noFields : ∀ fields, item ≠ .object fields := fun fields same => object ⟨fields, same⟩
    refine .inr (.inr ⟨?_, ?_, ?_⟩)
    · rintro entry ⟨fields, same, _⟩
      exact noFields fields same
    · rintro ⟨fields, _, _, _, same, _⟩
      exact noFields fields same
    · cases item with
      | object fields => exact absurd rfl (noFields fields)
      | _ => rfl

theorem entryOfItem?_of_spoils (spoils : Spoils item) :
    entryOfItem? item = .error .addressNotText := by
  rcases entryOfItem?_cases item with ⟨entry, isItem, _⟩ | ⟨_, fails⟩ | ⟨_, sound, _⟩
  · rcases spoils with ⟨fields, name, kind, address, rfl, named, typed, there, notNull, notText⟩
    rcases isItem with ⟨others, same, _, _, gives⟩
    cases same
    cases given : entry.address with
    | some chars =>
        rw [given, GivesAddress, there, Option.some.injEq] at gives
        exact absurd gives (notText chars)
    | none =>
        rw [given, GivesAddress, there, Option.some.injEq] at gives
        rcases gives with missing | null
        · cases missing
        · exact absurd null notNull
  · exact fails
  · exact absurd spoils sound

theorem eq_addressNotText {fault : ListingFault} (fails : entryOfItem? item = .error fault) :
    fault = .addressNotText ∧ Spoils item := by
  rcases entryOfItem?_cases item with ⟨entry, _, read⟩ | ⟨spoils, spoilt⟩ | ⟨_, _, read⟩
  · rw [read] at fails
    cases fails
  · rw [spoilt] at fails
    cases fails
    exact ⟨rfl, spoils⟩
  · rw [read] at fails
    cases fails

theorem exists_isRowOf (sound : ¬Spoils item) :
    ∃ found, entryOfItem? item = .ok found ∧ IsRowOf item found.toList := by
  rcases entryOfItem?_cases item with ⟨entry, isItem, read⟩ | ⟨spoils, _⟩ | ⟨silent, _, read⟩
  · exact ⟨some entry, read, .entry isItem⟩
  · exact absurd spoils sound
  · exact ⟨none, read, .nothing silent⟩

/-! ## Whole listings -/

theorem readContents_eq {found : List (Option Entry)} (read : items.mapM entryOfItem? = .ok found) :
    readContents (.list items) = .ok (found.filterMap id) := by
  rw [readContents, read]
  rfl

theorem readContents_of_spoils (spoilt : ∃ item ∈ items, Spoils item) :
    readContents (.list items) = .error .addressNotText := by
  rcases spoilt with ⟨item, member, spoils⟩
  cases read : items.mapM entryOfItem? with
  | ok found =>
      rcases Results.mapM_ok_iff.mp ⟨found, read⟩ item member with ⟨said?, readItem⟩
      rw [entryOfItem?_of_spoils spoils] at readItem
      cases readItem
  | error fault =>
      rcases Results.mapM_error read with ⟨other, _, fails⟩
      rw [readContents, read, (eq_addressNotText fails).1]
      rfl

theorem flatten_toList {Content : Type} (found : List (Option Content)) :
    (found.map Option.toList).flatten = found.filterMap id := by
  rw [← List.flatMap_def, List.filterMap_eq_flatMap_toList]
  rfl

/-- Without an item that spoils it, a listing is read item by item. -/
theorem readsEach_of_sound (sound : ∀ item ∈ items, ¬Spoils item) : ReadsEach items := by
  have each : ∀ item ∈ items, ∃ found, entryOfItem? item = .ok found ∧ IsRowOf item found.toList :=
    fun item member => exists_isRowOf (sound item member)
  rcases Results.exists_forall₂ each with ⟨found, read⟩
  have whole : items.mapM entryOfItem? = .ok found :=
    Results.mapM_eq_ok_iff.mpr (read.imp fun _ _ both => both.1)
  refine ⟨found.map Option.toList, ?_, by rw [readContents_eq whole, flatten_toList]⟩
  rw [List.forall₂_map_right_iff]
  refine read.imp fun item said? both => ⟨both.2, ?_⟩
  have alone : [item].mapM entryOfItem? = .ok [said?] :=
    Results.mapM_eq_ok_iff.mpr (.cons both.1 .nil)
  rw [readContents_eq alone]
  cases said? <;> rfl

theorem ReadsEach.sound (reads : ReadsEach items) : ∀ item ∈ items, ¬Spoils item := by
  rcases reads with ⟨rows, _, whole⟩
  intro item member spoils
  rw [readContents_of_spoils ⟨item, member, spoils⟩] at whole
  cases whole

/-- Every entry of a listing that is read item by item is said by one of the items. -/
theorem ReadsEach.mem_iff (reads : ReadsEach items) :
    ∃ entries, readContents (.list items) = .ok entries ∧
      ∀ entry, entry ∈ entries ↔ ∃ item ∈ items, IsItemOf item entry := by
  rcases reads with ⟨rows, each, whole⟩
  refine ⟨rows.flatten, whole, fun entry => ?_⟩
  clear whole
  induction each with
  | nil => simp
  | @cons item row items rows first _ hypothesis =>
      have here : entry ∈ row ↔ IsItemOf item entry := by
        cases first.1 with
        | nothing silent => simp [silent entry]
        | @entry said isItem =>
            rw [List.mem_singleton]
            constructor
            · rintro rfl
              exact isItem
            · intro other
              have read := entryOfItem?_of_isItemOf other
              rw [entryOfItem?_of_isItemOf isItem, Except.ok.injEq, Option.some.injEq] at read
              exact read.symm
      rw [List.flatten_cons, List.mem_append, hypothesis, here]
      simp only [List.mem_cons, exists_eq_or_imp]

/-! ## Repositories -/

/-- Whether an address of a backend brings a listing of some items. -/
def BringsItems (network : Network) (backend : Backend) (url : String) (items : List Value) :
    Prop :=
  ∃ answer, backend.reply network url = .ok answer ∧ answer.json = .ok (.list items)

variable {network : Network} {base category : String} {token : Option Value}

theorem categories_of_bringsItems
    (brings : BringsItems network (.repository base token) base items) :
    (Backend.repository base token).categories network =
      (((readContents (.list items)).toOption.getD []).filter fun entry =>
        entry.kind == .directory).map Entry.name := by
  rcases brings with ⟨answer, replied, json⟩
  have isCategory : (Backend.repository base token).isCategory =
      fun entry => entry.kind == .directory := by
    funext entry
    exact Bool.and_true _
  simp only [Backend.categories, Backend.categoriesUrl, replied, Backend.readCategories, bind,
    Except.bind, Backend.readEntries, json, Results.mapError_of_ok, isCategory]
  cases readContents (.list items) <;> rfl

theorem files_of_bringsItems
    (brings : BringsItems network (.repository base token)
      ((Backend.repository base token).filesUrl category) items) :
    (Backend.repository base token).files network category =
      ((readContents (.list items)).toOption.getD []).filterMap
        ((Backend.repository base token).fileOf? category) := by
  rcases brings with ⟨answer, replied, json⟩
  simp only [Backend.files, replied, Backend.readFiles, bind, Except.bind, Backend.readEntries,
    json, Results.mapError_of_ok]
  cases readContents (.list items) <;> rfl

theorem fileOf?_eq_some_iff {entry : Entry} {file : File} :
    (Backend.repository base token).fileOf? category entry = some file ↔
      entry.kind = .file ∧ entry.name = file.name ∧ entry.address = some file.address ∧
        file.address ≠ "" := by
  rcases entry with ⟨name, kind, address?⟩
  rcases file with ⟨fileName, fileAddress⟩
  cases kind with
  | directory => simp [Backend.fileOf?]
  | file =>
      simp only [Backend.fileOf?, Option.map_eq_some_iff, Option.filter_eq_some_iff, File.mk.injEq,
        true_and]
      constructor
      · rintro ⟨address, ⟨rfl, filled⟩, rfl, rfl⟩
        exact ⟨rfl, rfl, by simpa using filled⟩
      · rintro ⟨rfl, rfl, filled⟩
        exact ⟨fileAddress, ⟨rfl, by simpa using filled⟩, rfl, rfl⟩

/-- A listing is read item by item, as if each item stood alone, exactly if none of them spoils it;
otherwise nothing is read. So a repository whose listing has no item that spoils it shows every
directory as a category and every file that has an address, and otherwise it shows nothing. -/
theorem contents_isolated_iff (items : List Value) :
    (ReadsEach items ↔ ∀ item ∈ items, ¬Spoils item) ∧
    ((∃ item ∈ items, Spoils item) →
      readContents (.list items) = .error .addressNotText) ∧
    ∀ network base token,
      let backend := Backend.repository base token
      (BringsItems network backend base items →
        ((∃ item ∈ items, Spoils item) → backend.categories network = []) ∧
        ((∀ item ∈ items, ¬Spoils item) → ∀ name, name ∈ backend.categories network ↔
          ∃ item ∈ items, ∃ entry, IsItemOf item entry ∧ entry.kind = .directory ∧
            entry.name = name)) ∧
      ∀ category, BringsItems network backend (backend.filesUrl category) items →
        ((∃ item ∈ items, Spoils item) → backend.files network category = []) ∧
        ((∀ item ∈ items, ¬Spoils item) → ∀ file, file ∈ backend.files network category ↔
          ∃ item ∈ items, ∃ entry, IsItemOf item entry ∧ entry.kind = .file ∧
            entry.name = file.name ∧ entry.address = some file.address ∧ file.address ≠ "") := by
  refine ⟨⟨ReadsEach.sound, readsEach_of_sound⟩, readContents_of_spoils, ?_⟩
  intro network base token backend
  refine ⟨fun brings => ?_, fun category brings => ?_⟩
  · rw [categories_of_bringsItems brings]
    refine ⟨fun spoilt => by rw [readContents_of_spoils spoilt]; rfl, fun sound name => ?_⟩
    rcases (readsEach_of_sound sound).mem_iff with ⟨entries, read, mem_iff⟩
    simp only [read, Except.toOption, Option.getD_some, List.mem_map, List.mem_filter, mem_iff,
      beq_iff_eq]
    constructor
    · rintro ⟨entry, ⟨⟨item, member, isItem⟩, isDirectory⟩, named⟩
      exact ⟨item, member, entry, isItem, isDirectory, named⟩
    · rintro ⟨item, member, entry, isItem, isDirectory, named⟩
      exact ⟨entry, ⟨⟨item, member, isItem⟩, isDirectory⟩, named⟩
  · rw [files_of_bringsItems brings]
    refine ⟨fun spoilt => by rw [readContents_of_spoils spoilt]; rfl, fun sound file => ?_⟩
    rcases (readsEach_of_sound sound).mem_iff with ⟨entries, read, mem_iff⟩
    simp only [read, Except.toOption, Option.getD_some, List.mem_filterMap, mem_iff,
      fileOf?_eq_some_iff]
    constructor
    · rintro ⟨entry, ⟨item, member, isItem⟩, isFile⟩
      exact ⟨item, member, entry, isItem, isFile⟩
    · rintro ⟨item, member, entry, isItem, isFile⟩
      exact ⟨entry, ⟨item, member, isItem⟩, isFile⟩

/-- Every listing within the limit on numbers is brought by some network. -/
theorem exists_bringsItems {base : String} {token : Option Value}
    (asks : (Backend.repository base token).CanAsk) (document : (Value.list items).IsDocument)
    (within : (Value.list items).WithinLimit) (url : String) :
    ∃ network, BringsItems network (.repository base token) url items := by
  rcases exists_body_of_isDocument document within with ⟨body, reads⟩
  have one : (url, body) ∈ [(url, body)] := List.mem_cons_self
  have distinct : (keys [(url, body)]).Nodup := List.nodup_singleton url
  rcases brings_of_mem asks distinct one with ⟨answer, replied, rfl⟩
  exact ⟨_, answer, replied, reads⟩

/-- The item of a directory. -/
def directoryItem : Value := itemOf ⟨"a", .directory, none⟩

/-- The item of a file whose address is a number. -/
def numberedItem : Value :=
  .object [("name", .text "b"), ("type", .text "file"), ("download_url", .int 5)]

theorem contents_isolated_directory :
    let items := [directoryItem, .null, itemOf ⟨"b", .file, some "u"⟩]
    (∀ item ∈ items, ¬Spoils item) ∧ ReadsEach items ∧
      ∃ network, BringsItems network (.repository "r/" none) "r/" items ∧
        "a" ∈ (Backend.repository "r/" none).categories network := by
  intro items
  have sound : ∀ item ∈ items, ¬Spoils item := by
    have said {entry : Entry} : ¬Spoils (itemOf entry) := by
      intro spoils
      have read := entryOfItem?_of_isItemOf (isItemOf_itemOf entry)
      rw [entryOfItem?_of_spoils spoils] at read
      cases read
    simp only [items, List.forall_mem_cons]
    exact ⟨said, nofun, said, nofun⟩
  have document : (Value.list items).IsDocument := by
    refine .list _ ?_
    simp only [items, List.forall_mem_cons]
    exact ⟨isDocument_itemOf _, .null, isDocument_itemOf _, nofun⟩
  have within : (Value.list items).WithinLimit := by
    refine .list _ ?_
    simp only [items, List.forall_mem_cons]
    exact ⟨withinLimit_itemOf _, .null, withinLimit_itemOf _, nofun⟩
  have asks : (Backend.repository "r/" none).CanAsk := ⟨_, rfl, rfl⟩
  rcases exists_bringsItems asks document within "r/" with ⟨network, brings⟩
  have isolated := contents_isolated_iff items
  refine ⟨sound, isolated.1.mpr sound, network, brings, ?_⟩
  rw [((isolated.2.2 network "r/" none).1 brings).2 sound]
  exact ⟨directoryItem, List.mem_cons_self, _, isItemOf_itemOf _, rfl, rfl⟩

/-- A directory is lost because a file of the same listing has a number for its address. -/
theorem listing_lost :
    readContents (.list [directoryItem]) = .ok [⟨"a", .directory, none⟩] ∧
      readContents (.list [directoryItem, numberedItem]) = .error .addressNotText ∧
      ¬ReadsEach [directoryItem, numberedItem] := by
  have spoils : Spoils numberedItem := ⟨_, "b", .file, .int 5, rfl, rfl, rfl, rfl, nofun, nofun⟩
  have spoilt : ∃ item ∈ [directoryItem, numberedItem], Spoils item :=
    ⟨numberedItem, by simp, spoils⟩
  refine ⟨rfl, readContents_of_spoils spoilt, fun reads => ?_⟩
  exact reads.sound numberedItem (by simp) spoils

end ImageCatalog.Catalog
