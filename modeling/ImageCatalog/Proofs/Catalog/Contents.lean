import ImageCatalog.Catalog.Contents
import ImageCatalog.Proofs.Json.RoundTrip
import ImageCatalog.Proofs.Results

/-!
# Listings that are read back

An item of a listing in JSON says the name, the kind and, unless it is missing or null, the address
of an entry; it may say more. An array of such items is read as the row of their entries, and every
row of entries has a listing that is a JSON text.
-/

namespace ImageCatalog.Catalog

open Entries Text

/-- Whether the fields of an item give the address of an entry, if it has one. -/
def GivesAddress (fields : List (String × Value)) : Option String → Prop
  | some address => find? "download_url" fields = some (.text address)
  | none => find? "download_url" fields = none ∨ find? "download_url" fields = some .null

/-- Whether an item of a listing in JSON says an entry. -/
def IsItemOf (item : Value) (entry : Entry) : Prop :=
  ∃ fields, item = .object fields ∧ find? "name" fields = some (.text entry.name) ∧
    find? "type" fields = some (.text entry.kind.tag) ∧ GivesAddress fields entry.address

/-- Whether a body is a JSON text of a listing of some entries. -/
def IsContentsOf (body : List UInt8) (entries : List Entry) : Prop :=
  ∃ items, Json.read (Utf8.decodeLenient body) = .ok (.list items) ∧
    List.Forall₂ IsItemOf items entries

theorem ofTag?_tag (kind : EntryKind) : EntryKind.ofTag? kind.tag = some kind := by
  cases kind <;> rfl

theorem addressOf_of_givesAddress {fields : List (String × Value)} {address? : Option String}
    (gives : GivesAddress fields address?) : addressOf fields = .ok address? := by
  unfold addressOf
  cases address? with
  | some address =>
      rw [GivesAddress] at gives
      rw [gives]
  | none =>
      rcases gives with missing | null
      · rw [missing]
      · rw [null]

theorem entryOfItem?_of_isItemOf {item : Value} {entry : Entry} (isItem : IsItemOf item entry) :
    entryOfItem? item = .ok (some entry) := by
  rcases isItem with ⟨fields, rfl, named, typed, addressed⟩
  have identified : identify? fields = some (entry.kind, entry.name) := by
    simp [identify?, named, typed, Value.text?, ofTag?_tag]
  simp only [entryOfItem?, identified, addressOf_of_givesAddress addressed]
  rfl

/-- A listing is read as its entries. -/
theorem readContents_of_items {items : List Value} {entries : List Entry}
    (areItems : List.Forall₂ IsItemOf items entries) :
    readContents (.list items) = .ok entries := by
  have each : items.mapM entryOfItem? = .ok (entries.map some) := by
    rw [Results.mapM_eq_ok_iff, List.forall₂_map_right_iff]
    exact areItems.imp fun _ _ => entryOfItem?_of_isItemOf
  rw [readContents, each]
  simp [bind, Except.bind, pure, Except.pure, List.filterMap_map]

/-! ## Listings for all entries -/

/-- The item of an entry. -/
def itemOf (entry : Entry) : Value :=
  .object [("name", .text entry.name), ("type", .text entry.kind.tag),
    ("download_url", entry.address.elim .null .text)]

theorem isItemOf_itemOf (entry : Entry) : IsItemOf (itemOf entry) entry := by
  refine ⟨_, rfl, rfl, rfl, ?_⟩
  cases entry.address with
  | some address => rfl
  | none => exact .inr rfl

theorem isDocument_itemOf (entry : Entry) : (itemOf entry).IsDocument := by
  refine .object _ ?_ ?_
  · have names : (["name", "type", "download_url"] : List String).Nodup := by decide
    exact names
  · simp only [List.forall_mem_cons, List.not_mem_nil, false_imp_iff, implies_true, and_true]
    refine ⟨.text _, .text _, ?_⟩
    cases entry.address with
    | some address => exact .text address
    | none => exact .null

theorem withinLimit_itemOf (entry : Entry) : (itemOf entry).WithinLimit := by
  refine .object _ ?_
  simp only [List.forall_mem_cons, List.not_mem_nil, false_imp_iff, implies_true, and_true]
  refine ⟨.text _, .text _, ?_⟩
  cases entry.address with
  | some address => exact .text address
  | none => exact .null

/-- Every document within the limit on numbers is what some body says. -/
theorem exists_body_of_isDocument {value : Value} (document : value.IsDocument)
    (within : value.WithinLimit) : ∃ body, Json.read (Utf8.decodeLenient body) = .ok value := by
  rcases (Json.writeValue_ok_iff document .line).mpr within with ⟨chars, writes⟩
  have reads : Json.read (String.ofList chars) = .ok value := by
    refine Json.read_of_write document ?_
    rw [Json.write, writes]
    rfl
  exact ⟨Utf8.encodeChars chars, by rw [Utf8.decodeLenient_encodeChars, reads]⟩

/-- Every row of entries has a listing. -/
theorem exists_isContentsOf (entries : List Entry) : ∃ body, IsContentsOf body entries := by
  have document : (Value.list (entries.map itemOf)).IsDocument := by
    refine .list _ ?_
    rw [List.forall_mem_map]
    exact fun entry _ => isDocument_itemOf entry
  have within : (Value.list (entries.map itemOf)).WithinLimit := by
    refine .list _ ?_
    rw [List.forall_mem_map]
    exact fun entry _ => withinLimit_itemOf entry
  rcases exists_body_of_isDocument document within with ⟨body, reads⟩
  refine ⟨body, entries.map itemOf, reads, ?_⟩
  rw [List.forall₂_map_left_iff]
  exact List.forall₂_same.mpr fun entry _ => isItemOf_itemOf entry

end ImageCatalog.Catalog
