import ImageCatalog.Image.Extract
import ImageCatalog.Proofs.Json.Reading
import ImageCatalog.Proofs.Path.Occurrences
import Mathlib

/-!
# Links in an answer

The links in an answer that is a JSON document are the occurrences of the declared path, except for
those that count as absent, each as its text on the wire. The document is flattened on the way, but
no link is lost, doubled or moved; and since the numbers of a JSON text are within the limit, every
occurrence has a text.
-/

namespace ImageCatalog.Image

open Config ImageCatalog.Path Text

/-- Null is absent whether or not it counts as an item. -/
theorem filter_asItems (value : Value) :
    (asItems value).filter Value.isTruthy = value.toItems.filter Value.isTruthy := by
  cases value <;> rfl

theorem path?_eq_some {image : ImageDescriptor} {path : String} (declared : image.path = some path)
    (given : path ≠ "") : image.path? = some path := by
  simp [ImageDescriptor.path?, declared, given]

/-- The values that a document holds at a path. -/
theorem findLinks_eq_some {image : ImageDescriptor} {path text : String} {content : List UInt8}
    {document flat : Value} (declared : image.path? = some path)
    (decodes : Utf8.decode? content = some text) (reads : Json.read text = .ok document)
    (resolves : resolveFlat document path = .ok flat) :
    findLinks image content = some (asItems flat) := by
  simp [findLinks, decodes, reads, declared, locate, resolves, Except.toOption]

theorem mapM_stringify_ok {values : List Value} (within : ∀ value ∈ values, value.WithinLimit) :
    ∃ texts, values.mapM Value.stringify = .ok texts :=
  Results.mapM_ok fun value member => Value.stringify_ok (within value member)

/-- What a path leads to holds, once it is flattened, the occurrences of the path and nothing else,
and no lists are left among them. The references in an answer of links are the texts of those
occurrences that do not count as absent. -/
theorem extract_occurrences (document : Value) (path : String) (short : HasShortPlaces path) :
    (∃ flat, resolveFlat document path = .ok flat ∧
      flat.toItems = occurrences (parse path) document) ∧
    (∀ found ∈ occurrences (parse path) document, found.isList = false) ∧
    ∀ (image : ImageDescriptor) (headers : List (String × String)) (content : List UInt8)
      (text : String), image.contentType = .url → image.path = some path → path ≠ "" →
      Utf8.decode? content = some text → Json.read text = .ok document →
      ∃ references,
        ((occurrences (parse path) document).filter Value.isTruthy).mapM Value.stringify =
          .ok references ∧
        extract image headers content = .ok references := by
  rcases resolveFlat_ok short document with ⟨flat, resolves, items⟩
  refine ⟨⟨flat, resolves, items⟩, ?_, ?_⟩
  · rcases follow_ok short document with ⟨located, follows⟩
    intro found member
    rw [← leaves_of_follow follows] at member
    exact isList_of_mem_leaves member
  · intro image headers content text links declared given decodes reads
    have within : ∀ value ∈ (occurrences (parse path) document).filter Value.isTruthy,
        value.WithinLimit := fun value member =>
      withinLimit_of_mem_occurrences (Json.withinLimit_of_read reads) (List.mem_filter.mp member).1
    rcases mapM_stringify_ok within with ⟨references, texts⟩
    have found := findLinks_eq_some (path?_eq_some declared given) decodes reads resolves
    refine ⟨references, texts, ?_⟩
    simp only [extract, find, links, found]
    rw [filter_asItems, items, texts]

/-- Three images of a page: one with two links of which one is null, and one that is no object. -/
def gallery : Value :=
  .object [("images", .list
    [.object [("url", .text "a")], .object [("url", .list [.text "b", .null])], .int 7])]

/-- The page as it is sent. -/
def galleryText : String :=
  "\x7b\"images\": [\x7b\"url\": \"a\"\x7d, \x7b\"url\": [\"b\", null]\x7d, 7]\x7d"

theorem extract_occurrences_gallery :
    HasShortPlaces "images[*].url" ∧
    Utf8.decode? (Utf8.encode galleryText) = some galleryText ∧
    Json.read galleryText = .ok gallery ∧
    extract ⟨.url, some "images[*].url"⟩ [] (Utf8.encode galleryText) = .ok ["a", "b"] := by
  have short : HasShortPlaces "images[*].url" := by
    have steps : parse "images[*].url" = [.key "images", .index "*", .key "url"] := by decide
    simp [HasShortPlaces, steps, Step.IsShort, digitLimit]
  have decodes : Utf8.decode? (Utf8.encode galleryText) = some galleryText := by decide +kernel
  have reads : Json.read galleryText = .ok gallery := by cbv
  refine ⟨short, decodes, reads, ?_⟩
  rcases (extract_occurrences gallery "images[*].url" short).2.2 ⟨.url, some "images[*].url"⟩ []
    _ galleryText rfl rfl (by decide) decodes reads with ⟨references, texts, extracts⟩
  have printed : ((occurrences (parse "images[*].url") gallery).filter Value.isTruthy).mapM
      Value.stringify = .ok ["a", "b"] := by cbv
  rw [extracts, ← texts, printed]

end ImageCatalog.Image
