import ImageCatalog.Proofs.Image.Binary
import ImageCatalog.Proofs.Image.Links
import ImageCatalog.Proofs.Value.Filled

/-!
# Usable references

Every answer yields a row of references, be it empty. What cannot be read is given up before the
references are written out, and by then nothing is left that could not be written: the values come
from a text, so that their whole numbers are within the limit, and those that would be written as
nothing are left out as absent.
-/

namespace ImageCatalog.Image

open Config ImageCatalog.Path Results Text

variable {image : ImageDescriptor} {headers : List (String × String)} {content : List UInt8}
  {values : List Value} {value : Value}

/-! ## Values of an answer -/

theorem mem_toItems_of_mem_asItems {source : Value} (member : value ∈ asItems source) :
    value ∈ source.toItems := by
  cases source with
  | null => cases member
  | _ => exact member

theorem withinLimit_of_mem_toItems (within : value.WithinLimit) :
    ∀ item ∈ value.toItems, item.WithinLimit := by
  cases value with
  | list items => exact within.item
  | _ => simpa [Value.toItems] using within

theorem withinLimit_of_locate {document : Value} {path : Option String}
    (within : document.WithinLimit) (located : locate document path = some values) :
    ∀ value ∈ values, value.WithinLimit := by
  intro value member
  cases path with
  | none =>
      cases located
      exact withinLimit_of_mem_toItems within value (mem_toItems_of_mem_asItems member)
  | some path =>
      rcases Option.map_eq_some_iff.mp located with ⟨flat, resolves, rfl⟩
      rcases map_ok (eq_ok_of_toOption resolves) with ⟨found, follows, rfl⟩
      have occurs := mem_toItems_of_mem_asItems member
      rw [toItems_flatten, leaves_of_follow follows] at occurs
      exact withinLimit_of_mem_occurrences within occurs

theorem withinLimit_of_findLinks (found : findLinks image content = some values) :
    ∀ value ∈ values, value.WithinLimit := by
  rcases Option.bind_eq_some_iff.mp found with ⟨text, _, further⟩
  split at further
  · next document reads => exact withinLimit_of_locate (Json.withinLimit_of_read reads) further
  · cases further
    intro value member
    rcases List.mem_map.mp member with ⟨link, _, rfl⟩
    exact .text link
  · cases further

/-- The reference for a value that is taken for a base64 text. -/
def labelPayload (payload : Value) : Except DigitOverflow Value :=
  payload.print.map fun text => .text (dataReference "image/png" text)

theorem labelPayloads_eq (payloads : List Value) :
    labelPayloads payloads = ((payloads.filter Value.isTruthy).mapM labelPayload).toOption := by
  simp only [labelPayloads, toOption_mapM, labelPayload, toOption_map]

theorem isData_of_labelPayloads {payloads : List Value}
    (labelled : labelPayloads payloads = some values) :
    ∀ value ∈ values, ∃ media payload, value = .text (dataReference media payload) := by
  intro value member
  rw [labelPayloads_eq] at labelled
  rcases exists_of_mem_mapM (eq_ok_of_toOption labelled) member with ⟨payload, _, made⟩
  rcases map_ok made with ⟨text, _, rfl⟩
  exact ⟨_, text, rfl⟩

/-- An answer that holds the images themselves has only references with the images in them. -/
theorem isData_of_find (embedded : image.contentType ≠ .url)
    (found : find image headers content = some values) :
    ∀ value ∈ values, ∃ media payload, value = .text (dataReference media payload) := by
  unfold find at found
  split at found
  · next isUrl => exact absurd isUrl embedded
  · rcases Option.bind_eq_some_iff.mp found with ⟨text, _, further⟩
    split at further
    · exact isData_of_labelPayloads further
    · rcases Option.bind_eq_some_iff.mp further with ⟨document, _, located⟩
      rcases Option.bind_eq_some_iff.mp located with ⟨payloads, _, labelled⟩
      exact isData_of_labelPayloads labelled
  · cases found
    intro value member
    exact ⟨_, _, List.mem_singleton.mp member⟩

theorem withinLimit_of_find (found : find image headers content = some values) :
    ∀ value ∈ values, value.WithinLimit := by
  by_cases links : image.contentType = .url
  · rw [find, links] at found
    exact withinLimit_of_findLinks found
  · -- A reference is a text, whatever was put into it.
    intro value member
    rcases isData_of_find links found value member with ⟨media, payload, rfl⟩
    exact .text _

/-! ## References -/

theorem extract_ok (image : ImageDescriptor) (headers : List (String × String))
    (content : List UInt8) : ∃ references, extract image headers content = .ok references := by
  unfold extract
  split
  · exact ⟨[], rfl⟩
  · next values found =>
      apply mapM_stringify_ok
      intro value member
      exact withinLimit_of_find found value (List.mem_filter.mp member).1

/-- Every reference is the text of a value of the answer that counts as present. -/
theorem exists_of_mem_extract {references : List String}
    (extracts : extract image headers content = .ok references) {reference : String}
    (member : reference ∈ references) :
    ∃ values value, find image headers content = some values ∧ value ∈ values ∧
      value.isTruthy = true ∧ value.stringify = .ok reference := by
  unfold extract at extracts
  split at extracts
  · cases extracts
    cases member
  · next values found =>
      rcases exists_of_mem_mapM extracts member with ⟨value, kept, spelt⟩
      rcases List.mem_filter.mp kept with ⟨valueMem, truthy⟩
      exact ⟨values, value, found, valueMem, truthy, spelt⟩

/-- Every answer yields references, and none of them is empty. Where the answer holds the images
themselves, all of them are `data:` references, and an answer that is an image yields exactly one.
-/
theorem extract_usable (image : ImageDescriptor) (headers : List (String × String))
    (content : List UInt8) :
    ∃ references, extract image headers content = .ok references ∧
      (∀ reference ∈ references, reference ≠ "") ∧
      (image.contentType ≠ .url →
        ∀ reference ∈ references, startsWith "data:" reference = true) ∧
      (image.contentType = .binary → references.length = 1) := by
  rcases extract_ok image headers content with ⟨references, extracts⟩
  refine ⟨references, extracts, ?_, ?_, ?_⟩
  · intro reference member
    rcases exists_of_mem_extract extracts member with ⟨_, value, _, _, truthy, spelt⟩
    exact Value.stringify_ne_empty truthy spelt
  · intro embedded reference member
    rcases exists_of_mem_extract extracts member with ⟨values, value, found, valueMem, _, spelt⟩
    rcases isData_of_find embedded found value valueMem with ⟨media, payload, rfl⟩
    cases spelt
    exact startsWith_dataReference media payload
  · intro binary
    obtain ⟨contentType, path⟩ := image
    subst binary
    rw [extract_binary] at extracts
    cases extracts
    rfl

end ImageCatalog.Image
