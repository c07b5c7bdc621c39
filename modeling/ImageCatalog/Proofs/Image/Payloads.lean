import ImageCatalog.Proofs.Image.Usable
import ImageCatalog.Proofs.Text.Utf8

/-!
# Images in base64

An answer can hold images as base64 texts: a row of them at a path in a document, or a single one
that is the whole answer, with blanks around it. Each becomes a reference behind a fixed media type
that neither a semicolon nor a comma ends too early, so that the bytes behind the references are the
images, in their order.
-/

namespace ImageCatalog.Image

open Config ImageCatalog.Path Results Text

variable {content : List UInt8} {images : List (List UInt8)} {path : Option String}

/-- An answer holds images in base64, at a path or without one. -/
inductive Carries : Option String → List UInt8 → List (List UInt8) → Prop
  | located {path text : String} {document : Value} {content : List UInt8}
      {images : List (List UInt8)} (given : path ≠ "") (decodes : Utf8.decode? content = some text)
      (reads : Json.read text = .ok document)
      (resolves : resolveFlat document path = .ok (.list ((images.map Base64.encode).map .text))) :
      Carries (some path) content images
  | whole {path : Option String} {text : String} {content bytes : List UInt8}
      {before after : List Char} (absent : path = none ∨ path = some "")
      (decodes : Utf8.decode? content = some text)
      (surrounded : text.toList = before ++ (Base64.encode bytes).toList ++ after)
      (leading : ∀ char ∈ before, isBlank char = true)
      (trailing : ∀ char ∈ after, isBlank char = true) :
      Carries path content [bytes]

/-- The reference to an image that is sent in base64. -/
def payloadReference (bytes : List UInt8) : String :=
  dataReference "image/png" (Base64.encode bytes)

/-! ## Base64 texts -/

theorem strip_of_surrounded {bytes : List UInt8} {text : String} {before after : List Char}
    (surrounded : text.toList = before ++ (Base64.encode bytes).toList ++ after)
    (leading : ∀ char ∈ before, isBlank char = true)
    (trailing : ∀ char ∈ after, isBlank char = true) : strip text = Base64.encode bytes := by
  have solid : ∀ char ∈ (Base64.encode bytes).toList, isBlank char = false := by
    intro char member
    rw [Base64.encode, String.toList_ofList] at member
    exact (Base64.isDigitOrPadding_of_mem member).isBlank_eq_false
  rw [strip, trim, surrounded, trimBy_surrounded solid leading trailing, String.ofList_toList]

/-! ## Rows of texts -/

theorem filter_texts {texts : List String} (filled : ∀ text ∈ texts, text ≠ "") :
    (texts.map Value.text).filter Value.isTruthy = texts.map .text := by
  rw [List.filter_eq_self, List.forall_mem_map]
  intro text member
  simpa [Value.isTruthy] using filled text member

theorem labelPayloads_texts {texts : List String} (filled : ∀ text ∈ texts, text ≠ "") :
    labelPayloads (texts.map .text) =
      some ((texts.map (dataReference "image/png")).map .text) := by
  have labelled : texts.mapM (labelPayload ∘ Value.text) =
      .ok (texts.map fun text => .text (dataReference "image/png" text)) :=
    mapM_of_forall_ok fun _ _ => rfl
  rw [labelPayloads_eq, filter_texts filled, List.mapM_map, labelled, List.map_map]
  rfl

theorem extract_of_find {image : ImageDescriptor} {headers : List (String × String)}
    {references : List String} (found : find image headers content = some (references.map .text))
    (filled : ∀ reference ∈ references, reference ≠ "") :
    extract image headers content = .ok references := by
  have spelt : references.mapM (Value.stringify ∘ Value.text) = .ok (references.map id) :=
    mapM_of_forall_ok fun _ _ => rfl
  simp only [extract, found]
  rw [filter_texts filled, List.mapM_map, spelt, List.map_id]

/-! ## Images -/

/-- The images in an answer get a reference each, in their order. -/
theorem extract_of_carries (carries : Carries path content images)
    (filled : ∀ bytes ∈ images, bytes ≠ []) (headers : List (String × String)) :
    extract ⟨.base64, path⟩ headers content = .ok (images.map payloadReference) := by
  have texts : ∀ text ∈ images.map Base64.encode, text ≠ "" :=
    List.forall_mem_map.mpr fun bytes member => Base64.encode_ne_empty (filled bytes member)
  have wrapped : (images.map Base64.encode).map (dataReference "image/png") =
      images.map payloadReference := List.map_map
  have labelled : labelPayloads ((images.map Base64.encode).map .text) =
      some ((images.map payloadReference).map .text) := by
    rw [labelPayloads_texts texts, wrapped]
  apply extract_of_find
  · rw [find, ← labelled]
    cases carries with
    | @located path text document _ _ given decodes reads resolves =>
        have declared : (⟨.base64, some path⟩ : ImageDescriptor).path? = some path :=
          path?_eq_some rfl given
        simp [findPayloads, decodes, declared, reads, locate, resolves, Except.toOption, asItems]
    | @whole _ text _ bytes _ _ absent decodes surrounded leading trailing =>
        have declared : (⟨.base64, path⟩ : ImageDescriptor).path? = none := by
          rcases absent with rfl | rfl <;> rfl
        simp [findPayloads, decodes, declared, strip_of_surrounded surrounded leading trailing]
  · rw [List.forall_mem_map]
    intro bytes member
    exact dataReference_ne_empty _ _

theorem decode_payloadReference (bytes : List UInt8) :
    decode (payloadReference bytes) = .ok bytes :=
  decode_dataReference bytes (by decide) (by decide)

/-- The images in an answer are what the references stand for, one by one and in their order,
whether the references are decoded or fetched, for which no request is made. -/
theorem extract_payloads (carries : Carries path content images)
    (filled : ∀ bytes ∈ images, bytes ≠ []) (headers : List (String × String)) :
    ∃ references, extract ⟨.base64, path⟩ headers content = .ok references ∧
      references.map decode = images.map .ok ∧
      ∀ network, references.map (fetch network) = images.map fun bytes => (.ok bytes, []) := by
  refine ⟨_, extract_of_carries carries filled headers, ?_, fun network => ?_⟩
  · rw [List.map_map]
    exact List.map_congr_left fun bytes _ => decode_payloadReference bytes
  · rw [List.map_map]
    apply List.map_congr_left
    intro bytes _
    have fetched := fetch_dataReference network "image/png" (Base64.encode bytes)
    rw [← payloadReference, decode_payloadReference] at fetched
    exact fetched

/-- Two images of a page, as it is sent. -/
def pairText : String :=
  "\x7b\"images\": [\"aGk=\", \"/w==\"]\x7d"

/-- An image alone, between a blank and a line end. -/
def loneText : String :=
  " aGk=\n"

theorem extract_payloads_pair :
    Carries (some "images[*]") (Utf8.encode pairText) [[0x68, 0x69], [0xFF]] ∧
    Carries none (Utf8.encode loneText) [[0x68, 0x69]] ∧
    (∃ references,
      extract ⟨.base64, some "images[*]"⟩ [] (Utf8.encode pairText) = .ok references ∧
        references.map decode = [.ok [0x68, 0x69], .ok [0xFF]]) ∧
    ∃ references, extract ⟨.base64, none⟩ [] (Utf8.encode loneText) = .ok references ∧
      references.map decode = [.ok [0x68, 0x69]] := by
  have reads : Json.read pairText =
      .ok (.object [("images", .list [.text "aGk=", .text "/w=="])]) := by cbv
  have pair : Carries (some "images[*]") (Utf8.encode pairText) [[0x68, 0x69], [0xFF]] :=
    .located (by decide) (Utf8.decode?_encode pairText) reads (by cbv)
  have surrounded : loneText.toList = [' '] ++ (Base64.encode [0x68, 0x69]).toList ++ ['\n'] := by
    decide
  have lone : Carries none (Utf8.encode loneText) [[0x68, 0x69]] :=
    .whole (.inl rfl) (Utf8.decode?_encode loneText) surrounded
      (by simp [isBlank, isUnicodeSpace]) (by simp [isBlank, isUnicodeSpace])
  rcases extract_payloads pair (by decide) [] with ⟨references, extracts, decodes, _⟩
  rcases extract_payloads lone (by decide) [] with ⟨reference, extractsLone, decodesLone, _⟩
  exact ⟨pair, lone, ⟨references, extracts, decodes⟩, reference, extractsLone, decodesLone⟩

end ImageCatalog.Image
