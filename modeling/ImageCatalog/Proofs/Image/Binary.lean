import ImageCatalog.Image.Download
import ImageCatalog.Image.Extract
import ImageCatalog.Proofs.Text.Base64
import ImageCatalog.Proofs.Text.Percent
import ImageCatalog.Proofs.Text.Surrogate
import Mathlib.Data.List.TakeWhile

/-!
# Binary answers

An answer that is an image itself becomes a reference that holds its bytes in base64, behind the
media type that the server declares. Reading such a reference looks for the end of the media type,
which is a semicolon or a comma. The parameters behind the first semicolon are cut off when the
reference is made, but a comma is not, and where there is one, what follows it is taken for a
percent-encoded payload: the image is then replaced by a longer row of bytes, without a fault unless
there is a half among what follows.
-/

namespace ImageCatalog.Image

open Http Text

/-- The media type that headers declare, as it stands before the first semicolon. -/
def declaredMedia (headers : List (String × String)) : List Char :=
  ((header? "content-type" headers).getD "").toList.takeWhile (· != ';')

/-! ## The media type of a reference -/

theorem mem_mediaType_iff {char : Char} (solid : isBlank char = false)
    (foreign : char ∉ "image/jpeg".toList) (headers : List (String × String)) :
    char ∈ (mediaType headers).toList ↔ char ∈ declaredMedia headers := by
  have trimmed : char ∈ trim (declaredMedia headers) ↔ char ∈ declaredMedia headers :=
    mem_trimBy_iff solid _
  have same : (mediaType headers).toList =
      if (trim (declaredMedia headers)).isEmpty then "image/jpeg".toList
      else trim (declaredMedia headers) := by
    unfold mediaType declaredMedia
    simp only
    split <;> simp
  rw [same, ← trimmed]
  split
  · next empty =>
      rw [List.isEmpty_iff.mp empty]
      exact iff_of_false foreign List.not_mem_nil
  · rfl

theorem semicolon_not_mem_mediaType (headers : List (String × String)) :
    ';' ∉ (mediaType headers).toList := by
  rw [mem_mediaType_iff (by decide) (by decide)]
  intro member
  simpa using List.mem_takeWhile_imp member

/-! ## Reading references -/

theorem toList_dataReference (media payload : String) :
    (dataReference media payload).toList =
      "data:".toList ++ (media.toList ++ ';' :: ("base64,".toList ++ payload.toList)) := by
  simp [dataReference, String.toList_append]

theorem startsWith_dataReference (media payload : String) :
    startsWith "data:" (dataReference media payload) = true :=
  List.isPrefixOf_iff_prefix.mpr ⟨_, (toList_dataReference media payload).symm⟩

theorem dataReference_ne_empty (media payload : String) : dataReference media payload ≠ "" := by
  rw [ne_eq, ← String.toList_eq_nil_iff, toList_dataReference]
  exact List.cons_ne_nil _ _

/-- The media type of a reference goes up to the first character that ends it. -/
theorem read?_eq {reference : String} {media rest : List Char} {mark : Char}
    (split : reference.toList = "data:".toList ++ (media ++ mark :: rest))
    (free : ∀ char ∈ media, endsMedia char = false) (ends : endsMedia mark = true) :
    DataReference.read? reference =
      (readPayload? (mark :: rest)).map fun (isBase64, payload) => ⟨media, isBase64, payload⟩ := by
  have isFree : ∀ char ∈ media, (!endsMedia char) = true := fun char member => by
    simp [free char member]
  have body : reference.toList.drop 5 = media ++ mark :: rest := by
    rw [split]
    rfl
  have isData : "data:".toList.isPrefixOf reference.toList = true :=
    List.isPrefixOf_iff_prefix.mpr ⟨_, split.symm⟩
  rw [DataReference.read?]
  simp only [isData, if_true, body, List.takeWhile_append_of_pos isFree,
    List.dropWhile_append_of_pos isFree, List.takeWhile_cons, List.dropWhile_cons, ends,
    Bool.not_true, Bool.false_eq_true, if_false, List.append_nil]

/-- A media type without a comma ends where the base64 payload is announced. -/
theorem decode_dataReference {media : String} (content : List UInt8)
    (semicolon : ';' ∉ media.toList) (comma : ',' ∉ media.toList) :
    decode (dataReference media (Base64.encode content)) = .ok content := by
  have free : ∀ char ∈ media.toList, endsMedia char = false := by
    intro char member
    simp only [endsMedia, Bool.or_eq_false_iff, beq_eq_false_iff_ne]
    exact ⟨fun same => semicolon (same ▸ member), fun same => comma (same ▸ member)⟩
  have read := read?_eq (toList_dataReference media (Base64.encode content)) free rfl
  rw [decode, read]
  simp [readPayload?, Base64.decode_encode, Except.mapError]

/-- The announcement of a base64 text and the text itself. -/
def announced (content : List UInt8) : List Char :=
  ';' :: ("base64,".toList ++ Base64.encodeBytes content)

theorem toNat_lt_of_mem_announced {content : List UInt8} {char : Char}
    (member : char ∈ announced content) : char.toNat < 0x80 := by
  have mark : ("base64,".toList.all fun char => decide (char.toNat < 0x80)) = true := by decide
  rcases List.mem_cons.mp member with rfl | inside
  · decide
  · rcases List.mem_append.mp inside with front | digit
    · exact of_decide_eq_true (List.all_eq_true.mp mark char front)
    · exact (Base64.isDigitOrPadding_of_mem digit).toNat_lt

theorem percent_not_mem_announced (content : List UInt8) : '%' ∉ announced content := by
  rw [announced, List.mem_cons, List.mem_append, not_or, not_or]
  exact ⟨by decide, by decide, fun member => (Base64.isDigitOrPadding_of_mem member).ne_percent rfl⟩

/-- A half in front of an announced text is not in the announced text. -/
theorem mem_of_isHalf {front : List Char} {content : List UInt8} {char : Char}
    (member : char ∈ front ++ announced content) (half : isHalf char = true) : char ∈ front := by
  refine (List.mem_append.mp member).resolve_right fun behind => ?_
  rw [isHalf_of_ascii (toNat_lt_of_mem_announced behind)] at half
  cases half

/-- Undoing escapes leaves an announced text at the end as it is. -/
theorem exists_toList_decode_announced (front : List Char) (content : List UInt8) :
    ∃ undone, (Percent.decode (String.ofList (front ++ announced content))).toList =
      undone ++ announced content := by
  rcases Utf8.decodeLenient_append_encodeChars (Percent.decodeBytes front) (announced content) with
    ⟨undone, decoded⟩
  refine ⟨undone, ?_⟩
  rw [Percent.decode, String.toList_ofList, announced, Percent.decodeBytes_append (by decide),
    ← announced, Percent.decodeBytes_of_not_mem (percent_not_mem_announced content), decoded]

/-- A media type with a comma is taken to end there, and what follows is undone as if it were
percent-encoded, unless there is a half in it: all of the base64 text is still there afterwards. -/
theorem decode_dataReference_comma {media : String} (content : List UInt8)
    (semicolon : ';' ∉ media.toList) (comma : ',' ∈ media.toList) :
    ∃ found, content.length < found.length ∧
      (decode (dataReference media (Base64.encode content)) = .ok found ∨
        decode (dataReference media (Base64.encode content)) = .error .unencodable ∧
          ∃ char ∈ media.toList, isHalf char = true) := by
  rcases List.eq_append_cons_of_mem comma with ⟨before, after, split, first⟩
  have free : ∀ char ∈ before, endsMedia char = false := by
    intro char member
    simp only [endsMedia, Bool.or_eq_false_iff, beq_eq_false_iff_ne]
    refine ⟨fun same => semicolon ?_, fun same => first (same ▸ member)⟩
    rw [split]
    exact List.mem_append_left _ (same ▸ member)
  have whole : (dataReference media (Base64.encode content)).toList =
      "data:".toList ++ (before ++ ',' :: (after ++ announced content)) := by
    rw [toList_dataReference, split, List.append_assoc, List.cons_append, Base64.encode,
      String.toList_ofList (l := Base64.encodeBytes content), announced]
  let payload := String.ofList (after ++ announced content)
  rcases exists_toList_decode_announced after content with ⟨front, undone⟩
  have decodes : decode (dataReference media (Base64.encode content)) =
      if isWhole payload then .ok (Utf8.encode (Percent.decode payload))
      else .error .unencodable := by
    rw [decode, read?_eq whole free rfl]
    rfl
  refine ⟨Utf8.encode (Percent.decode payload), ?_, ?_⟩
  · have kept := Utf8.length_le_encodeChars (front ++ announced content)
    have room := Base64.length_encodeBytes content
    rw [Utf8.encode, undone]
    rw [announced, List.length_append, List.length_cons, List.length_append] at kept
    rw [announced]
    omega
  · rw [decodes]
    split
    · exact .inl rfl
    · next half =>
        simp only [isWhole, payload, String.toList_ofList, List.all_eq_true, Bool.not_eq_true',
          not_forall, Bool.not_eq_false] at half
        rcases half with ⟨char, member, isHalf⟩
        refine .inr ⟨rfl, char, ?_, isHalf⟩
        rw [split]
        exact List.mem_append_right _ (List.mem_cons_of_mem _ (mem_of_isHalf member isHalf))

/-! ## Binary answers -/

theorem extract_binary (path : Option String) (headers : List (String × String))
    (content : List UInt8) :
    extract ⟨.binary, path⟩ headers content =
      .ok [dataReference (mediaType headers) (Base64.encode content)] := by
  have filled : (dataReference (mediaType headers) (Base64.encode content)).isEmpty = false := by
    rw [← Bool.not_eq_true, String.isEmpty_iff]
    exact dataReference_ne_empty _ _
  simp only [extract, find, findBinary, List.filter_cons, List.filter_nil, Value.isTruthy, filled,
    Bool.not_false, if_true]
  rfl

/-- The bytes behind a `data:` reference come from the reference itself. -/
theorem fetch_dataReference (network : Network) (media payload : String) :
    fetch network (dataReference media payload) =
      ((decode (dataReference media payload)).mapError .decode, []) := by
  rw [fetch, if_pos (startsWith_dataReference media payload)]

/-- An image in an answer becomes one reference. The bytes behind that reference need no request.
They are the image exactly if the declared media type has no comma, and there are some in any case
if it has no half. -/
theorem extract_fetch_binary (path : Option String) (headers : List (String × String))
    (content : List UInt8) :
    ∃ reference, extract ⟨.binary, path⟩ headers content = .ok [reference] ∧
      (∀ network, fetch network reference = ((decode reference).mapError .decode, [])) ∧
      (decode reference = .ok content ↔ ',' ∉ declaredMedia headers) ∧
      ((∀ char ∈ declaredMedia headers, isHalf char = false) →
        ∃ found, decode reference = .ok found) := by
  have semicolon := semicolon_not_mem_mediaType headers
  have same : ',' ∈ (mediaType headers).toList ↔ ',' ∈ declaredMedia headers :=
    mem_mediaType_iff (by decide) (by decide) headers
  refine ⟨_, extract_binary path headers content,
    fun network => fetch_dataReference network _ _, ?_⟩
  by_cases comma : ',' ∈ (mediaType headers).toList
  · rcases decode_dataReference_comma content semicolon comma with
      ⟨found, longer, decoded | ⟨undecoded, char, member, half⟩⟩
    · refine ⟨iff_of_false ?_ (not_not_intro (same.mp comma)), fun _ => ⟨found, decoded⟩⟩
      rw [decoded, Except.ok.injEq]
      exact fun kept => absurd longer (kept ▸ Nat.lt_irrefl _)
    · refine ⟨iff_of_false (by rw [undecoded]; nofun) (not_not_intro (same.mp comma)), ?_⟩
      intro whole
      have solid : isBlank char = false := by
        by_contra blank
        rw [isHalf_of_isBlank (by simpa using blank)] at half
        cases half
      have foreign : char ∉ "image/jpeg".toList := by
        intro usual
        have whole : isWhole "image/jpeg" = true := by decide
        rw [isHalf_of_isWhole whole usual] at half
        cases half
      rw [whole char ((mem_mediaType_iff solid foreign headers).mp member)] at half
      cases half
  · have decoded := decode_dataReference content semicolon comma
    exact ⟨iff_of_true decoded (mt same.mpr comma), fun _ => ⟨content, decoded⟩⟩

/-- A media type from repeated headers: the payload is found behind its comma. -/
theorem decode_repeated_media :
    extract ⟨.binary, none⟩ [("Content-Type", "image/png, image/jpeg")] [0x68, 0x69] =
        .ok ["data:image/png, image/jpeg;base64,aGk="] ∧
      decode "data:image/png, image/jpeg;base64,aGk=" =
        .ok (Utf8.encode " image/jpeg;base64,aGk=") ∧
      Utf8.encode " image/jpeg;base64,aGk=" ≠ [0x68, 0x69] := by
  decide +kernel

end ImageCatalog.Image
