import ImageCatalog.Proofs.Text.Percent
import ImageCatalog.Text.Form

/-!
# Reading queries back

Encoding leaves only unreserved characters, plus signs and percent signs, so that the separators of
a query never stand inside a name or a text. Hence a query is cut exactly where it was joined, and
undoing the encoding of the parts gives the entries back.
-/

namespace ImageCatalog.Text

namespace Form

open Percent

/-! ## Names and texts -/

/-- A plus sign read as a space. -/
def plusAsSpace (char : Char) : Char :=
  if char = '+' then ' ' else char

theorem plusAsSpace_of_ne {char : Char} (other : char ≠ '+') : plusAsSpace char = char :=
  if_neg other

/-- What encoding writes: unreserved characters, and the two marks. -/
theorem mem_encodeChar {char source : Char} (member : char ∈ encodeChar source) :
    isUnreserved char = true ∨ char = '+' ∨ char = '%' := by
  unfold encodeChar at member
  split at member
  · exact .inr (.inl (List.mem_singleton.mp member))
  · unfold Percent.encodeChar at member
    split at member
    · next kept =>
        rw [List.mem_singleton] at member
        exact .inl (member ▸ kept)
    · rcases List.mem_flatMap.mp member with ⟨value, _, inEscape⟩
      exact (mem_escapeByte inEscape).imp_right .inr

theorem not_mem_encodeChars {separator : Char} (reserved : isUnreserved separator = false)
    (notPlus : separator ≠ '+') (notPercent : separator ≠ '%') (chars : List Char) :
    separator ∉ encodeChars chars := by
  intro member
  rcases List.mem_flatMap.mp member with ⟨source, _, inSource⟩
  rcases mem_encodeChar inSource with kept | plus | percent
  · simp [reserved] at kept
  · exact notPlus plus
  · exact notPercent percent

theorem map_plusAsSpace_escapes (bytes : List UInt8) :
    (bytes.flatMap escapeByte).map plusAsSpace = bytes.flatMap escapeByte := by
  have fixed : ∀ char ∈ bytes.flatMap escapeByte, plusAsSpace char = char := by
    intro char member
    rcases List.mem_flatMap.mp member with ⟨value, _, inEscape⟩
    apply plusAsSpace_of_ne
    rintro rfl
    rcases mem_escapeByte inEscape with kept | percent
    · exact absurd kept (by decide)
    · exact absurd percent (by decide)
  rw [List.map_congr_left fixed, List.map_id']

/-- Undoing the encoding of one character gives its bytes. -/
theorem decodeBytes_encodeChar (char : Char) (rest : List Char) :
    decodeBytes ((encodeChar char).map plusAsSpace ++ rest) =
      Utf8.encodeChar char ++ decodeBytes rest := by
  unfold encodeChar
  split
  · next space =>
      rw [space]
      exact decodeBytes_cons_of_ne (by decide) rest
  · unfold Percent.encodeChar
    split
    · next kept =>
        have notPlus : char ≠ '+' := by
          rintro rfl
          exact absurd kept (by decide)
        have notPercent : char ≠ '%' := by
          rintro rfl
          exact absurd kept (by decide)
        rw [List.map_singleton, plusAsSpace_of_ne notPlus]
        exact decodeBytes_cons_of_ne notPercent rest
    · rw [map_plusAsSpace_escapes, decodeBytes_flatMap_escapeByte]

theorem decodeBytes_encodeChars (chars : List Char) :
    decodeBytes ((encodeChars chars).map plusAsSpace) = Utf8.encodeChars chars := by
  induction chars with
  | nil => rfl
  | cons char rest hypothesis =>
      rw [encodeChars, List.flatMap_cons, List.map_append, decodeBytes_encodeChar]
      exact congrArg (Utf8.encodeChar char ++ ·) hypothesis

theorem decodeChars_encodeChars (chars : List Char) :
    decodeChars (encodeChars chars) = String.ofList chars := by
  have bytes := decodeBytes_encodeChars chars
  rw [decodeChars, ← Utf8.decodeLenient_encodeChars, ← bytes]
  rfl

/-- A character that is no mark of the encoding is read as itself. -/
theorem decodeChars_cons {char : Char} (notPlus : char ≠ '+') (notPercent : char ≠ '%')
    (chars : List Char) :
    decodeChars (char :: chars) = String.ofList (char :: (decodeChars chars).toList) := by
  simp only [decodeChars, List.map_cons, if_neg notPlus, Utf8.decodeLenient,
    decodeBytes_cons_of_ne notPercent, Utf8.scanFrom_encodeChar, String.toList_ofList]
  rfl

/-! ## Entries and queries -/

theorem decodeEntry_encodeEntry (entry : String × String) :
    decodeEntry (encodeEntry entry) = entry := by
  have absent : '=' ∉ encodeChars entry.1.toList :=
    not_mem_encodeChars (by decide) (by decide) (by decide) _
  rw [decodeEntry, encodeEntry, cutAtChar_append absent]
  simp only [Option.getD_some, decodeChars_encodeChars, String.ofList_toList]

theorem not_mem_encodeEntry {separator : Char} (reserved : isUnreserved separator = false)
    (notPlus : separator ≠ '+') (notPercent : separator ≠ '%') (notEquals : separator ≠ '=')
    (entry : String × String) : separator ∉ encodeEntry entry := by
  rw [encodeEntry, List.mem_append, List.mem_cons, not_or, not_or]
  exact ⟨not_mem_encodeChars reserved notPlus notPercent _, notEquals,
    not_mem_encodeChars reserved notPlus notPercent _⟩

/-- Neither of the marks that structure an address stands in a query. -/
theorem not_mem_encode {separator : Char} (reserved : isUnreserved separator = false)
    (notPlus : separator ≠ '+') (notPercent : separator ≠ '%') (notEquals : separator ≠ '=')
    (notAmpersand : separator ≠ '&') (entries : List (String × String)) :
    separator ∉ (encode entries).toList := by
  rw [encode, String.toList_ofList]
  intro member
  rcases mem_joinChars member with joint | ⟨piece, pieceMem, inPiece⟩
  · exact notAmpersand (List.mem_singleton.mp joint)
  · rcases List.mem_map.mp pieceMem with ⟨entry, _, rfl⟩
    exact not_mem_encodeEntry reserved notPlus notPercent notEquals entry inPiece

theorem splitAtChar_encode {entries : List (String × String)} (some : entries ≠ []) :
    splitAtChar '&' (encode entries).toList = entries.map encodeEntry := by
  cases entries with
  | nil => contradiction
  | cons entry rest =>
      have absent : ∀ piece ∈ (entry :: rest).map encodeEntry, '&' ∉ piece := by
        intro piece member
        rcases List.mem_map.mp member with ⟨source, _, rfl⟩
        exact not_mem_encodeEntry (by decide) (by decide) (by decide) (by decide) source
      rw [encode, String.toList_ofList, List.map_cons]
      exact splitAtChar_joinChars absent

/-- Reading a query gives back the entries that it was written from. -/
theorem decode_encode {entries : List (String × String)} (some : entries ≠ []) :
    decode (encode entries) = entries := by
  rw [decode, splitAtChar_encode some, List.map_map]
  have each : decodeEntry ∘ encodeEntry = id := funext decodeEntry_encodeEntry
  rw [each, List.map_id]

end Form

end ImageCatalog.Text
