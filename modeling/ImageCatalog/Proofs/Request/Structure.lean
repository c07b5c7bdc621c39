import ImageCatalog.Proofs.Request.Sent
import ImageCatalog.Proofs.Text.Form
import Mathlib.Algebra.Ring.Nat

/-!
# The structure of an address

The address of a request has a path, and it may have a query and a fragment. Its named values are
encoded, so that they stay in the query; but the positional values are put into the path as they
are, and the address of the service may have a query or a fragment of its own, behind which
everything else is put. `build_keepsStructure_iff` says for which services and values the parts of
the address are still those that were meant: those of the address of the service, with a segment for
every positional value and an entry for every name.

What decides the case of a positional value with a question mark is a matter of lengths. Undoing
escapes makes nothing longer, so that a path that is cut off at the question mark has too few
characters for all segments.
-/

namespace ImageCatalog.PreparedRequest

open Config Text

/-- An address in parts: the path with all that stands before it, the query and the fragment. -/
structure Parts where
  path : List Char
  query : Option (List Char)
  fragment : Option (List Char)

/-- The parts of an address: the fragment follows the first number sign, and the query follows the
first question mark before it. -/
def partsOf (url : List Char) : Parts :=
  let (front, fragment) := cutAtChar '#' url
  let (path, query) := cutAtChar '?' front
  ⟨path, query, fragment⟩

/-- The entries of a query, where empty ones do not count. -/
def entriesOf : Option (List Char) → List (String × String)
  | none => []
  | some query => ((splitAtChar '&' query).filter fun piece => !piece.isEmpty).map Form.decodeEntry

/-- The segment of a path holds a text. -/
def Holds (piece : List Char) (text : String) : Prop :=
  '/' ∉ piece ∧ Percent.decode (String.ofList piece) = text

/-- The parts of an address are those of the address of a service, with one more segment of the path
for every given text and one more entry of the query for every name. -/
structure KeepsStructure (link : String) (segments : List String)
    (entries : List (String × String)) (url : String) : Prop where
  path : ∃ pieces, List.Forall₂ Holds pieces segments ∧
    (partsOf url.toList).path =
      (partsOf (bareLink link).toList).path ++ pieces.flatMap fun piece => '/' :: piece
  query : entriesOf (partsOf url.toList).query =
    entriesOf (partsOf (bareLink link).toList).query ++ Entries.onePerKey entries
  fragment : (partsOf url.toList).fragment = (partsOf (bareLink link).toList).fragment

/-- The segments of some texts, with the slashes before them. -/
def segmentPart (segments : List String) : List Char :=
  segments.flatMap fun segment => '/' :: segment.toList

/-- The text has neither a mark that structures addresses nor an escape in it. -/
structure IsPlain (text : String) : Prop where
  slash : '/' ∉ text.toList
  question : '?' ∉ text.toList
  hash : '#' ∉ text.toList
  unescaped : Percent.decode text = text

/-! ## Parts -/

variable {path query base tail : List Char}

theorem partsOf_path (noQuestion : '?' ∉ path) (noHash : '#' ∉ path) :
    partsOf path = ⟨path, none, none⟩ := by
  simp only [partsOf, cutAtChar_of_not_mem noHash, cutAtChar_of_not_mem noQuestion]

theorem partsOf_query (noQuestion : '?' ∉ path) (noHash : '#' ∉ path ++ '?' :: query) :
    partsOf (path ++ '?' :: query) = ⟨path, some query, none⟩ := by
  simp only [partsOf, cutAtChar_of_not_mem noHash, cutAtChar_append noQuestion]

/-- Behind a fragment everything belongs to it. -/
theorem eq_nil_of_fragment (hash : '#' ∈ base)
    (kept : (partsOf (base ++ tail)).fragment = (partsOf base).fragment) : tail = [] := by
  rcases List.eq_append_cons_of_mem hash with ⟨before, after, rfl, absent⟩
  simp only [partsOf, List.append_assoc, List.cons_append, cutAtChar_append absent,
    Option.some.injEq] at kept
  exact List.append_right_eq_self.mp kept

theorem not_mem_of_fragment (noHash : '#' ∉ base)
    (kept : (partsOf (base ++ tail)).fragment = (partsOf base).fragment) :
    '#' ∉ base ++ tail := by
  apply cutAtChar_snd_eq_none_iff.mp
  have none := cutAtChar_snd_eq_none_iff.mpr noHash
  exact kept.trans none

/-! ## Entries behind a query -/

theorem decodeEntry_pieces (entries : List (String × String)) :
    ((entries.map Form.encodeEntry).filter fun piece => !piece.isEmpty).map Form.decodeEntry =
      entries := by
  have kept : ∀ piece ∈ entries.map Form.encodeEntry, (!piece.isEmpty) = true := by
    intro piece member
    rcases List.mem_map.mp member with ⟨entry, _, rfl⟩
    simp [Form.encodeEntry]
  have each : Form.decodeEntry ∘ Form.encodeEntry = id := funext Form.decodeEntry_encodeEntry
  rw [List.filter_eq_self.mpr kept, List.map_map, each, List.map_id]

theorem entriesOf_encode {entries : List (String × String)} (some : entries ≠ []) :
    entriesOf (.some (Form.encode entries).toList) = entries := by
  rw [entriesOf, Form.splitAtChar_encode some, decodeEntry_pieces]

/-- A question mark in front of an entry becomes a part of its name. -/
theorem decodeEntry_question (entry : String × String) :
    Form.decodeEntry ('?' :: Form.encodeEntry entry) ≠ entry := by
  have absent : '=' ∉ '?' :: Form.encodeChars entry.1.toList := by
    rw [List.mem_cons, not_or]
    exact ⟨by decide, Form.not_mem_encodeChars (by decide) (by decide) (by decide) _⟩
  intro same
  have names := congrArg (fun entry => entry.1.length) same
  rw [Form.encodeEntry, ← List.cons_append, Form.decodeEntry, cutAtChar_append absent] at names
  simp only [Form.decodeChars_cons (show '?' ≠ '+' by decide) (show '?' ≠ '%' by decide),
    Form.decodeChars_encodeChars, String.length_ofList, List.length_cons, String.toList_ofList,
    String.length_toList] at names
  omega

/-- Entries that are put behind a query with a second question mark are not the entries that follow
it. -/
theorem entriesOf_append_ne {entries : List (String × String)} (some : entries ≠ []) :
    entriesOf (.some (query ++ '?' :: (Form.encode entries).toList)) ≠
      entriesOf (.some query) ++ entries := by
  rcases splitAtChar_append_eq '&' query with ⟨pieces, last, cut, appended⟩
  cases entries with
  | nil => contradiction
  | cons entry rest =>
      have front : splitAtChar '&' ('?' :: (Form.encode (entry :: rest)).toList) =
          ('?' :: Form.encodeEntry entry) :: rest.map Form.encodeEntry := by
        simp [splitAtChar, Form.splitAtChar_encode some, consPiece]
      have later := decodeEntry_pieces rest
      intro same
      simp only [entriesOf, cut, appended _ _ _ front, List.filter_append, List.map_append,
        List.append_assoc, List.append_cancel_left_eq] at same
      by_cases nothing : last = []
      · subst nothing
        simp only [List.nil_append, List.filter_cons, List.isEmpty_cons, Bool.not_false, if_true,
          List.map_cons, later, List.isEmpty_nil, Bool.not_true, Bool.false_eq_true, if_false,
          List.filter_nil, List.map_nil, List.cons.injEq] at same
        exact decodeEntry_question entry same.1
      · have lengths := congrArg List.length same
        have kept : (last ++ '?' :: Form.encodeEntry entry).isEmpty = false := by simp
        have lastKept : last.isEmpty = false := List.isEmpty_eq_false_iff.mpr nothing
        simp only [List.filter_cons, kept, lastKept, Bool.not_false, if_true, List.map_cons, later,
          List.filter_nil, List.map_nil, List.singleton_append, List.length_cons] at lengths
        omega

/-! ## Segments of a path -/

/-- Segments that hold some texts are not shorter than these. -/
theorem length_flatMap_le {pieces : List (List Char)} {segments : List String}
    (hold : List.Forall₂ Holds pieces segments) :
    (segmentPart segments).length ≤
      (pieces.flatMap fun piece => '/' :: piece).length := by
  induction hold with
  | nil => exact Nat.le_refl _
  | @cons piece segment pieces segments holds _ hypothesis =>
      have shorter := Percent.length_decode_le (String.ofList piece)
      rw [holds.2, String.length_ofList, ← String.length_toList] at shorter
      simp only [segmentPart, List.flatMap_cons, List.length_append, List.length_cons]
        at hypothesis ⊢
      omega

/-- Segments that hold some texts and spell the same path as these are the texts themselves. -/
theorem eq_map_of_flatMap_eq {pieces : List (List Char)} {segments : List String}
    (hold : List.Forall₂ Holds pieces segments)
    (same : (pieces.flatMap fun piece => '/' :: piece) = segmentPart segments) :
    pieces = segments.map String.toList := by
  induction hold with
  | nil => rfl
  | @cons piece segment pieces segments holds others hypothesis =>
      have shorter := Percent.length_decode_le (String.ofList piece)
      have onward := length_flatMap_le others
      have lengths := congrArg List.length same
      rw [holds.2, String.length_ofList, ← String.length_toList] at shorter
      simp only [segmentPart, List.flatMap_cons, List.length_append, List.length_cons]
        at onward lengths
      simp only [segmentPart, List.flatMap_cons, List.cons_append, List.cons.injEq, true_and]
        at same
      rcases List.append_inj same (by omega) with ⟨first, rest⟩
      rw [List.map_cons, first, hypothesis rest]

theorem isPlain_of_holds {segments : List String}
    (hold : List.Forall₂ Holds (segments.map String.toList) segments)
    (noQuestion : '?' ∉ segmentPart segments)
    (noHash : '#' ∉ segmentPart segments) :
    ∀ segment ∈ segments, IsPlain segment := by
  intro segment member
  have each := (List.forall₂_map_left_iff.mp hold)
  have holds : Holds segment.toList segment := List.forall₂_same.mp each segment member
  have inPath {char : Char} (found : char ∈ segment.toList) :
      char ∈ segmentPart segments :=
    List.mem_flatMap.mpr ⟨segment, member, List.mem_cons_of_mem _ found⟩
  have unescaped := holds.2
  rw [String.ofList_toList] at unescaped
  exact ⟨holds.1, mt inPath noQuestion, mt inPath noHash, unescaped⟩

/-! ## Addresses -/

theorem not_mem_queryPart_hash (entries : List (String × String)) : '#' ∉ queryPart entries := by
  unfold queryPart
  split
  · exact List.not_mem_nil
  · rw [List.mem_cons, not_or]
    exact ⟨by decide,
      Form.not_mem_encode (by decide) (by decide) (by decide) (by decide) (by decide) _⟩

/-- A path without marks ends where the query of the named values starts. -/
theorem partsOf_append_queryPart (noQuestion : '?' ∉ path) (noHash : '#' ∉ path)
    (entries : List (String × String)) :
    ∃ query, partsOf (path ++ queryPart entries) = ⟨path, query, none⟩ ∧
      entriesOf query = Entries.onePerKey entries := by
  by_cases empty : entries = []
  · refine ⟨none, ?_, ?_⟩
    · rw [queryPart, if_pos empty, List.append_nil, partsOf_path noQuestion noHash]
    · rw [empty]
      rfl
  · have kept := mt (Entries.onePerKey_eq_nil_iff entries).mp empty
    refine ⟨some (Form.encode (Entries.onePerKey entries)).toList, ?_, entriesOf_encode kept⟩
    have absent : '#' ∉ path ++ queryPart entries := by
      rw [List.mem_append, not_or]
      exact ⟨noHash, not_mem_queryPart_hash entries⟩
    rw [queryPart, if_neg empty] at absent ⊢
    exact partsOf_query noQuestion absent

variable {link url : String} {segments : List String} {entries : List (String × String)}

theorem address_eq : address link segments = (bareLink link).toList ++ segmentPart segments :=
  rfl

/-- Plain texts keep the structure of an address without a query and a fragment. -/
theorem keepsStructure_of_isPlain
    (spelt : url.toList = address link segments ++ queryPart entries)
    (noQuestion : '?' ∉ (bareLink link).toList) (noHash : '#' ∉ (bareLink link).toList)
    (plain : ∀ segment ∈ segments, IsPlain segment) :
    KeepsStructure link segments entries url := by
  have absent {char : Char} (noSlash : char ≠ '/') (inLink : char ∉ (bareLink link).toList)
      (inTexts : ∀ segment ∈ segments, char ∉ segment.toList) : char ∉ address link segments := by
    rw [address_eq, List.mem_append, not_or]
    refine ⟨inLink, fun member => ?_⟩
    rcases List.mem_flatMap.mp member with ⟨segment, segmentMem, inSegment⟩
    rcases List.mem_cons.mp inSegment with slash | inText
    · exact noSlash slash
    · exact inTexts segment segmentMem inText
  rcases partsOf_append_queryPart
    (absent (by decide) noQuestion fun segment member => (plain segment member).question)
    (absent (by decide) noHash fun segment member => (plain segment member).hash) entries
    with ⟨query, parts, read⟩
  have own := partsOf_path noQuestion noHash
  refine ⟨⟨segments.map String.toList, ?_, ?_⟩, ?_, ?_⟩
  · rw [List.forall₂_map_left_iff, List.forall₂_same]
    intro segment member
    refine ⟨(plain segment member).slash, ?_⟩
    rw [String.ofList_toList, (plain segment member).unescaped]
  · rw [spelt, parts, own, List.flatMap_map]
    rfl
  · rw [spelt, parts, own]
    exact read
  · rw [spelt, parts, own]

/-- A service whose own address has a query keeps nothing that is put behind it. -/
theorem not_keepsStructure_of_question
    (spelt : url.toList = address link segments ++ queryPart entries)
    (noHash : '#' ∉ url.toList) (question : '?' ∈ (bareLink link).toList)
    (given : ¬(segments = [] ∧ entries = [])) : ¬KeepsStructure link segments entries url := by
  intro keeps
  rcases List.eq_append_cons_of_mem question with ⟨before, after, base, absent⟩
  rw [spelt, address_eq, base, List.append_assoc, List.append_assoc, List.cons_append] at noHash
  have noHashBase : '#' ∉ before ++ '?' :: after := by
    rw [← List.cons_append, ← List.append_assoc] at noHash
    exact fun member => noHash (List.mem_append_left _ member)
  have own := partsOf_query absent noHashBase
  have whole := partsOf_query absent noHash
  rcases keeps.path with ⟨pieces, hold, path⟩
  have query := keeps.query
  rw [spelt, address_eq, base, List.append_assoc, List.append_assoc, List.cons_append] at path query
  rw [whole, own] at path query
  have noPieces : pieces = [] := by
    cases pieces with
    | nil => rfl
    | cons piece others => simp at path
  subst noPieces
  cases hold
  have some : entries ≠ [] := fun empty => given ⟨rfl, empty⟩
  have kept := mt (Entries.onePerKey_eq_nil_iff entries).mp some
  rw [segmentPart, List.flatMap_nil, List.nil_append, queryPart, if_neg some] at query
  exact entriesOf_append_ne kept query

/-- The path of an address that keeps its structure is not cut off by a positional value. -/
theorem question_not_mem_of_keepsStructure
    (spelt : url.toList = address link segments ++ queryPart entries)
    (noHash : '#' ∉ url.toList) (noQuestion : '?' ∉ (bareLink link).toList)
    (keeps : KeepsStructure link segments entries url) : '?' ∉ segmentPart segments := by
  intro question
  rcases List.eq_append_cons_of_mem question with ⟨before, after, segmentsEq, absent⟩
  have front : '?' ∉ (bareLink link).toList ++ before := by
    rw [List.mem_append, not_or]
    exact ⟨noQuestion, absent⟩
  have split : url.toList =
      ((bareLink link).toList ++ before) ++ '?' :: (after ++ queryPart entries) := by
    simp [spelt, address_eq, segmentsEq]
  rw [split] at noHash
  have noHashBase : '#' ∉ (bareLink link).toList := fun member =>
    noHash (List.mem_append_left _ (List.mem_append_left _ member))
  rcases keeps.path with ⟨pieces, hold, path⟩
  rw [split, partsOf_query front noHash, partsOf_path noQuestion noHashBase] at path
  -- The path is too short for all segments.
  have lengths := length_flatMap_le hold
  rw [← List.append_cancel_left path, segmentsEq, List.length_append, List.length_cons] at lengths
  omega

/-- What keeps the structure of an address that has no query and no fragment of its own is plain. -/
theorem isPlain_of_keepsStructure
    (spelt : url.toList = address link segments ++ queryPart entries)
    (noHash : '#' ∉ url.toList) (noQuestion : '?' ∉ (bareLink link).toList)
    (keeps : KeepsStructure link segments entries url) :
    ∀ segment ∈ segments, IsPlain segment := by
  have noMark := question_not_mem_of_keepsStructure spelt noHash noQuestion keeps
  rw [spelt, List.mem_append, not_or] at noHash
  have noHashEach := noHash.1
  rw [address_eq, List.mem_append, not_or] at noHashEach
  have front : '?' ∉ address link segments := by
    rw [address_eq, List.mem_append, not_or]
    exact ⟨noQuestion, noMark⟩
  rcases partsOf_append_queryPart front noHash.1 entries with ⟨query, parts, _⟩
  rcases keeps.path with ⟨pieces, hold, path⟩
  rw [spelt, parts, partsOf_path noQuestion noHashEach.1, address_eq] at path
  have texts := eq_map_of_flatMap_eq hold (List.append_cancel_left path).symm
  rw [texts] at hold
  exact isPlain_of_holds hold noMark noHashEach.2

/-- An address that keeps its structure has no fragment, unless nothing is sent. -/
theorem hash_not_mem_of_keepsStructure
    (spelt : url.toList = address link segments ++ queryPart entries)
    (given : ¬(segments = [] ∧ entries = [])) (keeps : KeepsStructure link segments entries url) :
    '#' ∉ (bareLink link).toList ∧ '#' ∉ url.toList := by
  have behind : url.toList =
      (bareLink link).toList ++ (segmentPart segments ++ queryPart entries) := by
    rw [spelt, address_eq, List.append_assoc]
  have fragment := keeps.fragment
  rw [behind] at fragment ⊢
  have noHash : '#' ∉ (bareLink link).toList := by
    intro hash
    have nothing := List.append_eq_nil_iff.mp (eq_nil_of_fragment hash fragment)
    refine given ⟨?_, ?_⟩
    · cases segments with
      | nil => rfl
      | cons segment others => cases nothing.1
    · by_contra some
      rw [queryPart, if_neg some] at nothing
      cases nothing.2
  exact ⟨noHash, not_mem_of_fragment noHash fragment⟩

theorem keepsStructure_of_nothing (same : url.toList = (bareLink link).toList) :
    KeepsStructure link [] [] url := by
  refine ⟨⟨[], .nil, ?_⟩, ?_, ?_⟩
  · rw [same]
    exact (List.append_nil _).symm
  · rw [same]
    exact (List.append_nil _).symm
  · rw [same]

theorem keepsStructure_iff (spelt : url.toList = address link segments ++ queryPart entries) :
    KeepsStructure link segments entries url ↔
      segments = [] ∧ entries = [] ∨
      '?' ∉ (bareLink link).toList ∧ '#' ∉ (bareLink link).toList ∧
        ∀ segment ∈ segments, IsPlain segment := by
  constructor
  · intro keeps
    rcases Classical.em (segments = [] ∧ entries = []) with nothing | given
    · exact .inl nothing
    · rcases hash_not_mem_of_keepsStructure spelt given keeps with ⟨noHash, noHashUrl⟩
      have noQuestion : '?' ∉ (bareLink link).toList := fun question =>
        not_keepsStructure_of_question spelt noHashUrl question given keeps
      exact .inr
        ⟨noQuestion, noHash, isPlain_of_keepsStructure spelt noHashUrl noQuestion keeps⟩
  · rintro (⟨rfl, rfl⟩ | ⟨noQuestion, noHash, plain⟩)
    · refine keepsStructure_of_nothing ?_
      rw [spelt]
      simp [address, queryPart]
    · exact keepsStructure_of_isPlain spelt noQuestion noHash plain

/-! ## Question marks -/

theorem count_segmentPart (segments : List String) :
    (segmentPart segments).count '?' =
      (segments.map fun segment => segment.toList.count '?').sum := by
  induction segments with
  | nil => rfl
  | cons segment others hypothesis =>
      rw [List.map_cons, List.sum_cons, ← hypothesis]
      simp [segmentPart]

theorem count_queryPart (entries : List (String × String)) :
    (queryPart entries).count '?' = if entries = [] then 0 else 1 := by
  unfold queryPart
  split
  · rfl
  · have absent : '?' ∉ (Form.encode (Entries.onePerKey entries)).toList :=
      Form.not_mem_encode (by decide) (by decide) (by decide) (by decide) (by decide) _
    rw [List.count_cons_self, List.count_eq_zero_of_not_mem absent]

/-- A service at the given address, with one positional parameter and a named one. -/
def pictureService (link : String) : Description :=
  { title := "", intro := "", icon := none, link := link, verb := "get"
    parameters := [⟨none, "", true, .text none⟩, ⟨some "q", "", true, .text none⟩]
    image := ⟨.url, none⟩ }

end ImageCatalog.PreparedRequest
