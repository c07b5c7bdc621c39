import ImageCatalog.Proofs.Value.Entries
import ImageCatalog.Proofs.Value.Rendering
import ImageCatalog.Request.Build

/-!
# What a request sends

The values of a map that belong to parameters and are not null are sent, the positional ones as
segments of the path and the named ones as entries of the query. `Sends` relates a configuration and
its values to the texts of both. `queryUrl_eq_ok_iff` says what the address of a request is in these
terms, and when there is one: the entries that make up the query must have no half in them.
-/

namespace ImageCatalog.PreparedRequest

open Config Results Text

/-- The text of a value on the wire: that of a single value, or those of the members of a row with a
separator between them. -/
inductive Spells (separator : String) (value : Value) : String → Prop where
  | single {text : String} (alone : members? value = none) (spelt : value.stringify = .ok text) :
      Spells separator value text
  | row {members : List Value} {texts : List String} (several : members? value = some members)
      (spelt : List.Forall₂ (fun member text => member.stringify = .ok text) members texts) :
      Spells separator value (joinText separator texts)

/-- The parameters of a row that have a value other than null, with these values, in order. -/
def given (values : ValueMap) (rows : List (Nat × Parameter)) : List (Parameter × Value) :=
  rows.filterMap fun (index, parameter) =>
    (values.present? index).map fun value => (parameter, value)

/-- The values among them that are sent by their position. -/
def positionalGiven (values : ValueMap) (rows : List (Nat × Parameter)) : List Value :=
  ((given values rows).filter fun entry => entry.1.isPositional).map Prod.snd

/-- The values among them that are sent under a name, with the name and the parameter. -/
def namedGiven (values : ValueMap) (rows : List (Nat × Parameter)) :
    List (String × Parameter × Value) :=
  (given values rows).filterMap fun entry => entry.1.sentName?.map fun name => (name, entry)

/-- What is sent for a named value: its name, and its text with the separator of the parameter. -/
def Names (sent : String × Parameter × Value) (entry : String × String) : Prop :=
  entry.1 = sent.1 ∧ Spells (separatorOf sent.2.1) sent.2.2 entry.2

/-- The texts of the values that a request sends: a segment for every positional value and an entry
for every named one, in declared order. -/
structure Sends (description : Description) (values : ValueMap) (segments : List String)
    (entries : List (String × String)) : Prop where
  positional : List.Forall₂ (Spells ",") (positionalGiven values (numbered description)) segments
  named : List.Forall₂ Names (namedGiven values (numbered description)) entries

/-- Whether the query of some entries can be percent-encoded: of each name it is the last text that
is sent. -/
def AreWhole (entries : List (String × String)) : Prop :=
  ∀ entry ∈ Entries.onePerKey entries, isWholeEntry entry = true

/-- An address continued by segments of the path. -/
def address (link : String) (segments : List String) : List Char :=
  (bareLink link).toList ++ segments.flatMap fun segment => '/' :: segment.toList

/-- The query of some entries with its mark, if there are any. -/
def queryPart (entries : List (String × String)) : List Char :=
  if entries = [] then [] else '?' :: (Form.encode (Entries.onePerKey entries)).toList

/-! ## Texts on the wire -/

theorem wireText_eq_ok_iff {separator : String} {value : Value} {text : String} :
    wireText separator value = .ok text ↔ Spells separator value text := by
  unfold wireText
  constructor
  · intro written
    split at written
    · next members several =>
        rcases bind_ok written with ⟨texts, spelt, joined⟩
        cases joined
        exact .row several (mapM_eq_ok_iff.mp spelt)
    · next alone => exact .single alone written
  · rintro (⟨alone, spelt⟩ | ⟨several, spelt⟩)
    · rw [alone]
      exact spelt
    · rw [several]
      simp only [mapM_eq_ok_iff.mpr spelt]
      rfl

theorem withinLimit_of_spells {separator : String} {value : Value} {text : String}
    (spells : Spells separator value text) : value.WithinLimit := by
  cases spells with
  | single alone spelt => exact Value.stringify_ok_iff.mp ⟨text, spelt⟩
  | @row members texts several spelt =>
      have each : ∀ member ∈ members, member.WithinLimit := by
        intro member memberMem
        rcases mapM_ok_iff.mp ⟨texts, mapM_eq_ok_iff.mpr spelt⟩ member memberMem with ⟨text, found⟩
        exact Value.stringify_ok_iff.mp ⟨text, found⟩
      cases value with
      | list _ =>
          cases several
          exact .list members each
      | pair first second =>
          cases several
          exact .pair first second (each first (by simp)) (each second (by simp))
      | _ => cases several

/-- A value has a text on the wire, with whatever separator, exactly if it is within the limit. -/
theorem spells_ok_iff {separator : String} {value : Value} :
    (∃ text, Spells separator value text) ↔ value.WithinLimit := by
  refine ⟨fun ⟨text, spells⟩ => withinLimit_of_spells spells, fun within => ?_⟩
  rcases members : members? value with _ | row
  · rcases Value.stringify_ok within with ⟨text, spelt⟩
    exact ⟨text, .single members spelt⟩
  · have each : ∀ member ∈ row, ∃ text, member.stringify = .ok text := by
      intro member memberMem
      apply Value.stringify_ok
      cases within with
      | list items within =>
          cases members
          exact within member memberMem
      | pair first second left right =>
          cases members
          rcases List.mem_pair.mp memberMem with rfl | rfl
          · exact left
          · exact right
      | _ => cases members
    rcases mapM_ok each with ⟨texts, spelt⟩
    exact ⟨_, .row members (mapM_eq_ok_iff.mp spelt)⟩

/-! ## Rows of parameters -/

variable {values : ValueMap} {index : Nat} {parameter : Parameter} {rest : List (Nat × Parameter)}

theorem given_cons_absent (absent : values.present? index = none) :
    positionalGiven values ((index, parameter) :: rest) = positionalGiven values rest ∧
      namedGiven values ((index, parameter) :: rest) = namedGiven values rest := by
  simp [positionalGiven, namedGiven, given, absent]

theorem given_cons_positional {value : Value} (present : values.present? index = some value)
    (unnamed : parameter.sentName? = none) :
    positionalGiven values ((index, parameter) :: rest) = value :: positionalGiven values rest ∧
      namedGiven values ((index, parameter) :: rest) = namedGiven values rest := by
  simp [positionalGiven, namedGiven, given, present, Parameter.isPositional, unnamed]

theorem given_cons_named {value : Value} {name : String}
    (present : values.present? index = some value) (named : parameter.sentName? = some name) :
    positionalGiven values ((index, parameter) :: rest) = positionalGiven values rest ∧
      namedGiven values ((index, parameter) :: rest) =
        (name, parameter, value) :: namedGiven values rest := by
  simp [positionalGiven, namedGiven, given, present, Parameter.isPositional, named]

/-- The segments of a request are the texts of the positional values. -/
theorem segments_eq_ok_iff {rows : List (Nat × Parameter)} {texts : List String} :
    segments values rows = .ok texts ↔
      List.Forall₂ (Spells ",") (positionalGiven values rows) texts := by
  induction rows generalizing texts with
  | nil =>
      rw [show positionalGiven values [] = [] from rfl, List.forall₂_nil_left_iff]
      exact ⟨fun written => by cases written; rfl, fun empty => by rw [empty]; rfl⟩
  | cons row rest hypothesis =>
      obtain ⟨index, parameter⟩ := row
      rcases present : values.present? index with _ | value
      · rw [(given_cons_absent present).1, ← hypothesis]
        rcases named : parameter.sentName? with _ | name <;> simp [segments, present, named]
      · rcases named : parameter.sentName? with _ | name
        · rw [(given_cons_positional present named).1]
          simp only [segments, present, named]
          constructor
          · intro written
            rcases bind_ok written with ⟨text, first, others⟩
            rcases bind_ok others with ⟨later, further, joined⟩
            cases joined
            exact .cons (wireText_eq_ok_iff.mp first) (hypothesis.mp further)
          · rintro (_ | ⟨first, later⟩)
            rw [wireText_eq_ok_iff.mpr first, hypothesis.mpr later]
            rfl
        · rw [(given_cons_named present named).1, ← hypothesis]
          simp [segments, named]

/-- The entries of a request are the names and the texts of the named values. -/
theorem namedTexts_eq_ok_iff {rows : List (Nat × Parameter)} {entries : List (String × String)} :
    namedTexts values rows = .ok entries ↔
      List.Forall₂ Names (namedGiven values rows) entries := by
  induction rows generalizing entries with
  | nil =>
      rw [show namedGiven values [] = [] from rfl, List.forall₂_nil_left_iff]
      exact ⟨fun written => by cases written; rfl, fun empty => by rw [empty]; rfl⟩
  | cons row rest hypothesis =>
      obtain ⟨index, parameter⟩ := row
      rcases present : values.present? index with _ | value
      · rw [(given_cons_absent present).2, ← hypothesis]
        rcases named : parameter.sentName? with _ | name <;> simp [namedTexts, present, named]
      · rcases named : parameter.sentName? with _ | name
        · rw [(given_cons_positional present named).2, ← hypothesis]
          simp [namedTexts, named]
        · rw [(given_cons_named present named).2]
          simp only [namedTexts, present, named]
          constructor
          · intro written
            rcases bind_ok written with ⟨text, first, others⟩
            rcases bind_ok others with ⟨later, further, joined⟩
            cases joined
            exact .cons ⟨rfl, wireText_eq_ok_iff.mp first⟩ (hypothesis.mp further)
          · rintro (_ | @⟨_, ⟨entryName, text⟩, _, later, first, onward⟩)
            obtain ⟨rfl, spelt⟩ := first
            rw [wireText_eq_ok_iff.mpr spelt, hypothesis.mpr onward]
            rfl

/-! ## The address of a request -/

theorem joinChars_slash {segments : List String} (some : segments ≠ []) :
    '/' :: joinChars ['/'] (segments.map String.toList) =
      segments.flatMap fun segment => '/' :: segment.toList := by
  induction segments with
  | nil => contradiction
  | cons segment rest hypothesis =>
      cases rest with
      | nil => simp [joinChars]
      | cons next others =>
          have onward := hypothesis (by simp)
          simp only [List.map_cons, joinChars, List.flatMap_cons, List.cons_append,
            List.append_assoc, List.nil_append] at onward ⊢
          rw [onward]

theorem toList_withSegments (link : String) (segments : List String) :
    (if segments.isEmpty then bareLink link
      else bareLink link ++ "/" ++ joinText "/" segments).toList = address link segments := by
  by_cases empty : segments = []
  · simp [empty, address]
  · have slashes := joinChars_slash empty
    simp [empty, address, joinText, ← slashes]

theorem toList_withQuery (base : String) (entries : List (String × String)) :
    (if (Entries.ofList entries).isEmpty then base
      else base ++ "?" ++ Form.encode (Entries.ofList entries)).toList =
      base.toList ++ queryPart entries := by
  rw [Entries.ofList_eq_onePerKey, queryPart]
  by_cases empty : entries = []
  · rw [(Entries.onePerKey_eq_nil_iff entries).mpr empty, if_pos empty]
    simp
  · have kept := mt (Entries.onePerKey_eq_nil_iff entries).mp empty
    simp [empty, kept]

theorem areWhole_iff {entries : List (String × String)} :
    AreWhole entries ↔ (Entries.ofList entries).all isWholeEntry = true := by
  rw [Entries.ofList_eq_onePerKey, List.all_eq_true, AreWhole]

/-- The address of a request is that of the service with the segments and the query. -/
theorem queryUrl_eq_ok_iff {description : Description} {url : String} :
    queryUrl description values = .ok url ↔
      ∃ segments entries, Sends description values segments entries ∧ AreWhole entries ∧
        url.toList = address description.link segments ++ queryPart entries := by
  constructor
  · intro built
    rcases bind_ok built with ⟨texts, positional, afterPath⟩
    rcases bind_ok afterPath with ⟨entries, named, made⟩
    have sends : Sends description values texts entries :=
      ⟨segments_eq_ok_iff.mp (mapError_ok positional), namedTexts_eq_ok_iff.mp (mapError_ok named)⟩
    by_cases whole : (Entries.ofList entries).all isWholeEntry = true
    · have settled := (if_pos whole).symm.trans made
      cases settled
      refine ⟨texts, entries, sends, areWhole_iff.mpr whole, ?_⟩
      rw [toList_withQuery, toList_withSegments]
    · cases (if_neg whole).symm.trans made
  · rintro ⟨texts, entries, ⟨positional, named⟩, whole, spelt⟩
    rw [queryUrl, segments_eq_ok_iff.mpr positional, namedTexts_eq_ok_iff.mpr named]
    apply (if_pos (areWhole_iff.mp whole)).trans
    apply congrArg Except.ok
    apply String.toList_inj.mp
    rw [toList_withQuery, toList_withSegments, spelt]

/-- A request with its values in the address has only one row of segments and one of entries. -/
theorem Sends.unique {description : Description} {segments others : List String}
    {entries rest : List (String × String)} (sends : Sends description values segments entries)
    (again : Sends description values others rest) : others = segments ∧ rest = entries := by
  have path := segments_eq_ok_iff.mpr sends.positional
  have query := namedTexts_eq_ok_iff.mpr sends.named
  rw [segments_eq_ok_iff.mpr again.positional, Except.ok.injEq] at path
  rw [namedTexts_eq_ok_iff.mpr again.named, Except.ok.injEq] at query
  exact ⟨path, query⟩

/-- Values that can be sent have an address exactly if their query can be percent-encoded. -/
theorem queryUrl_ok_iff_of_sends {description : Description} {segments : List String}
    {entries : List (String × String)} (sends : Sends description values segments entries) :
    (∃ url, queryUrl description values = .ok url) ↔ AreWhole entries := by
  constructor
  · rintro ⟨url, built⟩
    rcases queryUrl_eq_ok_iff.mp built with ⟨others, rest, again, whole, _⟩
    rwa [(sends.unique again).2] at whole
  · intro whole
    exact ⟨_, queryUrl_eq_ok_iff.mpr ⟨segments, entries, sends, whole, String.toList_ofList⟩⟩

/-- A request with its values in the address is built exactly if it has an address. -/
theorem build_ok_iff_of_asked {description : Description}
    (asked : isQueryMethod description.method = true) :
    (∃ request, build description values = .ok request) ↔
      ∃ url, queryUrl description values = .ok url := by
  constructor
  · rintro ⟨request, built⟩
    simp only [build, asked, if_true] at built
    rcases map_ok built with ⟨url, written, _⟩
    exact ⟨url, written⟩
  · rintro ⟨url, written⟩
    exact ⟨_, by simp only [build, asked, if_true, written]; rfl⟩

/-! ## Values within the limit -/

theorem mem_of_mem_given {rows : List (Nat × Parameter)} {entry : Parameter × Value}
    (member : entry ∈ given values rows) : ∃ index, (index, entry.2) ∈ values := by
  rcases List.mem_filterMap.mp member with ⟨⟨index, parameter⟩, _, found⟩
  rcases Option.map_eq_some_iff.mp found with ⟨value, present, rfl⟩
  exact ⟨index, Entries.mem_of_find? (Option.filter_eq_some_iff.mp present).1⟩

/-- Values can be sent exactly if those that belong to parameters and are not null are within the
limit. -/
theorem sends_ok_iff {description : Description} :
    (∃ segments entries, Sends description values segments entries) ↔
      ∀ entry ∈ given values (numbered description), entry.2.WithinLimit := by
  constructor
  · rintro ⟨segments, entries, sends⟩ entry member
    cases sent : entry.1.sentName? with
    | none =>
        have positional : entry.2 ∈ positionalGiven values (numbered description) := by
          apply List.mem_map_of_mem
          simp [member, Parameter.isPositional, sent]
        rcases exists_of_forall₂ sends.positional _ positional with ⟨text, spells⟩
        exact withinLimit_of_spells spells
    | some name =>
        have named : (name, entry) ∈ namedGiven values (numbered description) := by
          apply List.mem_filterMap.mpr
          exact ⟨entry, member, by simp [sent]⟩
        rcases exists_of_forall₂ sends.named _ named with ⟨text, _, spells⟩
        exact withinLimit_of_spells spells
  · intro within
    have positional : ∀ value ∈ positionalGiven values (numbered description),
        ∃ text, Spells "," value text := by
      intro value member
      rcases List.mem_map.mp member with ⟨entry, entryMem, rfl⟩
      exact spells_ok_iff.mpr (within entry (List.mem_filter.mp entryMem).1)
    have named : ∀ sent ∈ namedGiven values (numbered description), ∃ entry, Names sent entry := by
      intro sent member
      rcases List.mem_filterMap.mp member with ⟨entry, entryMem, found⟩
      rcases Option.map_eq_some_iff.mp found with ⟨name, _, rfl⟩
      rcases spells_ok_iff.mpr (within entry entryMem) with ⟨text, spelt⟩
      exact ⟨(name, text), rfl, spelt⟩
    rcases exists_forall₂ positional with ⟨segments, positional⟩
    rcases exists_forall₂ named with ⟨entries, named⟩
    exact ⟨segments, entries, positional, named⟩

/-- Values within the limit can be sent. -/
theorem sends_ok (description : Description)
    (within : ∀ entry ∈ values, entry.2.WithinLimit) :
    ∃ segments entries, Sends description values segments entries := by
  apply sends_ok_iff.mpr
  intro entry member
  rcases mem_of_mem_given member with ⟨index, indexMem⟩
  exact within _ indexMem

end ImageCatalog.PreparedRequest
