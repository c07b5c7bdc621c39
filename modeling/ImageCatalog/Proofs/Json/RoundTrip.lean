import ImageCatalog.Proofs.Json.Number
import ImageCatalog.Proofs.Json.Text
import ImageCatalog.Proofs.Results
import ImageCatalog.Proofs.Value.Document
import ImageCatalog.Proofs.Value.Entries

/-!
# Reading values back

A value of the kinds that JSON texts know is read back from every text that it is written as, on one
line or on many. `ReadsBack` keeps what follows the value general, and asks for a budget as large as
the text: every level of nesting and every item takes one unit of the budget, and it takes at least
one character, a bracket or a comma, of the text. The induction is over the value; lists and objects
are inductions over their parts on top of it.
-/

namespace ImageCatalog.Json

open Number Results Text Value

/-- The value is read back from every text that it is written as. -/
def ReadsBack (value : Value) : Prop :=
  ∀ {spacing : Spacing} {chars rest : List Char} {budget : Nat},
    writeValue spacing value = .ok chars → EndsNumber rest → chars.length ≤ budget →
      readValue budget (chars ++ rest) = .ok (value, rest)

/-! ## Blanks -/

variable {chars rest : List Char}

/-- All characters are blanks. -/
def AreGaps (chars : List Char) : Prop :=
  ∀ char ∈ chars, isGap char = true

instance (chars : List Char) : Decidable (AreGaps chars) :=
  decidable_of_iff (chars.all isGap = true) List.all_eq_true

theorem skipGap_append (gaps : AreGaps chars) (rest : List Char) :
    skipGap (chars ++ rest) = skipGap rest :=
  List.dropWhile_append_of_pos gaps

theorem skipGap_cons {head : Char} (notGap : isGap head = false) (rest : List Char) :
    skipGap (head :: rest) = head :: rest := by
  simp [skipGap, notGap]

theorem areGaps_edge (spacing : Spacing) : AreGaps spacing.edge := by
  cases spacing with
  | line => exact fun char member => absurd member List.not_mem_nil
  | lines depth =>
      refine List.forall_mem_cons.mpr ⟨rfl, fun char member => ?_⟩
      rw [List.eq_of_mem_replicate member]
      rfl

/-- Between the first two parts of a row stand a comma and blanks. -/
theorem joinChars_between (spacing : Spacing) (first second : List Char)
    (others : List (List Char)) :
    ∃ gaps, AreGaps gaps ∧
      (∀ tail, joinChars spacing.between (first :: second :: others) ++ tail =
        first ++ ',' :: (gaps ++ (joinChars spacing.between (second :: others) ++ tail))) ∧
      first.length + (joinChars spacing.between (second :: others)).length <
        (joinChars spacing.between (first :: second :: others)).length := by
  have between : ∃ gaps, spacing.between = ',' :: gaps ∧ AreGaps gaps := by
    cases spacing with
    | line => exact ⟨[' '], rfl, fun char member => by rw [List.mem_singleton.mp member]; rfl⟩
    | lines depth => exact ⟨_, rfl, areGaps_edge (.lines depth)⟩
  rcases between with ⟨gaps, between, areGaps⟩
  refine ⟨gaps, areGaps, fun tail => ?_, ?_⟩
  · rw [joinChars, between]
    simp
  · rw [joinChars, between]
    simp only [List.length_append, List.length_cons]
    omega

theorem endsNumber_nil : EndsNumber [] := by
  constructor <;> simp

/-- A number ends at a comma, a closing bracket or a blank. -/
theorem endsNumber_cons {head : Char}
    (mark : head ∈ [',', ']', '\x7d', ' ', '\t', '\n', '\r']) (rest : List Char) :
    EndsNumber (head :: rest) := by
  simp only [List.mem_cons, List.not_mem_nil, or_false] at mark
  rcases mark with rfl | rfl | rfl | rfl | rfl | rfl | rfl <;> constructor <;> simp

theorem endsNumber_comma (rest : List Char) : EndsNumber (',' :: rest) :=
  endsNumber_cons (by simp) rest

theorem endsNumber_edge (spacing : Spacing) {closing : Char} (mark : closing ∈ [']', '\x7d'])
    (rest : List Char) : EndsNumber (spacing.edge ++ closing :: rest) := by
  cases spacing with
  | line =>
      refine endsNumber_cons ?_ rest
      simp only [List.mem_cons, List.not_mem_nil, or_false] at mark ⊢
      exact .inr (mark.imp_right .inl)
  | lines depth => exact endsNumber_cons (by simp) _

/-! ## Scalars -/

theorem readValue_of_readScalar {budget : Nat} (some : 0 < budget)
    {result : Except Fault (Value × List Char)} (read : readScalar chars = result)
    (wellFormed : result ≠ .error .malformed) : readValue budget chars = result := by
  cases budget with
  | zero => contradiction
  | succ budget =>
      unfold readValue
      split
      · exact absurd read.symm wellFormed
      · exact absurd read.symm wellFormed
      · exact absurd read.symm wellFormed
      · exact read

theorem readsBack_of_readScalar {value : Value}
    (reads : ∀ {spacing : Spacing} {chars rest : List Char}, writeValue spacing value = .ok chars →
      EndsNumber rest → readScalar (chars ++ rest) = .ok (value, rest)) : ReadsBack value := by
  intro spacing chars rest budget writes ends enough
  have some : chars ≠ [] := by
    rintro rfl
    cases reads writes endsNumber_nil
  exact readValue_of_readScalar (Nat.lt_of_lt_of_le (List.length_pos_of_ne_nil some) enough)
    (reads writes ends) ok_ne_error

/-- A value that is not malformed starts neither with a blank nor with a closing bracket. -/
theorem exists_head_of_readValue {budget : Nat} {result : Except Fault (Value × List Char)}
    (read : readValue budget chars = result) (wellFormed : result ≠ .error .malformed) :
    ∃ head others, chars = head :: others ∧ isGap head = false ∧ head ≠ ']' := by
  subst read
  cases budget with
  | zero => exact absurd rfl wellFormed
  | succ budget =>
      cases chars with
      | nil => exact absurd rfl wellFormed
      | cons head others =>
          refine ⟨head, others, rfl, ?_, ?_⟩
          · by_contra gap
            simp only [isGap, Bool.not_eq_false, Bool.or_eq_true, beq_iff_eq] at gap
            rcases gap with ((rfl | rfl) | rfl) | rfl <;> exact wellFormed rfl
          · rintro rfl
            exact wellFormed rfl

theorem readsBack_text (text : String) : ReadsBack (.text text) := by
  intro spacing chars rest budget writes _ enough
  cases writes
  cases budget with
  | zero => simp [writeText] at enough
  | succ budget =>
      simp only [writeText, List.cons_append, List.append_assoc, List.nil_append, readValue,
        readText_append]
      rfl

/-! ## Lists -/

theorem writeItems_cons {spacing : Spacing} {item : Value} {items : List Value}
    {parts : List (List Char)} (writes : writeItems spacing (item :: items) = .ok parts) :
    ∃ part others, parts = part :: others ∧ writeValue spacing item = .ok part ∧
      writeItems spacing items = .ok others := by
  rcases bind_ok writes with ⟨part, written, later⟩
  rcases bind_ok later with ⟨others, laterWritten, made⟩
  cases made
  exact ⟨part, others, rfl, written, laterWritten⟩

theorem exists_head_of_readItems {budget : Nat} {result : Except Fault (List Value × List Char)}
    (read : readItems budget chars = result) (wellFormed : result ≠ .error .malformed) :
    ∃ head others, chars = head :: others ∧ isGap head = false ∧ head ≠ ']' := by
  cases budget with
  | zero => exact absurd read.symm wellFormed
  | succ budget =>
      have item : readValue budget chars ≠ .error .malformed := by
        intro malformed
        apply wellFormed
        rw [← read, readItems, malformed]
        rfl
      exact exists_head_of_readValue rfl item

theorem skipGap_of_readItems {budget : Nat} {result : Except Fault (List Value × List Char)}
    (read : readItems budget chars = result) (wellFormed : result ≠ .error .malformed) :
    skipGap chars = chars := by
  rcases exists_head_of_readItems read wellFormed with ⟨head, others, rfl, notGap, _⟩
  exact skipGap_cons notGap others

/-- The items of a list are read back, one unit of the budget for each. -/
theorem readItems_append {spacing : Spacing} {items : List Value} {parts : List (List Char)}
    {edge : List Char} {budget : Nat} (some : items ≠ []) (each : ∀ item ∈ items, ReadsBack item)
    (writes : writeItems spacing items = .ok parts) (gaps : AreGaps edge)
    (ends : EndsNumber (edge ++ ']' :: rest))
    (enough : (joinChars spacing.between parts).length < budget) :
    readItems budget (joinChars spacing.between parts ++ (edge ++ ']' :: rest)) =
      .ok (items, rest) := by
  induction items generalizing parts budget with
  | nil => contradiction
  | cons item others hypothesis =>
      rw [List.forall_mem_cons] at each
      rcases writeItems_cons writes with ⟨part, laterParts, rfl, written, laterWritten⟩
      cases budget with
      | zero => contradiction
      | succ budget =>
          cases others with
          | nil =>
              cases laterWritten
              rw [joinChars] at enough ⊢
              have read := each.1 written ends (Nat.le_of_lt_succ enough)
              rw [readItems, read]
              simp only [bind, Except.bind, skipGap_append gaps]
              rfl
          | cons next others =>
              rcases writeItems_cons laterWritten with ⟨second, more, rfl, _⟩
              rcases joinChars_between spacing part second more with ⟨blanks, areGaps, text, length⟩
              have partFits : part.length ≤ budget := by omega
              have restFits : (joinChars spacing.between (second :: more)).length < budget := by
                omega
              have onward := hypothesis (by simp) each.2 laterWritten restFits
              have read {after : List Char} := each.1 written (endsNumber_comma after) partFits
              rw [text, readItems, read]
              simp only [bind, Except.bind]
              rw [skipGap_cons rfl]
              simp only [skipGap_append areGaps, skipGap_of_readItems onward ok_ne_error, onward]
              rfl

/-! ## Objects -/

theorem skipGap_of_readValue {budget : Nat} {result : Except Fault (Value × List Char)}
    (read : readValue budget chars = result) (wellFormed : result ≠ .error .malformed) :
    skipGap chars = chars := by
  rcases exists_head_of_readValue read wellFormed with ⟨head, others, rfl, notGap, _⟩
  exact skipGap_cons notGap others

theorem writeFields_cons {spacing : Spacing} {name : String} {content : Value}
    {fields : List (String × Value)} {parts : List (List Char)}
    (writes : writeFields spacing ((name, content) :: fields) = .ok parts) :
    ∃ part others, parts = (writeText name ++ ':' :: ' ' :: part) :: others ∧
      writeValue spacing content = .ok part ∧ writeFields spacing fields = .ok others := by
  rcases bind_ok writes with ⟨part, written, later⟩
  rcases bind_ok later with ⟨others, laterWritten, made⟩
  cases made
  exact ⟨part, others, rfl, written, laterWritten⟩

/-- The first field of an object is read back, and what follows decides how it goes on. -/
theorem readFields_field {spacing : Spacing} {content : Value} {part after : List Char}
    {budget : Nat} (name : String) (reads : ReadsBack content)
    (written : writeValue spacing content = .ok part) (ends : EndsNumber after)
    (enough : part.length ≤ budget) :
    readFields (budget + 1) (writeText name ++ ':' :: ' ' :: part ++ after) =
      match skipGap after with
      | ',' :: more => do
        let (fields, left) ← readFields budget (skipGap more)
        return ((name, content) :: fields, left)
      | '\x7d' :: left => .ok ([(name, content)], left)
      | _ => .error .malformed := by
  have read := reads written ends enough
  have colon : skipGap (':' :: ' ' :: (part ++ after)) = ':' :: ' ' :: (part ++ after) :=
    skipGap_cons rfl _
  have blank : skipGap (' ' :: (part ++ after)) = part ++ after :=
    skipGap_of_readValue read ok_ne_error
  have text : writeText name ++ ':' :: ' ' :: part ++ after =
      '"' :: (name.toList.flatMap writeChar ++ '"' :: (':' :: ' ' :: (part ++ after))) := by
    simp [writeText]
  rw [text, readFields, readText_append]
  simp only [bind, Except.bind, colon, blank, read]
  rfl

theorem skipGap_of_readFields {budget : Nat}
    {result : Except Fault (List (String × Value) × List Char)}
    (read : readFields budget chars = result) (wellFormed : result ≠ .error .malformed) :
    skipGap chars = chars := by
  cases budget with
  | zero => exact absurd read.symm wellFormed
  | succ budget =>
      unfold readFields at read
      split at read
      · exact skipGap_cons rfl _
      · exact absurd read.symm wellFormed

/-- The fields of an object are read back, one unit of the budget for each. -/
theorem readFields_append {spacing : Spacing} {fields : List (String × Value)}
    {parts : List (List Char)} {edge : List Char} {budget : Nat} (some : fields ≠ [])
    (each : ∀ field ∈ fields, ReadsBack field.2) (writes : writeFields spacing fields = .ok parts)
    (gaps : AreGaps edge) (ends : EndsNumber (edge ++ '\x7d' :: rest))
    (enough : (joinChars spacing.between parts).length < budget) :
    readFields budget (joinChars spacing.between parts ++ (edge ++ '\x7d' :: rest)) =
      .ok (fields, rest) := by
  induction fields generalizing parts budget with
  | nil => contradiction
  | cons field others hypothesis =>
      obtain ⟨name, content⟩ := field
      rw [List.forall_mem_cons] at each
      rcases writeFields_cons writes with ⟨part, laterParts, rfl, written, laterWritten⟩
      cases budget with
      | zero => contradiction
      | succ budget =>
          cases others with
          | nil =>
              cases laterWritten
              rw [joinChars] at enough ⊢
              simp only [List.length_append, List.length_cons] at enough
              rw [readFields_field name each.1 written ends (by omega), skipGap_append gaps,
                skipGap_cons rfl]
              rfl
          | cons next others =>
              rcases writeFields_cons laterWritten with ⟨second, more, laterEq, _⟩
              generalize writeText next.1 ++ ':' :: ' ' :: second = secondPart at laterEq
              subst laterEq
              rcases joinChars_between spacing (writeText name ++ ':' :: ' ' :: part) secondPart more
                with ⟨blanks, areGaps, text, length⟩
              simp only [List.length_append, List.length_cons] at length
              have partFits : part.length ≤ budget := by omega
              have restFits : (joinChars spacing.between (secondPart :: more)).length < budget := by
                omega
              have onward := hypothesis (by simp) each.2 laterWritten restFits
              rw [text, readFields_field name each.1 written (endsNumber_comma _) partFits,
                skipGap_cons rfl]
              simp only [skipGap_append areGaps, skipGap_of_readFields onward ok_ne_error, onward]
              rfl

/-! ## Values -/

theorem readValue_list {budget : Nat} {result : Except Fault (List Value × List Char)}
    {blanks tail : List Char} (read : readItems budget tail = result)
    (wellFormed : result ≠ .error .malformed) (gaps : AreGaps blanks) :
    readValue (budget + 1) ('[' :: (blanks ++ tail)) =
      result.map fun (items, left) => (.list items, left) := by
  have skips := (skipGap_append gaps tail).trans (skipGap_of_readItems read wellFormed)
  rcases exists_head_of_readItems read wellFormed with ⟨head, others, rfl, _, notClosing⟩
  simp only [readValue, skips]
  split
  · next closing => exact absurd (List.cons.inj closing).1 notClosing
  · rw [read]

theorem readValue_object {budget : Nat} {result : Except Fault (List (String × Value) × List Char)}
    {blanks tail : List Char} (read : readFields budget tail = result)
    (wellFormed : result ≠ .error .malformed) (gaps : AreGaps blanks) :
    readValue (budget + 1) ('\x7b' :: (blanks ++ tail)) =
      result.map fun (fields, left) => (.object (Entries.ofList fields), left) := by
  have skips := (skipGap_append gaps tail).trans (skipGap_of_readFields read wellFormed)
  simp only [readValue, skips]
  split
  · cases budget with
    | zero => exact absurd read.symm wellFormed
    | succ budget => exact absurd read.symm wellFormed
  · rw [read]

theorem enclose_append {spacing : Spacing} {opening closing : Char} {parts : List (List Char)}
    (some : parts ≠ []) (rest : List Char) :
    enclose spacing opening closing parts ++ rest =
      opening :: (spacing.deeper.edge ++
        (joinChars spacing.deeper.between parts ++ (spacing.edge ++ closing :: rest))) := by
  rw [enclose, if_neg (mt List.isEmpty_iff.mp some)]
  simp

theorem length_enclose {spacing : Spacing} {opening closing : Char} {parts : List (List Char)}
    (some : parts ≠ []) :
    (joinChars spacing.deeper.between parts).length + 2 ≤
      (enclose spacing opening closing parts).length := by
  have text : enclose spacing opening closing parts ++ [] = _ := enclose_append some []
  rw [← List.append_nil (enclose spacing opening closing parts), text]
  simp only [List.length_cons, List.length_append]
  omega

theorem readsBack_list {items : List Value} (each : ∀ item ∈ items, ReadsBack item) :
    ReadsBack (.list items) := by
  intro spacing chars rest budget writes ends enough
  rcases bind_ok writes with ⟨parts, written, made⟩
  cases made
  cases items with
  | nil =>
      cases written
      cases budget with
      | zero => simp [enclose] at enough
      | succ budget => rfl
  | cons item others =>
      rcases writeItems_cons written with ⟨part, more, rfl, _⟩
      have length : _ ≤ (enclose spacing '[' ']' (part :: more)).length :=
        length_enclose (List.cons_ne_nil part more)
      cases budget with
      | zero => omega
      | succ budget =>
          have read := readItems_append (List.cons_ne_nil item others) each written
            (areGaps_edge spacing) (endsNumber_edge spacing (by simp) rest)
            (show _ < budget by omega)
          rw [enclose_append (List.cons_ne_nil part more),
            readValue_list read ok_ne_error (areGaps_edge _)]
          rfl

theorem readsBack_object {fields : List (String × Value)}
    (distinct : (Entries.keys fields).Nodup) (each : ∀ field ∈ fields, ReadsBack field.2) :
    ReadsBack (.object fields) := by
  intro spacing chars rest budget writes ends enough
  rcases bind_ok writes with ⟨parts, written, made⟩
  cases made
  cases fields with
  | nil =>
      cases written
      cases budget with
      | zero => simp [enclose] at enough
      | succ budget => rfl
  | cons field others =>
      obtain ⟨name, content⟩ := field
      rcases writeFields_cons written with ⟨part, more, partsEq, _⟩
      have some : parts ≠ [] := by simp [partsEq]
      have length : _ ≤ (enclose spacing '\x7b' '\x7d' parts).length := length_enclose some
      cases budget with
      | zero => omega
      | succ budget =>
          have read := readFields_append (List.cons_ne_nil _ others) each written
            (areGaps_edge spacing) (endsNumber_edge spacing (by simp) rest)
            (show _ < budget by omega)
          rw [enclose_append some, readValue_object read ok_ne_error (areGaps_edge _)]
          simp only [Except.map, Entries.ofList_eq_self distinct]

/-- Values of the kinds that JSON texts know are read back. -/
theorem readsBack {value : Value} (document : value.IsDocument) : ReadsBack value := by
  induction document with
  | null =>
      apply readsBack_of_readScalar
      intro spacing chars rest writes _
      cases writes
      exact readWord_append _ _ rest
  | bool flag =>
      apply readsBack_of_readScalar
      intro spacing chars rest writes _
      cases writes
      cases flag <;> exact readWord_append _ _ rest
  | int number =>
      apply readsBack_of_readScalar
      intro spacing chars rest writes ends
      rw [writeValue] at writes
      exact readScalar_writeInt writes ends
  | float number =>
      apply readsBack_of_readScalar
      intro spacing chars rest writes ends
      cases writes
      exact readScalar_write number ends
  | text chars => exact readsBack_text chars
  | list items _ hypothesis => exact readsBack_list hypothesis
  | object fields distinct _ hypothesis => exact readsBack_object distinct hypothesis

/-- Reading undoes writing, whatever the spacing. -/
theorem readAll_of_writeValue {value : Value} (document : value.IsDocument) {spacing : Spacing}
    {chars : List Char} (writes : writeValue spacing value = .ok chars) :
    readAll chars = .ok value := by
  have read := readsBack document writes endsNumber_nil (show _ ≤ 2 * chars.length + 2 by omega)
  rw [List.append_nil] at read
  have skips := skipGap_of_readValue read ok_ne_error
  rw [readAll, skips, read]
  rfl

theorem read_of_writeIndented {value : Value} (document : value.IsDocument) {text : String}
    (writes : writeIndented value = .ok text) : read text = .ok value := by
  rcases map_ok writes with ⟨chars, written, rfl⟩
  rw [read, String.toList_ofList]
  exact readAll_of_writeValue document written

theorem read_of_write {value : Value} (document : value.IsDocument) {text : String}
    (writes : write value = .ok text) : read text = .ok value := by
  rcases map_ok writes with ⟨chars, written, rfl⟩
  rw [read, String.toList_ofList]
  exact readAll_of_writeValue document written

/-! ## Values that are written -/

theorem writeInt_ok_iff {number : Int} :
    (∃ chars, writeInt number = .ok chars) ↔ number.natAbs < Nat.pow 10 digitLimit := by
  unfold writeInt intText
  by_cases short : number.natAbs < Nat.pow 10 digitLimit
  · rw [if_pos short]
    exact iff_of_true ⟨_, rfl⟩ short
  · rw [if_neg short]
    exact iff_of_false (fun ⟨_, writes⟩ => by cases writes) short

theorem writeItems_ok_iff {spacing : Spacing} {items : List Value}
    (each : ∀ item ∈ items, (∃ chars, writeValue spacing item = .ok chars) ↔ item.WithinLimit) :
    (∃ parts, writeItems spacing items = .ok parts) ↔ ∀ item ∈ items, item.WithinLimit := by
  induction items with
  | nil => exact iff_of_true ⟨[], rfl⟩ (by simp)
  | cons item rest hypothesis =>
      rw [List.forall_mem_cons] at each
      rw [List.forall_mem_cons, ← each.1, ← hypothesis each.2]
      constructor
      · rintro ⟨parts, writes⟩
        rcases writeItems_cons writes with ⟨part, others, _, written, laterWritten⟩
        exact ⟨⟨part, written⟩, ⟨others, laterWritten⟩⟩
      · rintro ⟨⟨part, written⟩, ⟨others, laterWritten⟩⟩
        exact ⟨part :: others, by rw [writeItems, written, laterWritten]; rfl⟩

theorem writeFields_ok_iff {spacing : Spacing} {fields : List (String × Value)}
    (each : ∀ field ∈ fields,
      (∃ chars, writeValue spacing field.2 = .ok chars) ↔ field.2.WithinLimit) :
    (∃ parts, writeFields spacing fields = .ok parts) ↔ ∀ field ∈ fields, field.2.WithinLimit := by
  induction fields with
  | nil => exact iff_of_true ⟨[], rfl⟩ (by simp)
  | cons field rest hypothesis =>
      obtain ⟨name, content⟩ := field
      rw [List.forall_mem_cons] at each
      rw [List.forall_mem_cons, ← each.1, ← hypothesis each.2]
      constructor
      · rintro ⟨parts, writes⟩
        rcases writeFields_cons writes with ⟨part, others, _, written, laterWritten⟩
        exact ⟨⟨part, written⟩, ⟨others, laterWritten⟩⟩
      · rintro ⟨⟨part, written⟩, ⟨others, laterWritten⟩⟩
        exact ⟨_ :: others, by rw [writeFields, written, laterWritten]; rfl⟩

/-- A value of the kinds that JSON texts know is written unless a whole number in it is too long. -/
theorem writeValue_ok_iff {value : Value} (document : value.IsDocument) (spacing : Spacing) :
    (∃ chars, writeValue spacing value = .ok chars) ↔ value.WithinLimit := by
  induction document generalizing spacing with
  | null => exact iff_of_true ⟨_, rfl⟩ .null
  | bool flag => exact iff_of_true ⟨_, rfl⟩ (.bool flag)
  | int number =>
      rw [writeValue, writeInt_ok_iff]
      exact ⟨.int number, fun | .int _ short => short⟩
  | float number => exact iff_of_true ⟨_, rfl⟩ (.float number)
  | text chars => exact iff_of_true ⟨_, rfl⟩ (.text chars)
  | list items _ hypothesis =>
      have parts := writeItems_ok_iff fun item member => hypothesis item member spacing.deeper
      constructor
      · rintro ⟨chars, writes⟩
        rcases bind_ok writes with ⟨written, each, _⟩
        exact .list items (parts.mp ⟨written, each⟩)
      · intro within
        rcases parts.mpr within.item with ⟨written, each⟩
        exact ⟨_, by rw [writeValue, each]; rfl⟩
  | object fields _ _ hypothesis =>
      have parts := writeFields_ok_iff fun field member => hypothesis field member spacing.deeper
      constructor
      · rintro ⟨chars, writes⟩
        rcases bind_ok writes with ⟨written, each, _⟩
        exact .object fields (parts.mp ⟨written, each⟩)
      · intro within
        rcases parts.mpr within.field with ⟨written, each⟩
        exact ⟨_, by rw [writeValue, each]; rfl⟩

end ImageCatalog.Json
