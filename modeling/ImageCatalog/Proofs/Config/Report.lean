import ImageCatalog.Config.Validation
import ImageCatalog.Proofs.Json.Number

/-!
# The report on a document

The report has one line for each issue, and each issue belongs to one field of the document. So the
lines about a field, or about one item of the parameters, are those that the check of its own
content gives: they are there exactly if that check fails, and no other field changes them.

Fields are told apart in the lines by the words in front. `isAbout_under` says so for one step of a
place, `linesAbout_checkDescription` and `linesAbout_items` for the fields of a document and for the
items of a list.
-/

namespace ImageCatalog.Config

open Checked Text

/-! ## Lines about places -/

/-- Whether a line is about a place or one below it. -/
def isAbout (place : List Part) (line : String) : Bool :=
  startsWith (printPlace place ++ ": ") line || startsWith (printPlace place ++ ".") line

/-- The lines about a place and those below it. -/
def linesAbout (place : List Part) (lines : List String) : List String :=
  lines.filter (isAbout place)

/-- A character that stands between the parts of a line, or in the name of the root. -/
def isMark (char : Char) : Bool :=
  ['.', ':', '<'].contains char

/-- The text of the part is a word without marks in it. -/
structure Part.IsWord (part : Part) : Prop where
  nonempty : part.print.toList ≠ []
  unmarked : ∀ char ∈ part.print.toList, isMark char = false

theorem Part.isWord_item (index : Nat) : (Part.item index).IsWord := by
  have spelt : (Part.item index).print.toList = natDigits index := String.toList_ofList
  constructor
  · rw [spelt]
    exact Nat.toDigits_ne_nil
  · intro char member
    rw [spelt] at member
    have digit := Json.areDigits_natDigits index char member
    simp only [isMark, List.contains_eq_mem, decide_eq_false_iff_not]
    intro marked
    simp only [List.mem_cons, List.not_mem_nil, or_false] at marked
    rcases marked with rfl | rfl | rfl <;> cases digit

theorem Part.print_item_inj {index other : Nat}
    (same : (Part.item index).print = (Part.item other).print) : index = other := by
  have digits : natDigits index = natDigits other := String.ofList_inj.mp same
  rw [← Json.digitsToNat_natDigits index, digits, Json.digitsToNat_natDigits]

/-- Two texts that start with words and go on with marks agree up to a point behind the words only
if the words are the same. -/
theorem prefix_of_words {word other rest behind : List Char} {mark next : Char}
    (unmarked : ∀ char ∈ word, isMark char = false)
    (otherUnmarked : ∀ char ∈ other, isMark char = false)
    (marked : isMark mark = true) (nextMarked : isMark next = true) :
    word ++ mark :: rest <+: other ++ next :: behind ↔
      word = other ∧ mark :: rest <+: next :: behind := by
  induction word generalizing other with
  | nil =>
      cases other with
      | nil => simp
      | cons char others =>
          have differs : mark ≠ char := by
            rintro rfl
            simp [marked] at otherUnmarked
          simp [List.cons_prefix_cons, differs]
  | cons char chars hypothesis =>
      rw [List.forall_mem_cons] at unmarked
      cases other with
      | nil =>
          have differs : char ≠ next := by
            rintro rfl
            simp [nextMarked] at unmarked
          simp [List.cons_prefix_cons, differs]
      | cons head others =>
          rw [List.forall_mem_cons] at otherUnmarked
          rw [List.cons_append, List.cons_append, List.cons_prefix_cons,
            hypothesis unmarked.2 otherUnmarked.2, List.cons.injEq, and_assoc]

theorem toList_printPlace_cons (part : Part) {place : List Part} (further : place ≠ []) :
    (printPlace (part :: place)).toList =
      part.print.toList ++ '.' :: (printPlace place).toList := by
  cases place with
  | nil => contradiction
  | cons next rest => simp [printPlace, joinText, joinChars]

theorem printPlace_singleton (part : Part) : printPlace [part] = part.print := by
  simp [printPlace, joinText, joinChars]

/-- What follows the first step of the place in the line of an issue that is one step further
down. -/
def Issue.behind (issue : Issue) : List Char :=
  if issue.place = [] then ':' :: ' ' :: issue.cause.message.toList else '.' :: issue.line.toList

theorem toList_line_under (part : Part) (issue : Issue) :
    (issue.under part).line.toList = part.print.toList ++ issue.behind := by
  unfold Issue.behind
  split
  · next root => simp [Issue.line, Issue.under, root, printPlace_singleton]
  · next further => simp [Issue.line, Issue.under, toList_printPlace_cons part further]

theorem isAbout_iff {place : List Part} {line : String} :
    isAbout place line = true ↔
      (printPlace place).toList ++ [':', ' '] <+: line.toList ∨
        (printPlace place).toList ++ ['.'] <+: line.toList := by
  simp [isAbout, startsWith]

/-- A line about the root is about no other place. -/
theorem not_isAbout_of_root {part : Part} {place : List Part} {issue : Issue} (word : part.IsWord)
    (root : issue.place = []) : isAbout (part :: place) issue.line = false := by
  rcases List.exists_cons_of_ne_nil word.nonempty with ⟨char, rest, spelt⟩
  have differs : char ≠ '<' := by
    rintro rfl
    have unmarked := word.unmarked '<' (by rw [spelt]; exact List.mem_cons_self)
    cases unmarked
  have line : issue.line.toList = "<root>".toList ++ (": " ++ issue.cause.message).toList := by
    simp [Issue.line, printPlace, root]
  have front : ∃ others, (printPlace (part :: place)).toList = char :: others := by
    cases place with
    | nil => exact ⟨rest, by rw [printPlace_singleton, spelt]⟩
    | cons next others => exact ⟨_, by rw [toList_printPlace_cons part (by simp), spelt]; rfl⟩
  rcases front with ⟨others, front⟩
  apply Bool.eq_false_iff.mpr
  intro about
  rw [isAbout_iff, front, line] at about
  simp [List.cons_prefix_cons, differs] at about

/-- A line about what is one step further down is about a place exactly if the first step is the
same and the line without it is about the rest of the place. -/
theorem isAbout_under {part other : Part} {place : List Part} {issue : Issue}
    (word : part.IsWord) (otherWord : other.IsWord) (words : ∀ step ∈ place, step.IsWord) :
    isAbout (part :: place) (issue.under other).line = true ↔
      part.print = other.print ∧ (place = [] ∨ isAbout place issue.line = true) := by
  have agree {mark next : Char} {rest behind : List Char} (marked : isMark mark = true)
      (nextMarked : isMark next = true) :
      part.print.toList ++ mark :: rest <+: other.print.toList ++ next :: behind ↔
        part.print = other.print ∧ mark :: rest <+: next :: behind := by
    rw [prefix_of_words word.unmarked otherWord.unmarked marked nextMarked, String.toList_inj]
  rw [isAbout_iff, toList_line_under]
  unfold Issue.behind
  cases place with
  | nil =>
      rw [printPlace_singleton]
      split
      · rw [agree rfl rfl, agree rfl rfl]
        simp [List.cons_prefix_cons]
      · rw [agree rfl rfl, agree rfl rfl]
        simp [List.cons_prefix_cons]
  | cons step steps =>
      rw [toList_printPlace_cons part (by simp), List.append_assoc, List.append_assoc,
        List.cons_append, List.cons_append]
      split
      · next root =>
          have below : isAbout (step :: steps) issue.line = false :=
            not_isAbout_of_root (words step List.mem_cons_self) root
          rw [agree rfl rfl, agree rfl rfl, below]
          simp [List.cons_prefix_cons]
      · rw [agree rfl rfl, agree rfl rfl, ← and_or_left, List.cons_prefix_cons,
          List.cons_prefix_cons, isAbout_iff]
        simp

/-- Of the issues one step further down, those about a place with the same first step are those
about the rest of the place. -/
theorem filter_under {part other : Part} {place : List Part} (word : part.IsWord)
    (otherWord : other.IsWord) (words : ∀ step ∈ place, step.IsWord) (issues : List Issue) :
    (issues.map (Issue.under other)).filter (fun issue => isAbout (part :: place) issue.line) =
      if part.print = other.print then
        (issues.filter fun issue => place.isEmpty || isAbout place issue.line).map
          (Issue.under other)
      else [] := by
  have same (issue : Issue) : isAbout (part :: place) (issue.under other).line =
      (decide (part.print = other.print) && (place.isEmpty || isAbout place issue.line)) := by
    rw [Bool.eq_iff_iff, isAbout_under word otherWord words]
    simp
  rw [List.filter_map]
  simp only [Function.comp_def, same]
  split
  · next equal => simp [equal]
  · next unequal => simp [unequal]

/-! ## Issues of fields -/

namespace Checked

variable {Source Result : Type}

theorem issues_fmap (change : Source → Result) (check : Checked Source) :
    (change <$> check).issues = check.issues :=
  issues_map change check

theorem issues_seq (change : Checked (Source → Result)) (check : Checked Source) :
    (change <*> check).issues = change.issues ++ check.issues :=
  issues_apply change check

theorem issues_required (name : String) (check : Value → Checked Result) (record : Value) :
    (required name check record).issues =
      (match field? name record with
        | some content => (check content).issues
        | none => [⟨[], .missing⟩]).map (Issue.under (.field name)) := by
  rw [required, issues_under]
  cases field? name record <;> rfl

theorem issues_optional (name : String) (fallback : Result) (check : Value → Checked Result)
    (record : Value) :
    (optional name fallback check record).issues =
      (match field? name record with
        | some content => (check content).issues
        | none => []).map (Issue.under (.field name)) := by
  unfold Checked.optional
  cases field? name record with
  | none => rfl
  | some content => exact issues_under _ _

/-- The issues of an item are those about its number. -/
theorem filter_itemsFrom (check : Source → Checked Result) (start index : Nat)
    (list : List Source) :
    (itemsFrom check start list).issues.filter (fun issue => isAbout [.item index] issue.line) =
      if start ≤ index then
        (list[index - start]?.map fun item =>
          (check item).issues.map (Issue.under (.item index))).getD []
      else [] := by
  induction list generalizing start with
  | nil => simp [itemsFrom, issues]
  | cons item rest hypothesis =>
      have none : ∀ step ∈ ([] : List Part), step.IsWord := by simp
      have head := filter_under (Part.isWord_item index) (Part.isWord_item start) none
        (check item).issues
      rw [itemsFrom, issues_apply, issues_map, issues_under, List.filter_append, head,
        hypothesis (start + 1)]
      have differs (other : start ≠ index) : (Part.item index).print ≠ (Part.item start).print :=
        fun same => other (Part.print_item_inj same).symm
      rcases Nat.lt_trichotomy start index with before | rfl | behind
      · have next : index - start = (index - (start + 1)) + 1 := by omega
        rw [if_neg (differs (Nat.ne_of_lt before)), if_pos (Nat.succ_le_of_lt before),
          if_pos (Nat.le_of_lt before), next, List.getElem?_cons_succ, List.nil_append]
      · simp
      · rw [if_neg (differs (Nat.ne_of_gt behind)), if_neg (by omega), if_neg (by omega),
          List.nil_append]

end Checked

/-- The fields of a description. -/
inductive Description.Field
  | title
  | intro
  | icon
  | link
  | verb
  | parameters
  | response
deriving DecidableEq

namespace Description.Field

/-- The fields in the order in which they are checked. -/
def all : List Field :=
  [title, intro, icon, link, verb, parameters, response]

/-- The name of a field in documents. -/
def name : Field → String
  | title => "friendly_name"
  | intro => "intro"
  | icon => "icon"
  | link => "link"
  | verb => "func"
  | parameters => "parameters"
  | response => "response"

/-- Whether a field must be there. -/
def isRequired : Field → Bool
  | title => true
  | intro => false
  | icon => false
  | link => true
  | verb => true
  | parameters => false
  | response => true

/-- The issues of the content of a field on its own. -/
def contentIssues : Field → Value → List Issue
  | title, content => (checkText content).issues
  | intro, content => (checkText content).issues
  | icon, content => (nullable checkText content).issues
  | link, content => (checkLink content).issues
  | verb, content => (checkVerb content).issues
  | parameters, content => (checkList checkParameter content).issues
  | response, content => (checkResponse content).issues

/-- The issues of a field of a document, seen from the field. -/
def issues (field : Field) (document : Value) : List Issue :=
  match field? field.name document with
  | some content => field.contentIssues content
  | none => if field.isRequired then [⟨[], .missing⟩] else []

/-- The content is in order for the field. -/
def Accepts : Field → Value → Prop
  | title, content => ∃ text, checkText content = .valid text
  | intro, content => ∃ text, checkText content = .valid text
  | icon, content => ∃ text, nullable checkText content = .valid text
  | link, content => ∃ text, checkLink content = .valid text
  | verb, content => ∃ text, checkVerb content = .valid text
  | parameters, content => ∃ list, checkList checkParameter content = .valid list
  | response, content => ∃ image, checkResponse content = .valid image

/-- The field of the document is not in order, or it is missing although it must be there. -/
def IsFaulty (field : Field) (document : Value) : Prop :=
  match field? field.name document with
  | some content => ¬field.Accepts content
  | none => field.isRequired = true

theorem isWord (field : Field) : (Part.field field.name).IsWord := by
  have nonempty : (Part.field field.name).print.toList ≠ [] := by
    cases field <;> decide
  have unmarked : (Part.field field.name).print.toList.all (!isMark ·) = true := by
    cases field <;> decide
  exact ⟨nonempty, by simpa using unmarked⟩

theorem contentIssues_eq_nil_iff (field : Field) (content : Value) :
    field.contentIssues content = [] ↔ field.Accepts content := by
  cases field <;> exact issues_eq_nil_iff _

theorem issues_ne_nil_iff (field : Field) (document : Value) :
    field.issues document ≠ [] ↔ field.IsFaulty document := by
  unfold issues IsFaulty
  split
  · exact not_congr (contentIssues_eq_nil_iff field _)
  · simp

end Description.Field

open Description

theorem issues_checkDescription {document : Value} (record : isRecord document = true) :
    (checkDescription document).issues =
      Field.all.flatMap fun field =>
        (field.issues document).map (Issue.under (.field field.name)) := by
  rw [checkDescription, if_pos record]
  simp only [issues_seq, issues_fmap, issues_required, issues_optional]
  simp [Field.all, Field.issues, Field.name, Field.contentIssues, Field.isRequired]

/-- The issues about a field, or about a place below it, are issues of that field. -/
theorem filter_checkDescription {document : Value} (record : isRecord document = true)
    (field : Field) {place : List Part} (words : ∀ step ∈ place, step.IsWord) :
    (checkDescription document).issues.filter
        (fun issue => isAbout (.field field.name :: place) issue.line) =
      ((field.issues document).filter fun issue => place.isEmpty || isAbout place issue.line).map
        (Issue.under (.field field.name)) := by
  rw [issues_checkDescription record, List.filter_flatMap]
  simp only [filter_under field.isWord (Field.isWord _) words, Part.print]
  cases field <;> simp [Field.all, Field.name]

/-! ## The report -/

theorem validate_eq (document : Value) :
    validate document = ((checkDocument document).issues.isEmpty,
      (checkDocument document).issues.map Issue.line) := by
  unfold validate
  cases checkDocument document <;> rfl

theorem linesAbout_validate {document : Value} (record : isRecord document = true) (field : Field)
    {place : List Part} (words : ∀ step ∈ place, step.IsWord) :
    linesAbout (.field field.name :: place) (validate document).2 =
      ((field.issues document).filter fun issue => place.isEmpty || isAbout place issue.line).map
        fun issue => (issue.under (.field field.name)).line := by
  have about := congrArg (List.map Issue.line) (filter_checkDescription record field words)
  rw [List.map_map] at about
  rw [linesAbout, validate_eq, checkDocument, if_pos record, List.filter_map]
  exact about

theorem isRecord_of_field? {document content : Value} {name : String}
    (found : field? name document = some content) : isRecord document = true := by
  cases document <;> first | rfl | cases found

/-- The lines about an item of the parameters that the item alone gives. -/
def itemLines (index : Nat) (item : Value) : List String :=
  (checkParameter item).issues.map fun issue =>
    ((issue.under (.item index)).under (.field "parameters")).line

theorem linesAbout_item {document : Value} {entries : List Value}
    (found : field? "parameters" document = some (.list entries)) (index : Nat) :
    linesAbout [.field "parameters", .item index] (validate document).2 =
      (entries[index]?.map (itemLines index)).getD [] := by
  have words : ∀ step ∈ [Part.item index], step.IsWord := by
    intro step member
    rw [List.mem_singleton.mp member]
    exact Part.isWord_item index
  have own : Field.parameters.issues document = (itemsFrom checkParameter 0 entries).issues := by
    have named : field? Field.parameters.name document = some (.list entries) := found
    simp only [Field.issues, named]
    rfl
  have lines := linesAbout_validate (isRecord_of_field? found) .parameters words
  rw [own] at lines
  simp only [List.isEmpty_cons, Bool.false_or, filter_itemsFrom, Nat.zero_le, if_true,
    Nat.sub_zero] at lines
  rw [show Part.field "parameters" = .field Field.parameters.name from rfl, lines]
  cases entries[index]? with
  | none => rfl
  | some entry => simp [itemLines, Function.comp_def, Field.name]

theorem linesAbout_ne_nil_iff {place : List Part} {lines : List String} :
    linesAbout place lines ≠ [] ↔ ∃ line ∈ lines, isAbout place line = true := by
  simp [linesAbout]

/-- A document is in order exactly if it can be built under every name and in every category;
otherwise its report has at least one line and is what building it fails with. The lines about an
item of the parameters are those that the item alone gives, and there is one exactly if the item
alone is no parameter. There is a line about a field exactly if the field is not in order, or
missing although it must be there. -/
theorem validate_complete (document : Value) :
    (validate document = (true, []) ↔
      ∀ name category, ∃ config, build document name category = .ok config) ∧
    (validate document ≠ (true, []) → ∃ lines, lines ≠ [] ∧ validate document = (false, lines) ∧
      ∀ name category, build document name category = .error ⟨name, lines⟩) ∧
    (∀ entries, field? "parameters" document = some (.list entries) → ∀ index,
      linesAbout [.field "parameters", .item index] (validate document).2 =
        (entries[index]?.map (itemLines index)).getD [] ∧
      ((∃ line ∈ (validate document).2,
          isAbout [.field "parameters", .item index] line = true) ↔
        ∃ entry, entries[index]? = some entry ∧
          ¬∃ parameter, checkParameter entry = .valid parameter)) ∧
    (isRecord document = true → ∀ field : Field,
      ((∃ line ∈ (validate document).2, isAbout [.field field.name] line = true) ↔
        field.IsFaulty document)) := by
  refine ⟨?_, ?_, ?_, ?_⟩
  · unfold validate build
    cases checkDocument document with
    | valid description => simp
    | invalid first others => simp
  · unfold validate build
    cases checkDocument document with
    | valid description => simp
    | invalid first others =>
        intro _
        exact ⟨_, List.cons_ne_nil _ _, rfl, fun _ _ => rfl⟩
  · intro entries found index
    refine ⟨linesAbout_item found index, ?_⟩
    rw [← linesAbout_ne_nil_iff, linesAbout_item found index]
    cases entries[index]? with
    | none => simp
    | some entry => simp [itemLines, ← issues_eq_nil_iff]
  · intro record field
    have none : ∀ step ∈ ([] : List Part), step.IsWord := by simp
    have lines := linesAbout_validate record field none
    rw [← linesAbout_ne_nil_iff, lines, ← field.issues_ne_nil_iff]
    simp

/-- A document with faults in several places: a parameter without a tag, one in order, one with two
faults, and one whose bounds cross; a blank address; no method; a fault deep in the response. -/
def faultyDocument : Value :=
  .object
    [("friendly_name", .text "f"), ("icon", .null), ("link", .text " "),
      ("parameters", .list
        [.object [("value", .int 1)],
          .object [("type", .text "string")],
          .object [("type", .text "boolean"), ("enable", .text "maybe"), ("value", .int 2)],
          .object [("type", .text "integer"), ("min_value", .int 2), ("max_value", .int 1)]]),
      ("response", .object [("image", .object [("content_type", .text "url")])])]

theorem validate_complete_faulty :
    isRecord faultyDocument = true ∧
    (∀ index, (∃ line ∈ (validate faultyDocument).2,
      isAbout [.field "parameters", .item index] line = true) ↔ index ∈ [0, 2, 3]) ∧
    (∀ field : Field, (∃ line ∈ (validate faultyDocument).2,
      isAbout [.field field.name] line = true) ↔
        field ∈ [Field.link, .verb, .parameters, .response]) := by
  have complete := validate_complete faultyDocument
  refine ⟨rfl, ?_, ?_⟩
  · intro index
    rw [(complete.2.2.1 _ rfl index).2]
    simp only [← issues_eq_nil_iff]
    match index with
    | 0 => exact iff_of_true ⟨_, rfl, by decide +kernel⟩ (by decide)
    | 1 => exact iff_of_false (by rintro ⟨_, ⟨⟩, faulty⟩; exact faulty rfl) (by decide)
    | 2 => exact iff_of_true ⟨_, rfl, by decide +kernel⟩ (by decide)
    | 3 => exact iff_of_true ⟨_, rfl, by decide +kernel⟩ (by decide)
    | further + 4 => simp
  · intro field
    rw [complete.2.2.2 rfl field, ← field.issues_ne_nil_iff]
    cases field <;> decide +kernel

end ImageCatalog.Config
