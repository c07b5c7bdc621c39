import ImageCatalog.Config.Validation
import ImageCatalog.Proofs.Number.Limit
import ImageCatalog.Proofs.Value.Rendering

/-!
# What a document gives its parameters

Every part of a check that succeeds has succeeded, and each of the lemmas on checks says what that
means for one way of combining them. The defaults of a parameter and the options of a choice come
from the document: if the document has a JSON text, so have they.
-/

namespace ImageCatalog.Config

open Number Text

/-! ## Checks that succeed -/

namespace Checked

variable {Source Result : Type}

theorem map_valid {change : Source → Result} {check : Checked Source} {result : Result}
    (valid : check.map change = .valid result) :
    ∃ source, check = .valid source ∧ change source = result := by
  cases check with
  | invalid first others => cases valid
  | valid source =>
      cases valid
      exact ⟨source, rfl, rfl⟩

theorem seq_valid {change : Checked (Source → Result)} {check : Checked Source} {result : Result}
    (valid : change <*> check = .valid result) :
    ∃ function source, change = .valid function ∧ check = .valid source ∧
      function source = result := by
  cases change with
  | invalid first others => cases check <;> cases valid
  | valid function =>
      cases check with
      | invalid first others => cases valid
      | valid source =>
          cases valid
          exact ⟨function, source, rfl, rfl, rfl⟩

theorem andThen_valid {check : Checked Source} {next : Source → Checked Result} {result : Result}
    (valid : check.andThen next = .valid result) :
    ∃ source, check = .valid source ∧ next source = .valid result := by
  cases check with
  | invalid first others => cases valid
  | valid source => exact ⟨source, rfl, valid⟩

theorem under_valid {part : Part} {check : Checked Result} {result : Result}
    (valid : check.under part = .valid result) : check = .valid result := by
  cases check with
  | invalid first others => cases valid
  | valid source =>
      cases valid
      rfl

theorem items_valid {check : Source → Checked Result} {list : List Source} {results : List Result}
    (valid : items check list = .valid results) {result : Result} (member : result ∈ results) :
    ∃ item ∈ list, check item = .valid result := by
  unfold items at valid
  generalize 0 = index at valid
  induction list generalizing index results with
  | nil =>
      cases valid
      cases member
  | cons item rest hypothesis =>
      rcases seq_valid valid with ⟨function, others, first, later, rfl⟩
      rcases map_valid first with ⟨head, checked, rfl⟩
      rcases List.mem_cons.mp member with rfl | further
      · exact ⟨item, List.mem_cons_self, under_valid checked⟩
      · rcases hypothesis further _ later with ⟨other, otherMem, found⟩
        exact ⟨other, List.mem_cons_of_mem item otherMem, found⟩

theorem required_valid {name : String} {check : Value → Checked Result} {record : Value}
    {result : Result} (valid : required name check record = .valid result) :
    ∃ content, field? name record = some content ∧ check content = .valid result := by
  have found := under_valid valid
  split at found
  · next content there => exact ⟨content, there, found⟩
  · cases found

theorem optional_valid {name : String} {fallback : Result} {check : Value → Checked Result}
    {record : Value} {result : Result}
    (valid : optional name fallback check record = .valid result) :
    result = fallback ∨
      ∃ content, field? name record = some content ∧ check content = .valid result := by
  unfold optional at valid
  split at valid
  · next content there => exact .inr ⟨content, there, under_valid valid⟩
  · cases valid
    exact .inl rfl

theorem nullable_valid {check : Value → Checked Result} {value : Value} {result : Option Result}
    (valid : nullable check value = .valid result) :
    ∀ inner ∈ result, check value = .valid inner := by
  intro inner given
  unfold nullable at valid
  split at valid
  · cases valid
    cases given
  · rcases map_valid valid with ⟨source, checked, rfl⟩
    cases given
    exact checked

end Checked

open Checked

/-! ## Fields of documents with a JSON text -/

theorem isWritable_of_field? {record content : Value} (writable : record.IsWritable) {name : String}
    (found : field? name record = some content) : content.IsWritable := by
  cases writable with
  | object fields each => exact each _ (Entries.mem_of_find? found)
  | mapping entries keys contents =>
      rcases Option.map_eq_some_iff.mp found with ⟨entry, there, rfl⟩
      exact contents entry (List.mem_of_find?_eq_some there)
  | _ => cases found

theorem isWritable_of_checkList {Result : Type} {check : Value → Checked Result} {value : Value}
    (writable : value.IsWritable) {results : List Result}
    (valid : checkList check value = .valid results) {result : Result} (member : result ∈ results) :
    ∃ item : Value, item.IsWritable ∧ check item = .valid result := by
  cases writable with
  | list items each =>
      rcases items_valid valid member with ⟨item, itemMem, checked⟩
      exact ⟨item, each item itemMem, checked⟩
  | pair first second left right =>
      rcases items_valid valid member with ⟨item, itemMem, checked⟩
      rcases List.mem_pair.mp itemMem with rfl | rfl
      · exact ⟨item, left, checked⟩
      · exact ⟨item, right, checked⟩
  | _ => cases valid

theorem isWritable_of_checkNumberText {chars : String} {number : Quantity}
    (valid : checkNumberText chars = .valid number) : (quantityValue number).IsWritable := by
  unfold checkNumberText at valid
  split at valid
  · split at valid
    · next whole read =>
        cases valid
        exact .int whole (natAbs_lt_of_readFieldWhole read)
    all_goals
      split at valid
      · cases valid
        exact .float _
      · cases valid
  · cases valid

theorem isWritable_of_checkNumber {value : Value} (writable : value.IsWritable) {number : Quantity}
    (valid : checkNumber value = .valid number) : (quantityValue number).IsWritable := by
  cases writable with
  | bool flag =>
      cases valid
      have many : 1 < Nat.pow 10 digitLimit := by
        rw [Nat.pow_eq]
        exact Nat.one_lt_pow (by decide) (by decide)
      cases flag
      · exact .int 0 (Nat.lt_of_succ_lt many)
      · exact .int 1 many
  | int whole short =>
      cases valid
      exact .int whole short
  | float real =>
      cases valid
      exact .float real
  | text chars => exact isWritable_of_checkNumberText valid
  | _ => cases valid

/-! ## Parameters -/

/-- The default of a number and the options of a choice have JSON texts. -/
def Parameter.IsPlain (parameter : Parameter) : Prop :=
  match parameter.kind with
  | .number field => ∀ number ∈ field.value, (quantityValue number).IsWritable
  | .choice field => ∀ option ∈ field.options, option.IsWritable
  | _ => True

theorem checkOfKind_valid {Fields : Type} {checkFields : Value → Checked Fields}
    {checkRules : Fields → Checked Kind} {record : Value} {parameter : Parameter}
    (valid : checkOfKind checkFields checkRules record = .valid parameter) :
    ∃ fields, checkFields record = .valid fields ∧ checkRules fields = .valid parameter.kind := by
  rcases andThen_valid valid with ⟨⟨shared, fields⟩, both, ruled⟩
  rcases seq_valid both with ⟨function, others, first, checked, joined⟩
  rcases map_valid first with ⟨source, _, rfl⟩
  cases joined
  rcases map_valid ruled with ⟨kind, rules, rfl⟩
  exact ⟨fields, checked, rules⟩

theorem checkBounds_valid {fields : NumberFields} {kind : Kind}
    (valid : checkBounds fields = .valid kind) :
    ∃ field, kind = .number field ∧ field.value = fields.value := by
  unfold checkBounds at valid
  split at valid
  · cases valid
    exact ⟨_, rfl, rfl⟩
  · split at valid <;> cases valid

theorem checkLabels_valid {fields : ChoiceFields} {kind : Kind}
    (valid : checkLabels fields = .valid kind) :
    ∃ field, kind = .choice field ∧ field.options = fields.options.val := by
  unfold checkLabels at valid
  split at valid
  · cases valid
    exact ⟨_, rfl, rfl⟩
  · cases valid

variable {record : Value} {parameter : Parameter}

theorem isPlain_of_number (writable : record.IsWritable)
    (valid : checkOfKind checkNumberFields checkBounds record = .valid parameter) :
    parameter.IsPlain := by
  rcases checkOfKind_valid valid with ⟨fields, checked, rules⟩
  rcases checkBounds_valid rules with ⟨field, kind, same⟩
  rcases seq_valid checked with ⟨withGreatest, greatest, toLeast, _, rfl⟩
  rcases seq_valid toLeast with ⟨withLeast, least, toDefault, _, rfl⟩
  rcases map_valid toDefault with ⟨default, defaulted, rfl⟩
  simp only [Parameter.IsPlain, kind]
  rw [same]
  intro number given
  rcases optional_valid defaulted with rfl | ⟨content, found, nullable⟩
  · cases given
  · exact isWritable_of_checkNumber (isWritable_of_field? writable found)
      (nullable_valid nullable number given)

theorem isPlain_of_choice (writable : record.IsWritable)
    (valid : checkOfKind checkChoiceFields checkLabels record = .valid parameter) :
    parameter.IsPlain := by
  rcases checkOfKind_valid valid with ⟨fields, checked, rules⟩
  rcases checkLabels_valid rules with ⟨field, kind, same⟩
  rcases seq_valid checked with ⟨withLabels, labels, toOptions, _, rfl⟩
  rcases map_valid toOptions with ⟨options, offered, rfl⟩
  simp only [Parameter.IsPlain, kind]
  rw [same]
  intro option member
  rcases required_valid offered with ⟨content, found, listed⟩
  rcases andThen_valid listed with ⟨values, members, nonempty⟩
  split at nonempty
  · cases nonempty
    rcases isWritable_of_checkList (isWritable_of_field? writable found) members member with
      ⟨item, itemWritable, same⟩
    cases same
    exact itemWritable
  · cases nonempty

theorem isPlain_of_other {Fields : Type} {checkFields : Value → Checked Fields}
    {make : Fields → Kind}
    (valid : checkOfKind checkFields (fun fields => .valid (make fields)) record =
      .valid parameter)
    (other : ∀ fields, (make fields).name ≠ .number ∧ (make fields).name ≠ .choice) :
    parameter.IsPlain := by
  rcases checkOfKind_valid valid with ⟨fields, _, rules⟩
  have same : make fields = parameter.kind := Checked.valid.inj rules
  have neither := other fields
  rw [same] at neither
  unfold Parameter.IsPlain
  split
  · next kind => simp [kind, Kind.name] at neither
  · next kind => simp [kind, Kind.name] at neither
  · trivial

theorem isPlain_of_checkParameter (writable : record.IsWritable)
    (valid : checkParameter record = .valid parameter) : parameter.IsPlain := by
  unfold checkParameter at valid
  split at valid
  · cases valid
  · split at valid
    · cases valid
    · split at valid
      · cases valid
      · next kind _ =>
          have checked := under_valid valid
          cases kind with
          | number => exact isPlain_of_number writable checked
          | choice => exact isPlain_of_choice writable checked
          | flag => exact isPlain_of_other checked fun fields => ⟨nofun, nofun⟩
          | text => exact isPlain_of_other checked fun fields => ⟨nofun, nofun⟩
          | list => exact isPlain_of_other checked fun fields => ⟨nofun, nofun⟩

/-- A document with a JSON text describes plain parameters only. -/
theorem isPlain_of_checkDocument {document : Value} (writable : document.IsWritable)
    {description : Description} (valid : checkDocument document = .valid description) :
    ∀ parameter ∈ description.parameters, parameter.IsPlain := by
  intro parameter member
  by_cases whole : isRecord document = true
  · rw [checkDocument, if_pos whole, checkDescription, if_pos whole] at valid
    rcases seq_valid valid with ⟨withImage, image, toParameters, _, rfl⟩
    rcases seq_valid toParameters with ⟨withParameters, parameters, toVerb, checked, rfl⟩
    rcases seq_valid toVerb with ⟨withVerb, verb, toLink, _, rfl⟩
    rcases seq_valid toLink with ⟨withLink, link, toIcon, _, rfl⟩
    rcases seq_valid toIcon with ⟨withIcon, icon, toIntro, _, rfl⟩
    rcases seq_valid toIntro with ⟨withIntro, intro, toTitle, _, rfl⟩
    rcases map_valid toTitle with ⟨title, _, rfl⟩
    rcases optional_valid checked with rfl | ⟨content, found, listed⟩
    · cases member
    · rcases isWritable_of_checkList (isWritable_of_field? writable found) listed member with
        ⟨item, itemWritable, itemChecked⟩
      exact isPlain_of_checkParameter itemWritable itemChecked
  · rw [checkDocument, if_neg whole] at valid
    cases valid

end ImageCatalog.Config
