import ImageCatalog.Config.Document
import ImageCatalog.Config.Validation
import ImageCatalog.Proofs.Config.Defaults

/-!
# Rebuilding configurations

The document that a configuration is written as is in order, and the configuration that it describes
is the same one. Documents are read leniently, but each field of a configuration is written in a
form that is taken as it stands: a number as a number, a flag as a flag, and texts that were trimmed
have nothing left to trim.
-/

namespace ImageCatalog.Config

open Checked Number Text

/-! ## Checks that take a value back -/

namespace Checked

variable {Source Result : Type} {name : String} {record content : Value} {result : Result}

theorem required_of_found {check : Value → Checked Result}
    (found : field? name record = some content) (valid : check content = .valid result) :
    required name check record = .valid result := by
  simp only [required, found, valid, under]

theorem optional_of_found {fallback : Result} {check : Value → Checked Result}
    (found : field? name record = some content) (valid : check content = .valid result) :
    optional name fallback check record = .valid result := by
  simp only [optional, found, valid, under]

/-- The check takes back every value that is written by the given function, none of them null. -/
structure TakesBack (check : Value → Checked Result) (make : Result → Value) : Prop where
  valid : ∀ result, check (make result) = .valid result
  notNull : ∀ result, make result ≠ .null

theorem TakesBack.nullable {check : Value → Checked Result} {make : Result → Value}
    (takesBack : TakesBack check make) (result : Option Result) :
    nullable check (optionalValue make result) = .valid result := by
  cases result with
  | none => rfl
  | some inner =>
      unfold Checked.nullable optionalValue
      split
      · next null => exact absurd null (takesBack.notNull inner)
      · rw [takesBack.valid inner]
        rfl

theorem items_map {check : Source → Checked Result} {make : Result → Source} {results : List Result}
    (valid : ∀ result ∈ results, check (make result) = .valid result) :
    items check (results.map make) = .valid results := by
  unfold items
  generalize 0 = index
  induction results generalizing index with
  | nil => rfl
  | cons result rest hypothesis =>
      rw [List.forall_mem_cons] at valid
      rw [List.map_cons, itemsFrom, valid.1, hypothesis valid.2]
      rfl

end Checked

theorem takesBack_text : TakesBack checkText .text :=
  ⟨fun _ => rfl, nofun⟩

theorem takesBack_flag : TakesBack checkFlag .bool :=
  ⟨fun _ => rfl, nofun⟩

theorem takesBack_number : TakesBack checkNumber quantityValue := by
  constructor
  · rintro (number | number) <;> rfl
  · rintro (number | number) <;> nofun

theorem takesBack_texts :
    TakesBack (checkList checkText) fun texts => .list (texts.map .text) :=
  ⟨fun _ => items_map fun text _ => takesBack_text.valid text, nofun⟩

/-! ## Parameters -/

section Parameters

variable {parameter : Parameter}

theorem checkShared_toValue :
    checkShared parameter.toValue =
      .valid ⟨parameter.name, parameter.label, parameter.enabled⟩ := by
  rw [checkShared, optional_of_found rfl (takesBack_text.nullable parameter.name),
    optional_of_found rfl (takesBack_text.valid parameter.label),
    optional_of_found rfl (takesBack_flag.valid parameter.enabled)]
  rfl

theorem checkOfKind_toValue {Fields : Type} {checkFields : Value → Checked Fields}
    {checkRules : Fields → Checked Kind} {fields : Fields}
    (checked : checkFields parameter.toValue = .valid fields)
    (rules : checkRules fields = .valid parameter.kind) :
    checkOfKind checkFields checkRules parameter.toValue = .valid parameter := by
  rw [checkOfKind, checkShared_toValue, checked]
  exact congrArg (Checked.map _) rules

theorem checkBounds_kind (field : NumberField) :
    checkBounds ⟨field.value, field.least, field.greatest⟩ = .valid (.number field) :=
  dif_pos field.ordered

theorem checkLabels_kind (field : ChoiceField) :
    checkLabels ⟨⟨field.options, field.nonempty⟩, field.labels⟩ = .valid (.choice field) :=
  dif_pos field.labelled

theorem checkNumberFields_toValue {field : NumberField}
    (isNumber : parameter.kind = .number field) :
    checkNumberFields parameter.toValue =
      .valid ⟨field.value, field.least, field.greatest⟩ := by
  rcases parameter with ⟨name, label, enabled, kind⟩
  cases isNumber
  rw [checkNumberFields, optional_of_found rfl (takesBack_number.nullable field.value),
    optional_of_found rfl (takesBack_number.nullable field.least),
    optional_of_found rfl (takesBack_number.nullable field.greatest)]
  rfl

theorem checkOptions_list {options : List Value} (nonempty : options ≠ []) :
    checkOptions (.list options) = .valid ⟨options, nonempty⟩ := by
  have each : items .valid options = .valid options := by
    have same : items .valid (options.map id) = .valid options := items_map fun _ _ => rfl
    rwa [List.map_id] at same
  simp only [checkOptions, checkList, each, andThen, dif_pos nonempty]

theorem checkChoiceFields_toValue {field : ChoiceField}
    (isChoice : parameter.kind = .choice field) :
    checkChoiceFields parameter.toValue =
      .valid ⟨⟨field.options, field.nonempty⟩, field.labels⟩ := by
  rcases parameter with ⟨name, label, enabled, kind⟩
  cases isChoice
  rw [checkChoiceFields, required_of_found rfl (checkOptions_list field.nonempty),
    optional_of_found rfl (takesBack_texts.nullable field.labels)]
  rfl

theorem checkListFields_toValue {field : ListField} (isList : parameter.kind = .list field) :
    checkListFields parameter.toValue = .valid field := by
  rcases parameter with ⟨name, label, enabled, kind⟩
  cases isList
  rw [checkListFields, optional_of_found rfl (takesBack_texts.valid field.items),
    optional_of_found rfl (takesBack_text.nullable field.separator)]
  rfl

theorem checkParameterOf_toValue :
    checkParameterOf parameter.kind.name parameter.toValue = .valid parameter := by
  rcases parameter with ⟨name, label, enabled, kind⟩
  cases kind <;> simp only [Kind.name, checkParameterOf]
  case number field =>
      exact checkOfKind_toValue (checkNumberFields_toValue rfl) (checkBounds_kind field)
  case flag value =>
      apply checkOfKind_toValue
      · exact optional_of_found rfl (takesBack_flag.nullable value)
      · rfl
  case choice field =>
      exact checkOfKind_toValue (checkChoiceFields_toValue rfl) (checkLabels_kind field)
  case text value =>
      apply checkOfKind_toValue
      · exact optional_of_found rfl (takesBack_text.nullable value)
      · rfl
  case list field =>
      apply checkOfKind_toValue
      · exact checkListFields_toValue rfl
      · rfl

/-- Every parameter is in order as it is written. -/
theorem checkParameter_toValue (parameter : Parameter) :
    checkParameter parameter.toValue = .valid parameter := by
  have tagged (kind : KindName) : KindName.ofTag? kind.tag = some kind := by
    cases kind <;> decide
  have kind : (Value.text parameter.kind.name.tag).text?.bind KindName.ofTag? =
      some parameter.kind.name := tagged _
  have type : field? "type" parameter.toValue = some (.text parameter.kind.name.tag) := rfl
  have record : isRecord parameter.toValue = true := rfl
  simp only [checkParameter, record, type, kind, checkParameterOf_toValue, under]
  rfl

end Parameters

theorem takesBack_parameters :
    TakesBack (checkList checkParameter) fun parameters =>
      .list (parameters.map Parameter.toValue) :=
  ⟨fun _ => items_map fun parameter _ => checkParameter_toValue parameter, nofun⟩

/-! ## Descriptions -/

theorem checkImage_toValue (image : ImageDescriptor) :
    checkImage image.toValue = .valid image := by
  have tagged : checkContentType (.text image.contentType.tag) = .valid image.contentType := by
    cases image.contentType <;> rfl
  have record : isRecord image.toValue = true := rfl
  rw [checkImage, if_pos record, required_of_found rfl tagged,
    optional_of_found rfl (takesBack_text.nullable image.path)]
  rfl

theorem checkResponse_toValue (image : ImageDescriptor) :
    checkResponse (.object [("image", image.toValue)]) = .valid image := by
  have record : isRecord (.object [("image", image.toValue)]) = true := rfl
  rw [checkResponse, if_pos record]
  exact required_of_found rfl (checkImage_toValue image)

/-- The description is trimmed: its address and its method are in order as they stand. -/
structure Description.IsTrimmed (description : Description) : Prop where
  link : checkLink (.text description.link) = .valid description.link
  verb : checkVerb (.text description.verb) = .valid description.verb

theorem checkDescription_toValue {description : Description} (trimmed : description.IsTrimmed) :
    checkDescription description.toValue = .valid description := by
  have record : isRecord description.toValue = true := rfl
  rw [checkDescription, if_pos record,
    required_of_found rfl (takesBack_text.valid description.title),
    optional_of_found rfl (takesBack_text.valid description.intro),
    optional_of_found rfl (takesBack_text.nullable description.icon),
    required_of_found rfl trimmed.link, required_of_found rfl trimmed.verb,
    optional_of_found rfl (takesBack_parameters.valid description.parameters),
    required_of_found rfl (checkResponse_toValue description.image)]
  rfl

theorem strip_strip (text : String) : strip (strip text) = strip text := by
  rw [strip, strip, String.toList_ofList, trim, trim, trimBy_trimBy]

theorem isBlankText_strip {text : String} (filled : isBlankText text = false) :
    isBlankText (strip text) = false := by
  rcases List.all_eq_false.mp filled with ⟨char, member, outside⟩
  apply List.all_eq_false.mpr
  refine ⟨char, ?_, outside⟩
  rw [strip, String.toList_ofList]
  exact (mem_trimBy_iff (Bool.eq_false_iff.mpr outside) _).mpr member

theorem checkLink_text_of_valid {value : Value} {link : String}
    (valid : checkLink value = .valid link) : checkLink (.text link) = .valid link := by
  rcases andThen_valid valid with ⟨text, _, settled⟩
  split at settled
  · cases settled
  · next filled =>
      cases settled
      have kept := isBlankText_strip (Bool.eq_false_iff.mpr filled)
      simp [checkLink, checkText, andThen, kept, strip_strip]

theorem checkVerb_text_of_valid {value : Value} {verb : String}
    (valid : checkVerb value = .valid verb) : checkVerb (.text verb) = .valid verb := by
  rcases andThen_valid valid with ⟨text, _, settled⟩
  simp only at settled
  split at settled
  · next letters =>
      cases settled
      simp only [checkVerb, checkText, andThen, strip_strip]
      exact if_pos letters
  · cases settled

theorem isTrimmed_of_checkDocument {document : Value} {description : Description}
    (valid : checkDocument document = .valid description) : description.IsTrimmed := by
  unfold checkDocument at valid
  split at valid
  · next record =>
      rw [checkDescription, if_pos record] at valid
      rcases seq_valid valid with ⟨withImage, image, toParameters, _, rfl⟩
      rcases seq_valid toParameters with ⟨withParameters, parameters, toVerb, _, rfl⟩
      rcases seq_valid toVerb with ⟨withVerb, verb, toLink, verbChecked, rfl⟩
      rcases seq_valid toLink with ⟨withLink, link, toIcon, linkChecked, rfl⟩
      rcases seq_valid toIcon with ⟨withIcon, icon, toIntro, _, rfl⟩
      rcases seq_valid toIntro with ⟨withIntro, intro, toTitle, _, rfl⟩
      rcases map_valid toTitle with ⟨title, _, rfl⟩
      rcases required_valid linkChecked with ⟨linkValue, _, linkValid⟩
      rcases required_valid verbChecked with ⟨verbValue, _, verbValid⟩
      exact ⟨checkLink_text_of_valid linkValid, checkVerb_text_of_valid verbValid⟩
  · cases valid

/-! ## Configurations -/

theorem checkConfig_toValue {config : Config} (trimmed : config.description.IsTrimmed) :
    checkConfig (toValue config) = .valid config := by
  have record : isRecord (toValue config) = true := rfl
  rw [checkConfig, if_pos record, required_of_found rfl (takesBack_text.valid config.name),
    required_of_found rfl (takesBack_text.valid config.category),
    required_of_found rfl (checkDescription_toValue trimmed)]
  rfl

/-- A configuration that is built from a document is built again from the document that its
description is written as, and is the result of the check on the document that it is written as
itself. -/
theorem build_toValue {document : Value} {name category : String} {config : Config}
    (built : build document name category = .ok config) :
    build config.description.toValue name category = .ok config ∧
      checkConfig (toValue config) = .valid config := by
  unfold build at built
  split at built
  · next description valid =>
      cases built
      have trimmed := isTrimmed_of_checkDocument valid
      have record : isRecord description.toValue = true := rfl
      refine ⟨?_, checkConfig_toValue trimmed⟩
      rw [build, checkDocument, if_pos record, checkDescription_toValue trimmed]
  · cases built

/-- A document that is in order although none of its fields is in the form that it is written in. -/
def looseDocument : Value :=
  .object
    [("func", .text " get\n"), ("link", .text "\thttps://h.test/i "),
      ("friendly_name", .bytes [0x66]),
      ("parameters", .pair
        (.object [("type", .text "integer"), ("enable", .float (.finite (.signedZero false))),
          ("value", .text " +1_0.50 "), ("min_value", .bool true),
          ("max_value", .float .notANumber)])
        (.object [("type", .text "boolean"), ("enable", .text "Off"), ("value", .int 1)])),
      ("response", .mapping [(.bytes [], .null), (.text "image", .object
        [("content_type", .text "URL"), ("path", .bytes [0x2A])])])]

theorem build_toValue_loose :
    ∃ config, build looseDocument "a" "b" = .ok config ∧
      build config.description.toValue "a" "b" = .ok config ∧
      checkConfig (toValue config) = .valid config := by
  have accepted : (build looseDocument "a" "b").toOption.isSome = true := by decide +kernel
  cases built : build looseDocument "a" "b" with
  | error report =>
      rw [built] at accepted
      cases accepted
  | ok config => exact ⟨config, rfl, build_toValue built⟩

end ImageCatalog.Config
