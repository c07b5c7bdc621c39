import ImageCatalog.Config.Basic
import ImageCatalog.Config.FieldCheck
import ImageCatalog.Text.Blank
import ImageCatalog.Text.Letter

/-!
# Validation

`checkDescription` turns a document into the description of an image service or reports everything
that is wrong with it, in the order of the fields: the shared fields of a parameter come before
those of its kind, and a rule about several fields is checked only if each of them is in order.

The main entry points are `Config.validate`, which gives the report on a document, and
`Config.build`, which gives a description its name and category or fails with the same lines.
-/

namespace ImageCatalog.Config

open Checked Number Text

/-- The fields that all parameters share. -/
structure SharedFields where
  name : Option String
  label : String
  enabled : Bool

/-- Check the fields that all parameters share. -/
def checkShared (record : Value) : Checked SharedFields :=
  SharedFields.mk <$> optional "name" none (nullable checkText) record <*>
    optional "friendly_name" "" checkText record <*>
    optional "enable" true checkFlag record

/-- A parameter of a kind that is given by its fields and by the rules that span several of them. -/
def checkOfKind {Fields : Type} (checkFields : Value → Checked Fields)
    (checkRules : Fields → Checked Kind) (record : Value) : Checked Parameter :=
  andThen (Prod.mk <$> checkShared record <*> checkFields record) fun (shared, fields) =>
    (checkRules fields).map fun kind => ⟨shared.name, shared.label, shared.enabled, kind⟩

/-- The value and the bounds of a number as they stand in a document. -/
structure NumberFields where
  value : Option Quantity
  least : Option Quantity
  greatest : Option Quantity

/-- Check the fields of a number. -/
def checkNumberFields (record : Value) : Checked NumberFields :=
  NumberFields.mk <$> optional "value" none (nullable checkNumber) record <*>
    optional "min_value" none (nullable checkNumber) record <*>
    optional "max_value" none (nullable checkNumber) record

/-- The report on bounds that cross. -/
def crossedBounds (least greatest : Quantity) : Cause :=
  match least.print, greatest.print with
  | .ok low, .ok high => .boundsCrossed low high
  | .error overflow, _ => .boundsUnprintable overflow
  | _, .error overflow => .boundsUnprintable overflow

/-- A number, provided that its bounds do not cross. -/
def checkBounds (fields : NumberFields) : Checked Kind :=
  if ordered : ∀ low ∈ fields.least, ∀ high ∈ fields.greatest, high.isLess low = false then
    .valid (.number ⟨fields.value, fields.least, fields.greatest, ordered⟩)
  else
    match fields.least, fields.greatest with
    | some low, some high => fail (crossedBounds low high)
    | _, _ => fail .notReal

/-- The options and labels of a choice as they stand in a document. -/
structure ChoiceFields where
  options : { options : List Value // options ≠ [] }
  labels : Option (List String)

/-- Check the options of a choice, of which there is at least one. -/
def checkOptions (value : Value) : Checked { options : List Value // options ≠ [] } :=
  (checkList .valid value).andThen fun options =>
    if nonempty : options ≠ [] then .valid ⟨options, nonempty⟩ else fail .emptyList

/-- Check the fields of a choice. -/
def checkChoiceFields (record : Value) : Checked ChoiceFields :=
  ChoiceFields.mk <$> required "value" checkOptions record <*>
    optional "friendly_value" none (nullable (checkList checkText)) record

/-- A choice, provided that it has as many labels as options. -/
def checkLabels (fields : ChoiceFields) : Checked Kind :=
  if labelled : ∀ texts ∈ fields.labels, texts.length = fields.options.val.length then
    .valid (.choice ⟨fields.options.val, fields.labels, fields.options.property, labelled⟩)
  else fail .labelCount

/-- Check the fields of a list. -/
def checkListFields (record : Value) : Checked ListField :=
  ListField.mk <$> optional "value" [] (checkList checkText) record <*>
    optional "split_str" none (nullable checkText) record

/-- Check a parameter of a known kind. -/
def checkParameterOf : KindName → Value → Checked Parameter
  | .number => checkOfKind checkNumberFields checkBounds
  | .flag => checkOfKind (optional "value" none (nullable checkFlag)) fun value =>
      .valid (.flag value)
  | .choice => checkOfKind checkChoiceFields checkLabels
  | .text => checkOfKind (optional "value" none (nullable checkText)) fun value =>
      .valid (.text value)
  | .list => checkOfKind checkListFields fun field => .valid (.list field)

/-- The text of a tag in reports. -/
def printTag (tag : Value) : String :=
  match tag.print with
  | .ok chars => replaceHalves chars
  | .error _ => "<unprintable " ++ tag.kindName ++ " object>"

/-- Check a parameter. -/
def checkParameter (value : Value) : Checked Parameter :=
  if !isRecord value then fail .notParameter
  else
    match field? "type" value with
    | none => fail .tagMissing
    | some tag =>
      match tag.text?.bind KindName.ofTag? with
      | none => fail (.tagUnknown (printTag tag))
      | some kind => under (.field kind.tag) (checkParameterOf kind value)

/-- Check a content type. -/
def checkContentType (value : Value) : Checked ContentType :=
  match value.text?.bind ContentType.ofTag? with
  | some contentType => .valid contentType
  | none => fail (if value.text?.all isWhole then .notContentType else .textUndecodable)

/-- Check the description of where the images are. -/
def checkImage (value : Value) : Checked ImageDescriptor :=
  if isRecord value then
    ImageDescriptor.mk <$> required "content_type" checkContentType value <*>
      optional "path" none (nullable checkText) value
  else fail (.notInstance .image)

/-- Check the description of an answer. -/
def checkResponse (value : Value) : Checked ImageDescriptor :=
  if isRecord value then required "image" checkImage value
  else fail (.notInstance .response)

/-- Check the address of a service; blanks around it do not count. -/
def checkLink (value : Value) : Checked String :=
  (checkText value).andThen fun link =>
    if isBlankText link then fail .linkEmpty else .valid (strip link)

/-- Check the HTTP method of a service; blanks around it do not count. -/
def checkVerb (value : Value) : Checked String :=
  (checkText value).andThen fun verb =>
    let trimmed := strip verb
    if !trimmed.isEmpty && trimmed.toList.all isLetter then .valid trimmed
    else fail (.methodInvalid (Quoted.quote verb))

/-- Check the description of a service. -/
def checkDescription (document : Value) : Checked Description :=
  if isRecord document then
    Description.mk <$> required "friendly_name" checkText document <*>
      optional "intro" "" checkText document <*>
      optional "icon" none (nullable checkText) document <*>
      required "link" checkLink document <*>
      required "func" checkVerb document <*>
      optional "parameters" [] (checkList checkParameter) document <*>
      required "response" checkResponse document
  else fail (.notInstance .content)

/-- Check a document that was read from a file or an answer, which must be an object. -/
def checkDocument (document : Value) : Checked Description :=
  if isRecord document then checkDescription document
  else fail (.notObject document.kindName)

/-- Check the document of a whole configuration, in which the name and the category stand beside the
description. -/
def checkConfig (document : Value) : Checked Config :=
  if isRecord document then
    Config.mk <$> required "name" checkText document <*>
      required "category" checkText document <*>
      required "content" checkDescription document
  else fail (.notInstance .config)

/-- Whether a document describes a service, and the report on it. -/
def validate (document : Value) : Bool × List String :=
  match checkDocument document with
  | .valid _ => (true, [])
  | .invalid first others => (false, (first :: others).map Issue.line)

/-- The lines of the report on a document; there are none exactly if it describes a service. -/
def report (document : Value) : List String :=
  (validate document).2

/-- A document that describes no service: where it came from, and the report on it. -/
structure Invalid where
  source : String
  lines : List String
deriving DecidableEq, Repr

/-- What is reported about a document that describes no service. -/
def Invalid.message (failure : Invalid) : String :=
  "Invalid API config " ++ failure.source ++ ": " ++ joinText "; " failure.lines

/-- The configuration of a document, under a name and in a category. -/
def build (document : Value) (name category : String) : Except Invalid Config :=
  match checkDocument document with
  | .valid description => .ok ⟨name, category, description⟩
  | .invalid first others => .error ⟨name, (first :: others).map Issue.line⟩

end ImageCatalog.Config
