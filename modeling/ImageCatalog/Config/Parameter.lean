import ImageCatalog.Number.Quantity
import ImageCatalog.Value.Print

/-!
# Parameters

A parameter of an image service is a number, a flag, a choice, a text or a list of texts. One with a
name is sent under it; one without is positional. What its kind promises is part of the type: a
choice has at least one option and as many labels as options, and the bounds of a number do not
cross.
-/

namespace ImageCatalog.Config

open Number Text

/-- A number with optional bounds. -/
structure NumberField where
  value : Option Quantity
  least : Option Quantity
  greatest : Option Quantity
  ordered : ∀ low ∈ least, ∀ high ∈ greatest, high.isLess low = false

/-- A choice between options, with a label for each if labels are given. -/
structure ChoiceField where
  options : List Value
  labels : Option (List String)
  nonempty : options ≠ []
  labelled : ∀ texts ∈ labels, texts.length = options.length

/-- A list of texts, with the text that separates them on the wire if it is given. -/
structure ListField where
  items : List String
  separator : Option String

/-- The kind of a parameter with its default. -/
inductive Kind
  | number (field : NumberField)
  | flag (value : Option Bool)
  | choice (field : ChoiceField)
  | text (value : Option String)
  | list (field : ListField)

/-- A parameter of an image service. -/
structure Parameter where
  name : Option String
  label : String
  enabled : Bool
  kind : Kind

/-- The separator of lists that declare none. -/
def defaultSeparator : String := "|"

/-- The separator of a list: the declared one, unless it is empty. -/
def ListField.separatorText (field : ListField) : String :=
  match field.separator with
  | none => defaultSeparator
  | some text => if text.isEmpty then defaultSeparator else text

/-- The texts that stand for the options of a choice: its labels, or the printed options. -/
def ChoiceField.optionLabels (field : ChoiceField) : Except DigitOverflow (List String) :=
  match field.labels with
  | some texts => .ok texts
  | none => field.options.mapM Value.print

/-- The first option of a choice. -/
def ChoiceField.firstOption (field : ChoiceField) : Value :=
  field.options.head field.nonempty

/-- The kinds of parameters, without their fields. -/
inductive KindName
  | number
  | flag
  | choice
  | text
  | list
deriving DecidableEq, Repr

/-- The word for a kind in documents. -/
def KindName.tag : KindName → String
  | .number => "integer"
  | .flag => "boolean"
  | .choice => "enum"
  | .text => "string"
  | .list => "list"

/-- The kind of a word. -/
def KindName.ofTag? (tag : String) : Option KindName :=
  [number, flag, choice, text, list].find? fun kind => kind.tag == tag

/-- The kind of a parameter without its fields. -/
def Kind.name : Kind → KindName
  | .number _ => .number
  | .flag _ => .flag
  | .choice _ => .choice
  | .text _ => .text
  | .list _ => .list

namespace Parameter

/-- The name under which a parameter is sent. -/
def sentName? (parameter : Parameter) : Option String :=
  parameter.name.filter fun name => !name.isEmpty

/-- Whether a parameter is sent by its position. -/
def isPositional (parameter : Parameter) : Bool :=
  parameter.sentName?.isNone

end Parameter

/-- A quantity as a value. -/
def quantityValue : Quantity → Value
  | .whole number => .int number
  | .real number => .float number

/-- A value that may be missing. -/
def optionalValue {Content : Type} (make : Content → Value) : Option Content → Value
  | none => .null
  | some content => make content

/-- The value that a parameter starts with. -/
def Parameter.defaultValue (parameter : Parameter) : Value :=
  match parameter.kind with
  | .number field => optionalValue quantityValue field.value
  | .flag value => optionalValue .bool value
  | .choice field => field.firstOption
  | .text value => optionalValue .text value
  | .list field => .list (field.items.map .text)

end ImageCatalog.Config
