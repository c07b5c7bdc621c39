import ImageCatalog.Text.Digit
import ImageCatalog.Text.Split

/-!
# What can be wrong with a document

An `Issue` says where in a document something is wrong and what it is. The place is a row of field
names and item numbers from the root; the cause is one of a fixed list. `Issue.line` is the line
that a report shows.
-/

namespace ImageCatalog.Config

open Text

/-- The models that a document is checked against, where an object is expected. -/
inductive Model
  | config
  | content
  | response
  | image
deriving DecidableEq, Repr

/-- What a model is called in reports. -/
def Model.name : Model → String
  | .config => "ApiConfig"
  | .content => "ApiConfigContent"
  | .response => "ResponseDescriptor"
  | .image => "ImageDescriptor"

/-- What is wrong at one place of a document. -/
inductive Cause
  | notObject (kind : String)
  | notInstance (model : Model)
  | notParameter
  | missing
  | notText
  | textUndecodable
  | notList
  | emptyList
  | notFlag
  | flagUnreadable
  | notWhole
  | wholeUnreadable
  | wholeTooLong
  | notReal
  | realUnreadable
  | notContentType
  | tagMissing
  | tagUnknown (tag : String)
  | linkEmpty
  | methodInvalid (quoted : String)
  | labelCount
  | boundsCrossed (least greatest : String)
  | boundsUnprintable (overflow : DigitOverflow)
  | notPositive
  | notPermitted
deriving DecidableEq, Repr

/-- What is reported about a cause. -/
def Cause.message : Cause → String
  | .notObject kind => "expected an object, got " ++ kind
  | .notInstance model => "Input should be a valid dictionary or instance of " ++ model.name
  | .notParameter => "Input should be a valid dictionary or object to extract fields from"
  | .missing => "Field required"
  | .notText => "Input should be a valid string"
  | .textUndecodable =>
    "Input should be a valid string, unable to parse raw data as a unicode string"
  | .notList => "Input should be a valid list"
  | .emptyList => "List should have at least 1 item after validation, not 0"
  | .notFlag => "Input should be a valid boolean"
  | .flagUnreadable => "Input should be a valid boolean, unable to interpret input"
  | .notWhole => "Input should be a valid integer"
  | .wholeUnreadable => "Input should be a valid integer, unable to parse string as an integer"
  | .wholeTooLong => "Unable to parse input string as an integer, exceeded maximum size"
  | .notReal => "Input should be a valid number"
  | .realUnreadable => "Input should be a valid number, unable to parse string as a number"
  | .notContentType => "Input should be 'URL', 'BASE64' or 'BINARY'"
  | .tagMissing => "Unable to extract tag using discriminator 'type'"
  | .tagUnknown tag =>
    "Input tag '" ++ tag ++ "' found using 'type' does not match any of the expected tags: " ++
      "'integer', 'boolean', 'enum', 'string', 'list'"
  | .linkEmpty => "Value error, link must not be empty"
  | .methodInvalid quoted => "Value error, invalid HTTP method: " ++ quoted
  | .labelCount => "Value error, friendly_value must have one label per enum value"
  | .boundsCrossed least greatest =>
    "Value error, min_value " ++ least ++ " is greater than max_value " ++ greatest
  | .boundsUnprintable overflow => "Value error, " ++ overflow.message
  | .notPositive => "Input should be greater than 0"
  | .notPermitted => "Extra inputs are not permitted"

/-- One step on the way from the root of a document to a place in it. -/
inductive Part
  | field (name : String)
  | item (index : Nat)
deriving DecidableEq, Repr

/-- The text of a step. -/
def Part.print : Part → String
  | .field name => name
  | .item index => String.ofList (natDigits index)

/-- Something wrong at a place of a document. -/
structure Issue where
  place : List Part
  cause : Cause
deriving DecidableEq, Repr

/-- The text of a place; the root has a name of its own. -/
def printPlace (place : List Part) : String :=
  if place.isEmpty then "<root>" else joinText "." (place.map Part.print)

/-- The line of a report about an issue. -/
def Issue.line (issue : Issue) : String :=
  printPlace issue.place ++ ": " ++ issue.cause.message

/-- The same issue, seen from one step further up. -/
def Issue.under (part : Part) (issue : Issue) : Issue :=
  { issue with place := part :: issue.place }

end ImageCatalog.Config
