import ImageCatalog.Config.Checked
import ImageCatalog.Number.Literal
import ImageCatalog.Number.Quantity
import ImageCatalog.Text.Surrogate
import ImageCatalog.Value.Entries
import ImageCatalog.Value.Print

/-!
# Checks of single fields

Fields are read leniently: a flag may be written as a number or a word, a number as a text. Each
check says which texts and values it takes, and which cause it reports otherwise. Bytes are taken
for the text that they spell. A text that is only kept may have halves in it; one that is to be read
as something else may not.
-/

namespace ImageCatalog.Config

open Number Text

/-- The content of a field of an object. -/
def field? (name : String) : Value → Option Value
  | .object fields => Entries.find? name fields
  | .mapping entries =>
    (entries.find? fun entry => entry.1.text? == some name).map Prod.snd
  | _ => none

/-- Whether a value has fields. -/
def isRecord : Value → Bool
  | .object _ => true
  | .mapping _ => true
  | _ => false

namespace Checked

variable {Result : Type}

/-- Check a field that must be there. -/
def required (name : String) (check : Value → Checked Result) (record : Value) : Checked Result :=
  under (.field name) <|
    match field? name record with
    | some content => check content
    | none => fail .missing

/-- Check a field that may be left out. -/
def optional (name : String) (fallback : Result) (check : Value → Checked Result)
    (record : Value) : Checked Result :=
  match field? name record with
  | some content => under (.field name) (check content)
  | none => .valid fallback

/-- Check a value that may be null. -/
def nullable (check : Value → Checked Result) : Value → Checked (Option Result)
  | .null => .valid none
  | other => (check other).map some

end Checked

open Checked

/-- A text. -/
def checkText : Value → Checked String
  | .text chars => .valid chars
  | .bytes content =>
    match Utf8.decode? content with
    | some chars => .valid chars
    | none => fail .textUndecodable
  | _ => fail .notText

/-- A list, given by its items. -/
def checkList {Result : Type} (check : Value → Checked Result) : Value → Checked (List Result)
  | .list members => items check members
  | .pair first second => items check [first, second]
  | .set members => items check members
  | _ => fail .notList

/-- The flag that a word stands for. -/
def flagOfWord? (word : String) : Option Bool :=
  let lower := String.ofList (word.toList.map Char.toLower)
  if ["1", "on", "t", "true", "y", "yes"].contains lower then some true
  else if ["0", "off", "f", "false", "n", "no"].contains lower then some false
  else none

/-- The flag that a word stands for, or an issue. -/
def checkFlagWord (word : String) : Checked Bool :=
  match flagOfWord? word with
  | some flag => .valid flag
  | none => fail (if isWhole word then .flagUnreadable else .textUndecodable)

/-- Two to the 63rd power: whole numbers from its opposite up to it, itself left out, fit a machine
word. -/
def wordBound : Int := 9223372036854775808

/-- The flag that a whole number stands for, or an issue. -/
def checkFlagNumber (number : Int) : Checked Bool :=
  if number = 0 then .valid false
  else if number = 1 then .valid true
  else if -wordBound ≤ number ∧ number < wordBound then fail .flagUnreadable
  else fail .notFlag

/-- A flag. -/
def checkFlag : Value → Checked Bool
  | .bool flag => .valid flag
  | .int number => checkFlagNumber number
  | .float (.finite number) =>
    if number.isWhole && number.truncate != -wordBound then checkFlagNumber number.truncate
    else fail .notFlag
  | .text word => checkFlagWord word
  | .bytes content =>
    match Utf8.decode? content with
    | some word => checkFlagWord word
    | none => fail .flagUnreadable
  | _ => fail .notFlag

/-- The two reports about a value that is neither a whole nor a real number. -/
def rejectNumber {Result : Type} (asWhole asReal : Cause) : Checked Result :=
  .invalid ⟨[.field "int"], asWhole⟩ [⟨[.field "float"], asReal⟩]

/-- The number that a text without halves denotes, as a whole number if possible. -/
def checkNumberText (chars : String) : Checked Quantity :=
  if isWhole chars then
    match readFieldWhole chars.toList with
    | .value number => .valid (.whole number)
    | .tooLong =>
      match readFieldReal? chars.toList with
      | some number => .valid (.real number)
      | none => rejectNumber .wholeTooLong .realUnreadable
    | .malformed =>
      match readFieldReal? chars.toList with
      | some number => .valid (.real number)
      | none => rejectNumber .wholeUnreadable .realUnreadable
  else rejectNumber .textUndecodable .textUndecodable

/-- A whole or real number. -/
def checkNumber : Value → Checked Quantity
  | .bool flag => .valid (.whole (if flag then 1 else 0))
  | .int number => .valid (.whole number)
  | .float number => .valid (.real number)
  | .text chars => checkNumberText chars
  | .bytes content =>
    match Utf8.decode? content with
    | some chars => checkNumberText chars
    | none => rejectNumber .wholeUnreadable .realUnreadable
  | _ => rejectNumber .notWhole .notReal

end ImageCatalog.Config
