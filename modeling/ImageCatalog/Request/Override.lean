import ImageCatalog.Number.Literal
import ImageCatalog.Request.ValueMap
import ImageCatalog.Text.Blank

/-!
# Overriding values

A user addresses a parameter by its position or its name and gives its value as a text.
`findParameter` settles the address, `coerce` turns the text into the value that the kind of the
parameter calls for, and `applyAll` does both for a row of overrides, the later ones on top of the
earlier ones.
-/

namespace ImageCatalog.Override

open Config Number Text

/-- Why an address or a text is refused. -/
inductive Refusal
  | indexOutOfRange (index count : Nat)
  | unknownName (key : String)
  | notNumber (label raw : String)
  | belowLeast (label number least : String)
  | aboveGreatest (label number greatest : String)
  | notFlag (label raw : String)
  | notOption (label raw : String) (options : List String)
deriving DecidableEq, Repr

/-- Why an override fails: it is refused, or it runs into the limit on number texts. -/
inductive Fault
  | refused (refusal : Refusal)
  | overlong (overflow : DigitOverflow)
deriving DecidableEq, Repr

/-- What is reported about a refusal. -/
def Refusal.message : Refusal → String
  | .indexOutOfRange index count =>
    "parameter index " ++ String.ofList (natDigits index) ++ " out of range (0-" ++
      toString ((count : Int) - 1) ++ ")"
  | .unknownName key => "no parameter named " ++ Quoted.quote key
  | .notNumber label raw => label ++ ": " ++ Quoted.quote raw ++ " is not a number"
  | .belowLeast label number least =>
    label ++ ": " ++ number ++ " is below the minimum " ++ least
  | .aboveGreatest label number greatest =>
    label ++ ": " ++ number ++ " is above the maximum " ++ greatest
  | .notFlag label raw => label ++ ": " ++ Quoted.quote raw ++ " is not a boolean"
  | .notOption label raw options =>
    label ++ ": " ++ Quoted.quote raw ++ " is not one of " ++ joinText ", " options

/-- What is reported about a fault. -/
def Fault.message : Fault → String
  | .refused refusal => refusal.message
  | .overlong overflow => overflow.message

/-- Refuse an override. -/
def refuse {Result : Type} (refusal : Refusal) : Except Fault Result :=
  .error (.refused refusal)

/-- Take over a result that may run into the limit on number texts. -/
def withinLimit {Result : Type} (result : Except DigitOverflow Result) : Except Fault Result :=
  result.mapError .overlong

/-- The position of the parameter that a key addresses: the number that it spells, or the first
parameter of that name. -/
def findParameter (description : Description) (key : String) : Except Fault Nat :=
  let count := description.parameters.length
  if isDigits key then do
    let index ← withinLimit (readDigits key.toList)
    if index < count then return index else refuse (.indexOutOfRange index count)
  else
    match description.parameters.findIdx? fun parameter => parameter.name == some key with
    | some index => .ok index
    | none => refuse (.unknownName key)

/-- What a parameter is called in messages. -/
def labelOf (parameter : Parameter) : String :=
  match parameter.sentName? with
  | some name => name
  | none => if parameter.label.isEmpty then "positional parameter" else parameter.label

/-- The number that a typed text denotes; a point makes it a real number. -/
def readNumber? (raw : String) : Option Quantity :=
  if raw.toList.contains '.' then (readReal? raw.toList).map .real
  else (readWhole? raw.toList).map .whole

/-- A number that is within the bounds of a parameter. -/
def coerceNumber (label : String) (field : NumberField) (raw : String) : Except Fault Value := do
  match readNumber? raw with
  | none => refuse (.notNumber label raw)
  | some number =>
    match field.least with
    | some least =>
      if number.isLess least then
        refuse (.belowLeast label (← withinLimit number.print) (← withinLimit least.print))
    | none => pure ()
    match field.greatest with
    | some greatest =>
      if greatest.isLess number then
        refuse (.aboveGreatest label (← withinLimit number.print) (← withinLimit greatest.print))
    | none => pure ()
    return quantityValue number

/-- A flag in one of the words for it. -/
def coerceFlag (label raw : String) : Except Fault Value :=
  let word := lowerWord (strip raw)
  if ["1", "true", "yes", "on", "y"].contains word then .ok (.bool true)
  else if ["0", "false", "no", "off", "n"].contains word then .ok (.bool false)
  else refuse (.notFlag label raw)

/-- The first option whose printed text or label is the given text. -/
def findOption (raw : String) : List (Value × String) → Except DigitOverflow (Option Value)
  | [] => .ok none
  | (option, label) :: rest => do
    let printed ← option.print
    if raw = printed ∨ raw = label then return some option else findOption raw rest

/-- An option of a choice. -/
def coerceOption (label : String) (field : ChoiceField) (raw : String) : Except Fault Value := do
  let labels ← withinLimit field.optionLabels
  match ← withinLimit (findOption raw (field.options.zip labels)) with
  | some option => return option
  | none =>
    let printed ← withinLimit (field.options.mapM Value.print)
    refuse (.notOption label raw printed)

/-- The pieces of a text between the separators of a list, without the empty ones. -/
def coerceList (field : ListField) (raw : String) : Value :=
  .list (((splitAtText field.separatorText raw).filter fun item => !item.isEmpty).map .text)

/-- The value that a typed text gives a parameter. -/
def coerce (parameter : Parameter) (raw : String) : Except Fault Value :=
  let label := labelOf parameter
  match parameter.kind with
  | .number field => coerceNumber label field raw
  | .flag _ => coerceFlag label raw
  | .choice field => coerceOption label field raw
  | .text _ => .ok (.text raw)
  | .list field => .ok (coerceList field raw)

/-- Apply one override to a value map. -/
def applyOne (description : Description) (values : ValueMap) (key raw : String) :
    Except Fault ValueMap := do
  let index ← findParameter description key
  match description.parameters[index]? with
  | some parameter =>
    let value ← coerce parameter raw
    return Entries.put index value values
  | none => refuse (.indexOutOfRange index description.parameters.length)

/-- Apply a row of overrides to a value map. -/
def applyAll (description : Description) (values : ValueMap) :
    List (String × String) → Except Fault ValueMap
  | [] => .ok values
  | (key, raw) :: rest => do
    let next ← applyOne description values key raw
    applyAll description next rest

end ImageCatalog.Override
