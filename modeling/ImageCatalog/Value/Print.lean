import ImageCatalog.Number.Shortest
import ImageCatalog.Text.Quoted
import ImageCatalog.Text.Split
import ImageCatalog.Value.Basic

/-!
# Printed values

`Value.print` is the text of a value as messages and labels show it, and `Value.stringify` the text
that goes over the wire: the same, but for `true` and `false` and for floating-point numbers without
a fraction, which are written as whole numbers. A text prints as itself; inside lists and objects
texts are quoted. The only way in which printing fails is a whole number beyond the limit of number
texts.
-/

namespace ImageCatalog

open Number Text

/-- The fields of a date as arguments. -/
def Date.arguments (date : Date) : List String :=
  [toString date.year, toString date.month, toString date.day]

/-- A distance from Greenwich as an argument. -/
def printZone (minutes : Int) : String :=
  if minutes = 0 then "datetime.timezone.utc"
  else "datetime.timezone(" ++ printDuration minutes ++ ")"

/-- A date as it stands inside a printed list. -/
def Date.quote (date : Date) : String :=
  "datetime.date(" ++ joinText ", " date.arguments ++ ")"

/-- A timestamp as it stands inside a printed list. -/
def Timestamp.quote (time : Timestamp) : String :=
  let fine :=
    if time.microsecond = 0 then
      (if time.second = 0 then [] else [toString time.second])
    else [toString time.second, toString time.microsecond]
  let zone := (time.offset.map fun minutes => ["tzinfo=" ++ printZone minutes]).getD []
  let clock := [toString time.hour, toString time.minute]
  "datetime.datetime(" ++ joinText ", " (time.date.arguments ++ clock ++ fine ++ zone) ++ ")"

namespace Value

mutual

/-- The text of a value inside a list or an object. -/
def quote : Value → Except DigitOverflow String
  | .null => .ok "None"
  | .bool flag => .ok (if flag then "True" else "False")
  | .int number => intText number
  | .float number => .ok (Layout.printed.write number)
  | .text chars => .ok (Quoted.quote chars)
  | .bytes content => .ok (Quoted.quoteBytes content)
  | .date day => .ok day.quote
  | .timestamp time => .ok time.quote
  | .pair first second => do
    let left ← quote first
    let right ← quote second
    return "(" ++ left ++ ", " ++ right ++ ")"
  | .list items => do
    let pieces ← quoteItems items
    return "[" ++ joinText ", " pieces ++ "]"
  | .set items => do
    let pieces ← quoteItems items
    return if pieces.isEmpty then "set()" else "\x7b" ++ joinText ", " pieces ++ "\x7d"
  | .object fields => do
    let pieces ← quoteFields fields
    return "\x7b" ++ joinText ", " pieces ++ "\x7d"
  | .mapping entries => do
    let pieces ← quoteEntries entries
    return "\x7b" ++ joinText ", " pieces ++ "\x7d"

/-- The texts of the items of a list or a set. -/
def quoteItems : List Value → Except DigitOverflow (List String)
  | [] => .ok []
  | item :: rest => do
    let piece ← quote item
    let pieces ← quoteItems rest
    return piece :: pieces

/-- The texts of the fields of an object. -/
def quoteFields : List (String × Value) → Except DigitOverflow (List String)
  | [] => .ok []
  | (name, content) :: rest => do
    let piece ← quote content
    let pieces ← quoteFields rest
    return (Quoted.quote name ++ ": " ++ piece) :: pieces

/-- The texts of the entries of a mapping. -/
def quoteEntries : List (Value × Value) → Except DigitOverflow (List String)
  | [] => .ok []
  | (key, content) :: rest => do
    let name ← quote key
    let piece ← quote content
    let pieces ← quoteEntries rest
    return (name ++ ": " ++ piece) :: pieces

end

/-- The text of a value in messages and labels. -/
def print : Value → Except DigitOverflow String
  | .text chars => .ok chars
  | .date day => .ok day.print
  | .timestamp time => .ok time.print
  | other => other.quote

/-- The text of a value on the wire. -/
def stringify : Value → Except DigitOverflow String
  | .bool flag => .ok (if flag then "true" else "false")
  | .float (.finite number) =>
    if number.isWhole then intText number.truncate
    else .ok (Layout.printed.write (.finite number))
  | other => other.print

end Value

end ImageCatalog
