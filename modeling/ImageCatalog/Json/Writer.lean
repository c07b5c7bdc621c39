import ImageCatalog.Number.Shortest
import ImageCatalog.Text.Hex
import ImageCatalog.Text.Split
import ImageCatalog.Value.Basic

/-!
# Writing JSON

Request bodies are written on one line with a space after commas and colons, the settings file with
one item per line and two spaces per level. Both leave characters outside ASCII as they are and
write the special numbers as `NaN`, `Infinity` and `-Infinity`. Keys of mappings that are not texts
are spelt as the values they are; bytes, dates, timestamps, sets and compound keys have no JSON
form.
-/

namespace ImageCatalog.Json

open Number Text

/-- Why a value is not written: it has no JSON form, or a number in it is too long, or it is to be
part of an address and has a half in it. -/
inductive WriteFault
  | unsupported
  | overlong (overflow : DigitOverflow)
  | unencodable
deriving DecidableEq, Repr

/-- One character of a text. -/
def writeChar (char : Char) : List Char :=
  if char = '"' then ['\\', '"']
  else if char = '\\' then ['\\', '\\']
  else if char = '\n' then ['\\', 'n']
  else if char = '\r' then ['\\', 'r']
  else if char = '\t' then ['\\', 't']
  else if char.toNat = 8 then ['\\', 'b']
  else if char.toNat = 12 then ['\\', 'f']
  else if char.toNat < 0x20 then '\\' :: 'u' :: hexField 4 char.toNat
  else [char]

/-- A text with its quotes. -/
def writeText (text : String) : List Char :=
  '"' :: text.toList.flatMap writeChar ++ ['"']

/-- A whole number. -/
def writeInt (number : Int) : Except WriteFault (List Char) :=
  match intText number with
  | .ok text => .ok text.toList
  | .error overflow => .error (.overlong overflow)

/-- The key of an entry of a mapping. -/
def writeKey : Value → Except WriteFault (List Char)
  | .null => .ok (writeText "null")
  | .bool flag => .ok (writeText (if flag then "true" else "false"))
  | .int number => (writeInt number).map fun chars => writeText (String.ofList chars)
  | .float number => .ok (writeText (Layout.document.write number))
  | .text chars => .ok (writeText chars)
  | _ => .error .unsupported

/-- How the parts of a list or an object are set apart: on one line, or on lines of their own at a
depth. -/
inductive Spacing
  | line
  | lines (depth : Nat)
deriving DecidableEq, Repr

/-- The spacing one level deeper. -/
def Spacing.deeper : Spacing → Spacing
  | .line => .line
  | .lines depth => .lines (depth + 1)

/-- What stands before the first part and after the last one. -/
def Spacing.edge : Spacing → List Char
  | .line => []
  | .lines depth => '\n' :: List.replicate (2 * depth) ' '

/-- What stands between two parts. -/
def Spacing.between : Spacing → List Char
  | .line => [',', ' ']
  | .lines depth => ',' :: '\n' :: List.replicate (2 * depth) ' '

/-- The parts of a list or an object between its brackets. -/
def enclose (spacing : Spacing) (opening closing : Char) (parts : List (List Char)) : List Char :=
  if parts.isEmpty then [opening, closing]
  else
    opening :: spacing.deeper.edge ++ joinChars spacing.deeper.between parts ++ spacing.edge ++
      [closing]

mutual

/-- A value. -/
def writeValue (spacing : Spacing) : Value → Except WriteFault (List Char)
  | .null => .ok ['n', 'u', 'l', 'l']
  | .bool flag => .ok (if flag then ['t', 'r', 'u', 'e'] else ['f', 'a', 'l', 's', 'e'])
  | .int number => writeInt number
  | .float number => .ok (Layout.document.write number).toList
  | .text chars => .ok (writeText chars)
  | .bytes _ => .error .unsupported
  | .date _ => .error .unsupported
  | .timestamp _ => .error .unsupported
  | .pair first second => do
    let left ← writeValue spacing.deeper first
    let right ← writeValue spacing.deeper second
    return enclose spacing '[' ']' [left, right]
  | .list items => do
    let parts ← writeItems spacing.deeper items
    return enclose spacing '[' ']' parts
  | .set _ => .error .unsupported
  | .object fields => do
    let parts ← writeFields spacing.deeper fields
    return enclose spacing '\x7b' '\x7d' parts
  | .mapping entries => do
    let parts ← writeEntries spacing.deeper entries
    return enclose spacing '\x7b' '\x7d' parts

/-- The items of a list. -/
def writeItems (spacing : Spacing) : List Value → Except WriteFault (List (List Char))
  | [] => .ok []
  | item :: rest => do
    let part ← writeValue spacing item
    let parts ← writeItems spacing rest
    return part :: parts

/-- The fields of an object. -/
def writeFields (spacing : Spacing) :
    List (String × Value) → Except WriteFault (List (List Char))
  | [] => .ok []
  | (name, content) :: rest => do
    let part ← writeValue spacing content
    let parts ← writeFields spacing rest
    return (writeText name ++ ':' :: ' ' :: part) :: parts

/-- The entries of a mapping. -/
def writeEntries (spacing : Spacing) :
    List (Value × Value) → Except WriteFault (List (List Char))
  | [] => .ok []
  | (key, content) :: rest => do
    let name ← writeKey key
    let part ← writeValue spacing content
    let parts ← writeEntries spacing rest
    return (name ++ ':' :: ' ' :: part) :: parts

end

/-- The JSON text of a value on one line. -/
def write (value : Value) : Except WriteFault String :=
  (writeValue .line value).map String.ofList

/-- The JSON text of a value with one item per line. -/
def writeIndented (value : Value) : Except WriteFault String :=
  (writeValue (.lines 0) value).map String.ofList

end ImageCatalog.Json
