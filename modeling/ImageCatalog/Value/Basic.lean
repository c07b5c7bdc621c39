import ImageCatalog.Number.Binary64
import ImageCatalog.Value.Calendar

/-!
# Values

A `Value` is what a document says: the answers of an image service, the fields of a configuration,
the saved settings and the values chosen for parameters are all values. Objects keep their fields in
the order of the document. Most documents use only the seven kinds from null to object; bytes,
dates, timestamps, pairs, sets and mappings with keys that are not texts come from YAML documents. A
set has no order of its own; its items stand in that of the document.
-/

namespace ImageCatalog

open Number

/-- What a document says. -/
inductive Value
  | null
  | bool (flag : Bool)
  | int (number : Int)
  | float (number : Binary64)
  | text (chars : String)
  | bytes (content : List UInt8)
  | date (day : Date)
  | timestamp (time : Timestamp)
  | pair (first second : Value)
  | list (items : List Value)
  | set (items : List Value)
  | object (fields : List (String × Value))
  | mapping (entries : List (Value × Value))

namespace Value

instance : Inhabited Value := ⟨.null⟩

/-- Whether the value is null. -/
def isNull : Value → Bool
  | .null => true
  | _ => false

/-- Whether the value is a list. -/
def isList : Value → Bool
  | .list _ => true
  | _ => false

/-- The text of a value that is a text. -/
def text? : Value → Option String
  | .text chars => some chars
  | _ => none

/-- The entries of an object, by name. -/
def fields? : Value → Option (List (String × Value))
  | .object fields => some fields
  | _ => none

/-- Whether a value counts as present: it is not null, false, zero or empty. -/
def isTruthy : Value → Bool
  | .null => false
  | .bool flag => flag
  | .int number => number != 0
  | .float number => !number.isZero
  | .text chars => !chars.isEmpty
  | .bytes content => !content.isEmpty
  | .date _ => true
  | .timestamp _ => true
  | .pair _ _ => true
  | .list items => !items.isEmpty
  | .set items => !items.isEmpty
  | .object fields => !fields.isEmpty
  | .mapping entries => !entries.isEmpty

/-- What the kind of a value is called in reports. -/
def kindName : Value → String
  | .null => "NoneType"
  | .bool _ => "bool"
  | .int _ => "int"
  | .float _ => "float"
  | .text _ => "str"
  | .bytes _ => "bytes"
  | .date _ => "date"
  | .timestamp _ => "datetime"
  | .pair _ _ => "tuple"
  | .list _ => "list"
  | .set _ => "set"
  | .object _ => "dict"
  | .mapping _ => "dict"

/-- The items of a list, and a value of any other kind as the only item. -/
def toItems : Value → List Value
  | .list items => items
  | other => [other]

end Value

end ImageCatalog
