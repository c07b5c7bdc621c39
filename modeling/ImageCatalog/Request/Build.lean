import ImageCatalog.Json.Writer
import ImageCatalog.Request.ValueMap
import ImageCatalog.Text.Form
import ImageCatalog.Text.Surrogate

/-!
# Building requests

Services asked with GET or HEAD get the positional values as segments of the path and the named ones
as the query; null values are left out. All other services get the named values as a JSON object in
the body, nulls included, at the unchanged address. Where a name is repeated its first place and its
last value count. The query is percent-encoded, which a text with a half in it cannot be.
-/

namespace ImageCatalog

open Config Text

/-- A request that is ready to be sent. -/
structure PreparedRequest where
  url : String
  method : String
  body : Option String
  headers : List (String × String)
deriving DecidableEq, Repr

namespace PreparedRequest

/-- The members of a list or a pair. -/
def members? : Value → Option (List Value)
  | .list items => some items
  | .pair first second => some [first, second]
  | _ => none

/-- The text of a value on the wire, with a separator between the items of a list. -/
def wireText (separator : String) (value : Value) : Except DigitOverflow String :=
  match members? value with
  | some items => do
    let texts ← items.mapM Value.stringify
    return joinText separator texts
  | none => value.stringify

/-- The separator of the items of a named value. -/
def separatorOf (parameter : Parameter) : String :=
  match parameter.kind with
  | .list field => field.separatorText
  | _ => defaultSeparator

/-- The parameters with their positions. -/
def numbered (description : Description) : List (Nat × Parameter) :=
  description.parameters.zipIdx.map fun (parameter, index) => (index, parameter)

/-- The texts of the positional values, in order. -/
def segments (values : ValueMap) : List (Nat × Parameter) → Except DigitOverflow (List String)
  | [] => .ok []
  | (index, parameter) :: rest =>
    match parameter.sentName?, values.present? index with
    | none, some value => do
      let text ← wireText "," value
      let texts ← segments values rest
      return text :: texts
    | _, _ => segments values rest

/-- The names and texts of the named values, in order and with repetitions. -/
def namedTexts (values : ValueMap) :
    List (Nat × Parameter) → Except DigitOverflow (List (String × String))
  | [] => .ok []
  | (index, parameter) :: rest =>
    match parameter.sentName?, values.present? index with
    | some name, some value => do
      let text ← wireText (separatorOf parameter) value
      let texts ← namedTexts values rest
      return (name, text) :: texts
    | _, _ => namedTexts values rest

/-- The text without a final occurrence of a character. -/
def dropFinal (char : Char) (chars : List Char) : List Char :=
  if chars.getLast? = some char then chars.dropLast else chars

/-- The address of a service without a final slash and then without a final question mark. -/
def bareLink (link : String) : String :=
  String.ofList (dropFinal '?' (dropFinal '/' link.toList))

/-- Whether an entry of a query can be percent-encoded. -/
def isWholeEntry (entry : String × String) : Bool :=
  isWhole entry.1 && isWhole entry.2

/-- The address of a request with its values in the path and the query. -/
def queryUrl (description : Description) (values : ValueMap) :
    Except Json.WriteFault String := do
  let path ← (segments values (numbered description)).mapError .overlong
  let named ← (namedTexts values (numbered description)).mapError .overlong
  let query := Entries.ofList named
  let base := bareLink description.link
  let withPath := if path.isEmpty then base else base ++ "/" ++ joinText "/" path
  if query.all isWholeEntry then
    return if query.isEmpty then withPath else withPath ++ "?" ++ Form.encode query
  else .error .unencodable

/-- The named values that the map holds, in order and with repetitions. -/
def namedValues (values : ValueMap) : List (Nat × Parameter) → List (String × Value)
  | [] => []
  | (index, parameter) :: rest =>
    match parameter.sentName?, values.find? index with
    | some name, some value => (name, value) :: namedValues values rest
    | _, _ => namedValues values rest

/-- The object in the body of a request. -/
def bodyFields (description : Description) (values : ValueMap) : List (String × Value) :=
  Entries.ofList (namedValues values (numbered description))

/-- Whether the values go into the address. -/
def isQueryMethod (method : String) : Bool :=
  method == "GET" || method == "HEAD"

/-- The request for some values. -/
def build (description : Description) (values : ValueMap) :
    Except Json.WriteFault PreparedRequest :=
  let method := description.method
  if isQueryMethod method then
    (queryUrl description values).map fun url => ⟨url, method, none, []⟩
  else
    (Json.write (.object (bodyFields description values))).map fun body =>
      ⟨description.link, method, some body, [("Content-Type", "application/json")]⟩

end PreparedRequest

end ImageCatalog
