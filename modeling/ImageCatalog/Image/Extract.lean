import ImageCatalog.Config.Basic
import ImageCatalog.Json.Reader
import ImageCatalog.Path.Resolve
import ImageCatalog.Text.Base64
import ImageCatalog.Text.Case
import ImageCatalog.Text.Token
import ImageCatalog.Text.Utf8

/-!
# Images in an answer

An answer yields references to images: links, or the images themselves as `data:` references. Which
of the three content types a service declares decides how its answers are read. An answer that
cannot be read yields no references; so does one whose path leads nowhere.
-/

namespace ImageCatalog.Image

open Config Text

/-- The values that an answer holds, or none if it cannot be read. -/
abbrev Found := Option (List Value)

/-- A value as a row of values: null is none, a list its items. -/
def asItems : Value → List Value
  | .null => []
  | .list items => items
  | other => [other]

/-- The values that a path leads to in a document, or the whole document without a path. -/
def locate (document : Value) (path : Option String) : Found :=
  match path with
  | none => some (asItems document)
  | some text => ((Path.resolveFlat document text).toOption).map asItems

/-- The content of the first header of a name, which is given in lower case. -/
def header? (name : String) (headers : List (String × String)) : Option String :=
  (headers.find? fun entry => lowerWord entry.1 == name).map Prod.snd

/-- The media type of an answer, without its parameters. -/
def mediaType (headers : List (String × String)) : String :=
  let declared := ((header? "content-type" headers).getD "").toList
  let media := trim (declared.takeWhile (· != ';'))
  if media.isEmpty then "image/jpeg" else String.ofList media

/-- A reference that holds the base64 text of an image. -/
def dataReference (media payload : String) : String :=
  "data:" ++ media ++ ";base64," ++ payload

/-- The links in a plain text: its tokens between blanks and commas that start with `http`. -/
def plainLinks (text : String) : List String :=
  ((tokens (fun char => isBlank char || char == ',') text.toList).filter
    fun token => "http".toList.isPrefixOf token).map String.ofList

/-- The values of an answer that holds links. -/
def findLinks (image : ImageDescriptor) (content : List UInt8) : Found := do
  let text ← Utf8.decode? content
  match Json.read text with
  | .ok document => locate document image.path?
  | .error .malformed => return (plainLinks text).map .text
  | .error (.overlong _) => none

/-- The references of the values that are base64 texts. -/
def labelPayloads (payloads : List Value) : Found :=
  ((payloads.filter Value.isTruthy).mapM fun payload =>
    payload.print.toOption.map fun text => Value.text (dataReference "image/png" text))

/-- The references of an answer that holds images in base64. -/
def findPayloads (image : ImageDescriptor) (content : List UInt8) : Found := do
  let text ← Utf8.decode? content
  match image.path? with
  | none => labelPayloads [.text (strip text)]
  | some path =>
    let document ← (Json.read text).toOption
    let payloads ← locate document (some path)
    labelPayloads payloads

/-- The reference to an answer that is an image. -/
def findBinary (headers : List (String × String)) (content : List UInt8) : Found :=
  some [.text (dataReference (mediaType headers) (Base64.encode content))]

/-- The values of an answer, by the declared content type. -/
def find (image : ImageDescriptor) (headers : List (String × String)) (content : List UInt8) :
    Found :=
  match image.contentType with
  | .url => findLinks image content
  | .base64 => findPayloads image content
  | .binary => findBinary headers content

/-- The references to the images of an answer. -/
def extract (image : ImageDescriptor) (headers : List (String × String)) (content : List UInt8) :
    Except DigitOverflow (List String) :=
  match find image headers content with
  | none => .ok []
  | some values => (values.filter Value.isTruthy).mapM Value.stringify

end ImageCatalog.Image
