import ImageCatalog.Image.Extension
import ImageCatalog.Text.Base64
import ImageCatalog.Text.Percent
import ImageCatalog.Text.Surrogate
import ImageCatalog.Url.Basic

/-!
# References to images

A reference is the address of an image or a `data:` reference that holds the image itself, in base64
or percent-encoded. `decode` gives the bytes of a `data:` reference, and `fileName` a name for the
file of an image: the last segment of its address, or a name made from the time for references that
have none.
-/

namespace ImageCatalog.Image

open Text

/-- A `data:` reference: its media type, whether its payload is in base64, and the payload. -/
structure DataReference where
  media : List Char
  isBase64 : Bool
  payload : List Char
deriving DecidableEq, Repr

/-- What follows the media type of a `data:` reference. -/
def readPayload? : List Char → Option (Bool × List Char)
  | ',' :: rest => some (false, rest)
  | ';' :: rest =>
    if "base64,".toList.isPrefixOf rest then some (true, rest.drop 7) else none
  | _ => none

/-- Whether a character ends the media type of a `data:` reference. -/
def endsMedia (char : Char) : Bool :=
  char == ';' || char == ','

/-- The parts of a `data:` reference. -/
def DataReference.read? (reference : String) : Option DataReference :=
  let chars := reference.toList
  if "data:".toList.isPrefixOf chars then
    let body := chars.drop 5
    let media := body.takeWhile fun char => !endsMedia char
    (readPayload? (body.dropWhile fun char => !endsMedia char)).map fun (isBase64, payload) =>
      ⟨media, isBase64, payload⟩
  else none

/-- Why a reference has no payload. -/
inductive DecodeFault
  | notData
  | base64 (fault : Base64.Fault)
  | unencodable
deriving DecidableEq, Repr

/-- What is reported about a reference without a payload. -/
def DecodeFault.message : DecodeFault → String
  | .notData => "not a data URI"
  | .base64 .notAscii => Base64.Fault.notAscii.message
  | .base64 fault => "invalid base64 payload: " ++ fault.message
  | .unencodable => ""

/-- The bytes of a `data:` reference. -/
def decode (reference : String) : Except DecodeFault (List UInt8) :=
  match DataReference.read? reference with
  | none => .error .notData
  | some parts =>
    let payload := String.ofList parts.payload
    if parts.isBase64 then (Base64.decode payload).mapError .base64
    else if isWhole payload then .ok (Utf8.encode (Percent.decode payload))
    else .error .unencodable

/-- A name made from a time in milliseconds. -/
def timedName (clock : Nat) (extension : String) : String :=
  "image-" ++ toString clock ++ extension

/-- The extension for a media type; unknown types count as photographs. -/
def extensionFor (extensions : Extensions) (media : String) : String :=
  match extensions.of? media with
  | some extension => if extension = ".jpe" then ".jpg" else extension
  | none => ".jpg"

/-- The name for the file of an image at an address. -/
def nameOfAddress (clock : Nat) (parts : Url.Parts) : String :=
  let segment := (Percent.decode (String.ofList parts.lastSegment)).toList
  let name := segment.map fun char => if isUnsafe char then '_' else char
  if name.isEmpty then timedName clock ".jpg" else String.ofList name

/-- The name for the file of an image. -/
def fileName (extensions : Extensions) (clock : Nat) (reference : String) :
    Except Url.Fault String :=
  match DataReference.read? reference with
  | some parts => .ok (timedName clock (extensionFor extensions (String.ofList parts.media)))
  | none => (Url.split reference).map (nameOfAddress clock)

end ImageCatalog.Image
