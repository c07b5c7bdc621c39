import ImageCatalog.Config.Parameter
import ImageCatalog.Text.Case

/-!
# Configurations

A configuration describes an image service: what it is called, where and how it is asked, which
parameters it takes, and where the images are in its answers. A `Config` is a description together
with its place in the catalog.
-/

namespace ImageCatalog.Config

/-- What an answer holds: links to images, images in base64, or one image. -/
inductive ContentType
  | url
  | base64
  | binary
deriving DecidableEq, Repr

/-- The word for a content type in documents. -/
def ContentType.tag : ContentType → String
  | .url => "URL"
  | .base64 => "BASE64"
  | .binary => "BINARY"

/-- The content type of a word. -/
def ContentType.ofTag? : String → Option ContentType
  | "URL" => some .url
  | "BASE64" => some .base64
  | "BINARY" => some .binary
  | _ => none

/-- Where and how the images sit in an answer. -/
structure ImageDescriptor where
  contentType : ContentType
  path : Option String

/-- The path to the images, unless it is empty. -/
def ImageDescriptor.path? (image : ImageDescriptor) : Option String :=
  image.path.filter fun path => !path.isEmpty

/-- The description of an image service. -/
structure Description where
  title : String
  intro : String
  icon : Option String
  link : String
  verb : String
  parameters : List Parameter
  image : ImageDescriptor

/-- The HTTP method of a service. -/
def Description.method (description : Description) : String :=
  Text.upper description.verb

end Config

/-- A description with its name and category in the catalog. -/
structure Config where
  name : String
  category : String
  description : Config.Description

end ImageCatalog
