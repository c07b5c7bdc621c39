import ImageCatalog.Config.FileName
import ImageCatalog.Config.Validation
import ImageCatalog.Text.Line
import ImageCatalog.Text.Utf8
import ImageCatalog.Yaml.Construct

/-!
# Configuration files

A local configuration is a file in YAML, of which JSON is nearly a part. The report on a file that
is no document carries the name of the file, the report on a document that is no configuration the
name of the configuration.
-/

namespace ImageCatalog.Config

open Text

/-- Why a file is not read: its bytes are no text, its text is no document or no configuration, or a
scalar in it has no value. -/
inductive FileFault
  | notText
  | invalid (report : Invalid)
  | scalar (fault : Yaml.Fault)
deriving DecidableEq, Repr

/-- The document in the content of a file of the given name. -/
def readBytes (fileName : String) (content : List UInt8) : Except FileFault Value :=
  match Utf8.decodeChars? content with
  | none => .error .notText
  | some chars =>
    match Yaml.read (String.ofList (unifyLineEnds chars)) with
    | .ok document => .ok document
    | .error .malformed =>
      .error (.invalid ⟨fileName, ["<root>: " ++ Yaml.Fault.malformed.message]⟩)
    | .error fault => .error (.scalar fault)

/-- The configuration in the content of a file of the given name. -/
def ofBytes (fileName : String) (content : List UInt8) (category : String) :
    Except FileFault Config := do
  let document ← readBytes fileName content
  (build document (nameOfFile fileName) category).mapError .invalid

/-- The category of configurations that do not come from the catalog. -/
def localCategory : String := "local"

end ImageCatalog.Config
