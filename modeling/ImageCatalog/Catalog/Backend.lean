import ImageCatalog.Catalog.Contents
import ImageCatalog.Catalog.Page
import ImageCatalog.Config.FileName
import ImageCatalog.Config.Validation
import ImageCatalog.Http.Client
import ImageCatalog.Text.Percent
import ImageCatalog.Value.Print

/-!
# Backends

The catalog is a directory of categories, each a directory of files. It is read from a static index,
whose directories are pages, or from a repository, whose directories are listings in JSON and whose
requests may carry a token. A backend says at which address each directory is and how its answers
are read; what goes wrong on the way is a `Failure`.
-/

namespace ImageCatalog.Catalog

open Http Text

/-- Where the catalog is read from. -/
inductive Backend
  | staticIndex (base : String)
  | repository (base : String) (token : Option Value)

/-- Why a part of the catalog is not read: the token has no text, the address brings nothing, or the
answer is no document, no listing or no configuration. -/
inductive Failure
  | token (overflow : DigitOverflow)
  | send (fault : SendFault)
  | json (fault : Json.Fault)
  | page (overflow : DigitOverflow)
  | listing (fault : ListingFault)
  | config (report : Config.Invalid)
deriving DecidableEq, Repr

/-- A file of a category with the address of its content. -/
structure File where
  name : String
  address : String
deriving DecidableEq, Repr

/-- What a request for a part of the catalog brings. -/
abbrev Reply := Except Failure Fetched

namespace Backend

/-- The form of answers that is asked of repositories. -/
def contentsForm : String := "application/vnd.github.v3+json"

/-- The headers of all requests to a backend. -/
def headers : Backend → Except DigitOverflow (List (String × String))
  | .staticIndex _ => .ok []
  | .repository _ none => .ok [("Accept", contentsForm)]
  | .repository _ (some token) =>
    token.print.map fun text => [("Accept", contentsForm), ("Authorization", "Bearer " ++ text)]

/-- Fetch an address, with the requests that were made for it. -/
def fetch (network : Network) (backend : Backend) (url : String) : Reply × List Request :=
  match backend.headers with
  | .error overflow => (.error (.token overflow), [])
  | .ok headers =>
    let (result, made) := send network (.get url headers)
    (result.mapError .send, made)

/-- The address of the directory of categories. -/
def categoriesUrl : Backend → String
  | .staticIndex base => base
  | .repository base _ => base

/-- The address of the directory of a category. -/
def filesUrl : Backend → String → String
  | .staticIndex base, category => base ++ Percent.encodePath category ++ "/"
  | .repository base _, category => base ++ Percent.encodePath category

/-- The entries of a directory. -/
def readEntries (backend : Backend) (answer : Fetched) : Except Failure (List Entry) :=
  match backend with
  | .staticIndex _ => (readPage answer.text).mapError .page
  | .repository _ _ => do
    let document ← answer.json.mapError .json
    (readContents document).mapError .listing

/-- Whether an entry of the directory of categories is a category. Static indexes may have hidden
directories, whose names start with a point. -/
def isCategory (backend : Backend) (entry : Entry) : Bool :=
  entry.kind == .directory &&
    match backend with
    | .staticIndex _ => !startsWith "." entry.name
    | .repository _ _ => true

/-- The categories that an answer lists. -/
def readCategories (backend : Backend) (reply : Reply) : Except Failure (List String) := do
  let entries ← backend.readEntries (← reply)
  return (entries.filter backend.isCategory).map Entry.name

/-- The file that an entry of a category is, if it is one and has an address. -/
def fileOf? (backend : Backend) (category : String) (entry : Entry) : Option File :=
  match entry.kind, backend with
  | .directory, _ => none
  | .file, .staticIndex _ =>
    some ⟨entry.name, backend.filesUrl category ++ Percent.encodePath entry.name⟩
  | .file, .repository _ _ =>
    (entry.address.filter fun address => !address.isEmpty).map fun address => ⟨entry.name, address⟩

/-- The files of a category that an answer lists. -/
def readFiles (backend : Backend) (category : String) (reply : Reply) :
    Except Failure (List File) := do
  let entries ← backend.readEntries (← reply)
  return entries.filterMap (backend.fileOf? category)

end Backend

/-- The configuration in the content of a file of a category. -/
def File.readConfig (file : File) (category : String) (reply : Reply) : Except Failure Config := do
  let answer ← reply
  let document ← answer.json.mapError .json
  (Config.build document (Config.nameOfFile file.name) category).mapError .config

end ImageCatalog.Catalog
