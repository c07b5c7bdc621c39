import ImageCatalog.Settings.Basic
import ImageCatalog.Settings.Store

/-!
# Settings in force

The settings in force are the saved ones where they are set, and the settings of the environment
otherwise. Saved values that are empty count as not set, except that of the switch between the two
kinds of index, for which any value but null counts. Addresses end in a slash.
-/

namespace ImageCatalog.Settings

open Disk Text

/-- The settings that can be saved. -/
inductive SavedName
  | token
  | usesStaticIndex
  | repositoryUrl
  | staticUrl
  | downloads
deriving DecidableEq, Repr

namespace SavedName

/-- The name under which a setting is saved. -/
def key : SavedName → String
  | .token => "github_pat"
  | .usesStaticIndex => "use_static_index"
  | .repositoryUrl => "github_api_url"
  | .staticUrl => "static_api_url"
  | .downloads => "download_path"

/-- The settings that can be saved, in the order in which they are offered. -/
def all : List SavedName :=
  [.token, .usesStaticIndex, .repositoryUrl, .staticUrl, .downloads]

/-- The setting of a name. -/
def ofKey? (key : String) : Option SavedName :=
  all.find? fun name => name.key == key

/-- Whether a setting says where the catalog is read from. -/
def concernsCatalog : SavedName → Bool
  | .downloads => false
  | _ => true

end SavedName

/-- Whether a name belongs to a setting that says where the catalog is read from. -/
def concernsCatalog (key : String) : Bool :=
  (SavedName.ofKey? key).any SavedName.concernsCatalog

theorem concernsCatalog_key (name : SavedName) :
    concernsCatalog name.key = name.concernsCatalog := by
  cases name <;> rfl

/-- The settings in force. -/
structure Effective where
  staticUrl : String
  repositoryUrl : String
  usesStaticIndex : Bool
  token : Option Value
  downloads : Location

namespace Effective

/-- Why saved settings do not fit: an address or a location is no text, or a location has no home
directory. -/
inductive Fault
  | addressNotText
  | locationNotText
  | homeUnknown
deriving DecidableEq, Repr

/-- Whether a text switches something on. -/
def isSwitchedOn (text : String) : Bool :=
  ["1", "true", "yes", "on"].contains (lowerWord (strip text))

/-- Whether a saved value switches something on. -/
def asFlag : Value → Bool
  | .text chars => isSwitchedOn chars
  | other => other.isTruthy

/-- An address with a slash at its end. -/
def asDirectory (url : String) : String :=
  if endsWith "/" url then url else url ++ "/"

/-- The saved value of a name, unless it counts as not set. -/
def saved? (store : Store) (name : SavedName) : Option Value :=
  (Entries.find? name.key store.values).filter Value.isTruthy

/-- The address that a setting gives. -/
def address (store : Store) (name : SavedName) (fallback : String) : Except Fault String :=
  match saved? store name with
  | none => .ok (asDirectory fallback)
  | some (.text url) => .ok (asDirectory url)
  | some _ => .error .addressNotText

/-- The directory for downloaded images. -/
def downloadsOf (homes : Homes) (store : Store) (fallback : Location) : Except Fault Location :=
  match saved? store .downloads with
  | none => expand fallback
  | some (.text path) => expand (.ofText path)
  | some _ => .error .locationNotText
where
  /-- A location with the home directory put in. -/
  expand (location : Location) : Except Fault Location :=
    match location.expandHome? homes with
    | some expanded => .ok expanded
    | none => .error .homeUnknown

/-- Whether the static index is used. -/
def usesStaticIndexOf (store : Store) (fallback : Bool) : Bool :=
  let value := store.get SavedName.usesStaticIndex.key
  if value.isNull then fallback else asFlag value

/-- The settings in force with some saved settings and those of the environment. -/
def of (homes : Homes) (store : Store) (settings : Settings) : Except Fault Effective := do
  let staticUrl ← address store .staticUrl settings.staticUrl
  let repositoryUrl ← address store .repositoryUrl settings.repositoryUrl
  let downloads ← downloadsOf homes store settings.downloads
  return {
    staticUrl
    repositoryUrl
    usesStaticIndex := usesStaticIndexOf store settings.usesStaticIndex
    token := (saved? store .token).or (settings.token.map Value.text)
    downloads }

end Effective

end ImageCatalog.Settings
