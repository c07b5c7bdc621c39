import ImageCatalog.Catalog.Entry
import ImageCatalog.Text.Digit
import ImageCatalog.Value.Basic
import ImageCatalog.Value.Entries

/-!
# Listings in JSON

The contents interface of a repository answers with an array of objects. Objects of other types than
directories and files are left out, as are those without a name. The address of a file must be a
text if there is one.
-/

namespace ImageCatalog.Catalog

/-- Why a listing is not read. -/
inductive ListingFault
  | notArray (kind : String)
  | addressNotText
  | overlong (overflow : Text.DigitOverflow)
deriving DecidableEq, Repr

/-- What is reported about a listing that is not read. -/
def ListingFault.message : ListingFault → String
  | .notArray kind => "expected a JSON array listing, got " ++ kind
  | .addressNotText => "download_url: Input should be a valid string"
  | .overlong overflow => overflow.message

/-- The address of an item, if it has one. -/
def addressOf (fields : List (String × Value)) : Except ListingFault (Option String) :=
  match Entries.find? "download_url" fields with
  | none => .ok none
  | some .null => .ok none
  | some (.text address) => .ok (some address)
  | some _ => .error .addressNotText

/-- The kind and the name of an item that is an entry. -/
def identify? (fields : List (String × Value)) : Option (EntryKind × String) := do
  let tag ← (← Entries.find? "type" fields).text?
  let kind ← EntryKind.ofTag? tag
  let name ← (← Entries.find? "name" fields).text?
  return (kind, name)

/-- The entry of an item, if it is one. -/
def entryOfItem? (item : Value) : Except ListingFault (Option Entry) :=
  match item with
  | .object fields =>
    match identify? fields with
    | some (kind, name) => (addressOf fields).map fun address => some ⟨name, kind, address⟩
    | none => .ok none
  | _ => .ok none

/-- The entries of a listing. -/
def readContents (listing : Value) : Except ListingFault (List Entry) :=
  match listing with
  | .list items => do
    let found ← items.mapM entryOfItem?
    return found.filterMap id
  | other => .error (.notArray other.kindName)

end ImageCatalog.Catalog
