/-!
# Entries of a listing

A directory of the catalog lists its entries: directories and files with their names and, where the
listing tells it, the address of the file.
-/

namespace ImageCatalog.Catalog

/-- What an entry of a listing is. -/
inductive EntryKind
  | directory
  | file
deriving DecidableEq, Repr

/-- The word for a kind of entry in listings. -/
def EntryKind.tag : EntryKind → String
  | .directory => "dir"
  | .file => "file"

/-- The kind of entry of a word. -/
def EntryKind.ofTag? : String → Option EntryKind
  | "dir" => some .directory
  | "file" => some .file
  | _ => none

/-- An entry of a listing. -/
structure Entry where
  name : String
  kind : EntryKind
  address : Option String
deriving DecidableEq, Repr

end ImageCatalog.Catalog
