import ImageCatalog.Disk.Location
import ImageCatalog.Text.Quoted
import ImageCatalog.Text.Surrogate
import ImageCatalog.Value.Entries

/-!
# Trees of files

A `Tree` holds the files and directories of a disk by their locations. Every name on the way to a
location must lead to a directory; one point stays there, two points lead to the directory above,
and the directories above the current one always exist. All of them can be read; those that are
protected cannot be changed. Operations fail with the first cause met on the way, and none of them
changes anything but the location that it is about.
-/

namespace ImageCatalog.Disk

open Text

/-- What a location holds. -/
inductive Item
  | file (content : List UInt8)
  | directory
deriving DecidableEq, Repr

/-- Why an operation on a location fails. -/
inductive Cause
  | notFound
  | exists
  | notDirectory
  | isDirectory
  | nameTooLong
  | permission
  | nullByte
  | unencodable
deriving DecidableEq, Repr

/-- An operation that failed at a location. -/
structure Fault where
  cause : Cause
  location : Location
deriving DecidableEq, Repr

/-- Whether a cause lies in the names of a location alone, so that the disk is not even asked. -/
def Cause.isOfName : Cause → Bool
  | .nullByte => true
  | .unencodable => true
  | _ => false

/-- The number and the text of a cause; those that lie in names have no number. -/
def Cause.describe : Cause → Option Nat × String
  | .notFound => (some 2, "No such file or directory")
  | .exists => (some 17, "File exists")
  | .notDirectory => (some 20, "Not a directory")
  | .isDirectory => (some 21, "Is a directory")
  | .nameTooLong => (some 36, "File name too long")
  | .permission => (some 13, "Permission denied")
  | .nullByte => (none, "embedded null byte")
  | .unencodable => (none, "")

/-- What is reported about a failed operation. -/
def Fault.message (fault : Fault) : String :=
  match fault.cause.describe with
  | (some number, text) =>
    "[Errno " ++ toString number ++ "] " ++ text ++ ": " ++ Quoted.quote fault.location.print
  | (none, text) => text

/-- The files and directories of a disk, and the locations of those that are protected: a file must
not be written, and nothing must be made in a directory. -/
structure Tree where
  items : List (Location × Item)
  guarded : List Location := []

namespace Tree

/-- A disk with nothing on it. -/
def empty : Tree := { items := [] }

/-- Whether a location exists on every disk: the anchors, and the directories above the current
one. -/
def isFixed (location : Location) : Bool :=
  location.names.all (· == "..")

/-- What a location holds that has no way through other locations. -/
def item? (tree : Tree) (location : Location) : Option Item :=
  if isFixed location then some .directory else Entries.find? location tree.items

/-- The location of a name in a directory. -/
def child (directory : Location) (name : String) : Location :=
  if name = "." then directory
  else if name = ".." then
    match directory.anchor with
    | .here =>
      if isFixed directory then { directory with names := directory.names ++ [".."] }
      else directory.parent
    | _ => directory.parent
  else { directory with names := directory.names ++ [name] }

/-- The number of bytes that a name may have. -/
def nameLimit : Nat := 255

/-- The number of bytes of a character in a name. -/
def bytesInName (char : Char) : Nat :=
  if isStrayByte char then 1 else char.utf8Size

/-- Whether a name is too long. -/
def isTooLong (name : String) : Bool :=
  nameLimit < name.toList.foldl (fun size char => size + bytesInName char) 0

/-- Go from a place along a row of names, all but the last of which must lead to directories. -/
def walk (tree : Tree) (place : Location) : List String → Except Cause Location
  | [] => .ok place
  | name :: rest =>
    match tree.item? place with
    | none => .error .notFound
    | some (.file _) => .error .notDirectory
    | some .directory =>
      if isTooLong name then .error .nameTooLong else tree.walk (child place name) rest

/-- Whether a name has a null byte. -/
def hasNull (name : String) : Bool :=
  name.toList.contains '\x00'

/-- Whether a name has a half in it that is no stray byte. -/
def hasHalf (name : String) : Bool :=
  name.toList.any fun char => isHalf char && !isStrayByte char

/-- What is wrong with the names of a location, whatever is on the disk. -/
def nameFault? (location : Location) : Option Cause :=
  if location.names.any hasHalf then some .unencodable
  else if location.names.any hasNull then some .nullByte
  else none

/-- The place on the disk that a location leads to. -/
def reach (tree : Tree) (location : Location) : Except Cause Location :=
  match nameFault? location with
  | some cause => .error cause
  | none => tree.walk { location with names := [] } location.names

/-- What a location leads to. -/
def look (tree : Tree) (location : Location) : Except Cause Item := do
  let place ← tree.reach location
  match tree.item? place with
  | some item => .ok item
  | none => .error .notFound

/-- What the text of a location leads to; a slash at its end asks for a directory. -/
def lookAt (tree : Tree) (text : String) : Except Cause Item :=
  let pieces := (splitText '/' text).filter fun name => !name.isEmpty
  let names := if endsWith "/" text then pieces ++ ["."] else pieces
  if text.isEmpty then .error .notFound
  else tree.look ⟨Location.anchorOf text.toList, names⟩

/-- Whether a location leads to something; it is an error to ask for a name that is too long. -/
def holds (tree : Tree) (location : Location) : Except Fault Bool :=
  match tree.look location with
  | .ok _ => .ok true
  | .error .nameTooLong => .error ⟨.nameTooLong, location⟩
  | .error _ => .ok false

/-- Whether a location leads to a directory. -/
def isDirectory (tree : Tree) (location : Location) : Bool :=
  match tree.look location with
  | .ok .directory => true
  | _ => false

/-- The content of the file at a location. -/
def contentOf (tree : Tree) (location : Location) : Except Fault (List UInt8) :=
  match tree.look location with
  | .ok (.file content) => .ok content
  | .ok .directory => .error ⟨.isDirectory, location⟩
  | .error cause => .error ⟨cause, location⟩

/-- Put an item at a place, where it is not protected. -/
def put (tree : Tree) (place : Location) (item : Item) : Tree :=
  { items := Entries.put place item tree.items
    guarded := tree.guarded.filter fun other => other != place }

/-- Whether a place must not be changed. -/
def isProtected (tree : Tree) (place : Location) : Bool :=
  tree.guarded.contains place

/-- Put an item at a place where there is none, in a directory that is not protected. -/
def create (tree : Tree) (place : Location) (item : Item) : Except Cause Tree :=
  if tree.isProtected place.parent then .error .permission else .ok (tree.put place item)

/-- Write a file, whose directory must exist. -/
def write (tree : Tree) (location : Location) (content : List UInt8) : Except Fault Tree :=
  match tree.reach location with
  | .error cause => .error ⟨cause, location⟩
  | .ok place =>
    match tree.item? place with
    | some .directory => .error ⟨.isDirectory, location⟩
    | some (.file _) =>
      if tree.isProtected place then .error ⟨.permission, location⟩
      else .ok (tree.put place (.file content))
    | none => (tree.create place (.file content)).mapError fun cause => ⟨cause, location⟩

/-- Make one directory, whose own directory must exist. -/
def makeDirectory (tree : Tree) (location : Location) : Except Cause Tree := do
  let place ← tree.reach location
  match tree.item? place with
  | some _ => .error .exists
  | none => tree.create place .directory

/-- The outcome of making a directory that may be there already. -/
def settleDirectory (tree : Tree) (location : Location) (cause : Cause) : Except Fault Unit :=
  if tree.isDirectory location then .ok () else .error ⟨cause, location⟩

/-- Make the directory of a location with the given names in reverse, and all directories above it
that are missing; those that were made stay even if a later one cannot be made. -/
def makeAbove (tree : Tree) (anchor : Anchor) : List String → Except Fault Unit × Tree
  | [] => (.ok (), tree)
  | name :: above =>
    let location : Location := ⟨anchor, (name :: above).reverse⟩
    match tree.makeDirectory location with
    | .ok made => (.ok (), made)
    | .error .notFound =>
      match tree.makeAbove anchor above with
      | (.error fault, made) => (.error fault, made)
      | (.ok (), made) =>
        match made.makeDirectory location with
        | .ok final => (.ok (), final)
        | .error cause => (made.settleDirectory location cause, made)
    | .error cause => (tree.settleDirectory location cause, tree)

/-- Make a directory and all directories above it that are missing. -/
def makeDirectories (tree : Tree) (location : Location) : Except Fault Unit × Tree :=
  tree.makeAbove location.anchor location.names.reverse

/-- The files of the current directory and below, with their names. -/
def files (tree : Tree) : List (String × List UInt8) :=
  tree.items.filterMap fun (location, item) =>
    match location.anchor, item with
    | .here, .file content => some (location.print, content)
    | _, _ => none

end Tree

end ImageCatalog.Disk
