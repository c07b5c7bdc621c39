import ImageCatalog.Text.Split

/-!
# Locations of files

A location is a root, which may be missing, and a row of names. Reading a text drops empty names and
single points; two slashes at the front, and no more, are a root of their own. The name of a
location splits into a stem and a suffix at its last point, unless the point is the first or last
character. A tilde in front stands for a home directory, which is looked up among those of the
users.
-/

namespace ImageCatalog.Disk

open Text

/-- Where a location starts: at the current directory, or at one of the two roots. -/
inductive Anchor
  | here
  | root
  | doubleRoot
deriving DecidableEq, Repr

/-- The text of an anchor. -/
def Anchor.print : Anchor → String
  | .here => ""
  | .root => "/"
  | .doubleRoot => "//"

/-- The location of a file or a directory. -/
structure Location where
  anchor : Anchor
  names : List String
deriving DecidableEq, Repr

/-- The home directories that are known: one's own under the empty name, and those of users under
their names. -/
structure Homes where
  find? : String → Option Location

/-- One's own home directory, where those of other users are not known. -/
def Homes.own (home : Location) : Homes :=
  ⟨fun user => if user.isEmpty then some home else none⟩

namespace Location

/-- The anchor of a text. -/
def anchorOf : List Char → Anchor
  | '/' :: '/' :: '/' :: _ => .root
  | '/' :: '/' :: _ => .doubleRoot
  | '/' :: _ => .root
  | _ => .here

/-- The location of a text. -/
def ofText (text : String) : Location :=
  { anchor := anchorOf text.toList
    names := (splitText '/' text).filter fun name => !name.isEmpty && name != "." }

/-- The text of a location. -/
def print (location : Location) : String :=
  if location.anchor = .here && location.names.isEmpty then "."
  else location.anchor.print ++ joinText "/" location.names

/-- The location of a text, seen from a directory. -/
def join (directory : Location) (text : String) : Location :=
  let further := ofText text
  match further.anchor with
  | .here => { directory with names := directory.names ++ further.names }
  | _ => further

/-- The directory of a location; a location without names is its own directory. -/
def parent (location : Location) : Location :=
  { location with names := location.names.dropLast }

/-- The last name of a location. -/
def name (location : Location) : String :=
  location.names.getLast?.getD ""

/-- The characters before the last point, if there is a point. -/
def beforeLastPoint? (chars : List Char) : Option (List Char) :=
  let reversed := chars.reverse
  if reversed.contains '.' then some ((reversed.dropWhile (· != '.')).drop 1).reverse else none

/-- The name of a location without its suffix. -/
def stem (location : Location) : String :=
  let chars := location.name.toList
  match beforeLastPoint? chars with
  | some before =>
    if before.isEmpty || before.length + 1 = chars.length then location.name
    else String.ofList before
  | none => location.name

/-- The user whose home directory a location starts with, if its first name starts with a tilde; a
tilde alone stands for one's own, and the user is the empty name. -/
def user? (location : Location) : Option String :=
  match location.anchor, location.names with
  | .here, first :: _ =>
    if startsWith "~" first then some (String.ofList (first.toList.drop 1)) else none
  | _, _ => none

/-- The location with the home directory put in for a first name that starts with a tilde; there is
none if that directory is not known. -/
def expandHome? (location : Location) (homes : Homes) : Option Location :=
  match location.user? with
  | none => some location
  | some user =>
    (homes.find? user).map fun home => { home with names := home.names ++ location.names.drop 1 }

end Location

end ImageCatalog.Disk
