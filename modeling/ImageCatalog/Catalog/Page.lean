import ImageCatalog.Catalog.Entry
import ImageCatalog.Text.Blank
import ImageCatalog.Text.Entity
import ImageCatalog.Text.Split

/-!
# Listings in pages

A static server shows a directory as a page in which every entry is an anchor on one line. The class
of the anchor tells directories (`folder`) from files (`file`), and its text is the name of the
entry. Anchors are found from left to right; each is the shortest one that starts at its place,
where only the class may contain line breaks.
-/

namespace ImageCatalog.Catalog

open Text

/-- An anchor of a page: the text of its class and the text that it shows. -/
structure Anchor where
  classes : List Char
  label : List Char
deriving DecidableEq, Repr

/-- The characters before the first occurrence of a pattern on the same line, and those after it. -/
def cutOnLine? (pattern : List Char) : List Char → Option (List Char × List Char)
  | [] => if pattern.isEmpty then some ([], []) else none
  | char :: rest =>
    if pattern.isPrefixOf (char :: rest) then some ([], (char :: rest).drop pattern.length)
    else if char = '\n' then none
    else (cutOnLine? pattern rest).map fun (before, after) => (char :: before, after)

/-- The label of an anchor and what follows the anchor; the label has at least one character. -/
def label? : List Char → Option (List Char × List Char)
  | [] => none
  | char :: rest =>
    if char = '\n' then none
    else (cutOnLine? "</a>".toList rest).map fun (before, after) => (char :: before, after)

/-- The anchor whose class starts here, after its opening quote. -/
def anchorFromClass? (chars : List Char) : Option (Anchor × List Char) := do
  let classes := chars.takeWhile (· != '"')
  match chars.drop classes.length with
  | '"' :: rest =>
    if classes.isEmpty then none
    else
      let (_, afterTag) ← cutOnLine? ['>'] rest
      let (label, after) ← label? afterTag
      return (⟨classes, label⟩, after)
  | _ => none

/-- The mark before the class of an anchor. -/
def classMark : List Char := " class=\"".toList

/-- The anchor with the first class on this line from which an anchor can be completed. -/
def anchorBody? : List Char → Option (Anchor × List Char)
  | [] => none
  | char :: rest =>
    let here :=
      if classMark.isPrefixOf (char :: rest) then
        anchorFromClass? ((char :: rest).drop classMark.length)
      else none
    match here with
    | some found => some found
    | none => if char = '\n' then none else anchorBody? rest

/-- The mark at which anchors start. -/
def anchorMark : List Char := "<a href=".toList

/-- The anchor that starts at the front of a text, and what follows it. -/
def anchor? (chars : List Char) : Option (Anchor × List Char) :=
  if anchorMark.isPrefixOf chars then anchorBody? (chars.drop anchorMark.length) else none

/-- The anchors of a page, after leaving out its first `skipped` characters. -/
def anchorsFrom : Nat → List Char → List Anchor
  | _, [] => []
  | skipped + 1, _ :: rest => anchorsFrom skipped rest
  | 0, char :: rest =>
    match anchor? (char :: rest) with
    | some (found, after) => found :: anchorsFrom (rest.length - after.length) rest
    | none => anchorsFrom 0 rest

/-- The anchors of a page. -/
def anchors (page : List Char) : List Anchor :=
  anchorsFrom 0 page

/-- The kind of entry of a class, if it names one. -/
def kindOfClasses? (classes : List Char) : Option EntryKind :=
  if occursIn "folder".toList classes then some .directory
  else if occursIn "file".toList classes then some .file
  else none

/-- The name that a label shows: its references resolved, without blanks at the ends and without a
final slash. -/
def nameOfLabel (label : List Char) : Except DigitOverflow (List Char) := do
  let shown ← Entity.resolveFrom 0 label
  let name := trim shown
  return if name.getLast? = some '/' then name.dropLast else name

/-- The entry of an anchor, if it is one. -/
def entryOfAnchor? (anchor : Anchor) : Except DigitOverflow (Option Entry) := do
  let name ← nameOfLabel anchor.label
  if name.isEmpty then return none
  else return (kindOfClasses? anchor.classes).map fun kind => ⟨String.ofList name, kind, none⟩

/-- The entries of a page. -/
def readPage (page : String) : Except DigitOverflow (List Entry) := do
  let found ← (anchors page.toList).mapM entryOfAnchor?
  return found.filterMap id

end ImageCatalog.Catalog
