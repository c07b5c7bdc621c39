import ImageCatalog.Text.Blank
import ImageCatalog.Text.Split

/-!
# Path expressions

A path is a row of segments separated by points. A segment is a field name, followed by any number
of expressions in brackets, of which either may be missing; blanks around names and expressions do
not count, and blank segments are skipped. `parse` turns a path into its steps. Every text is a
path: brackets that are not closed on the same line belong to the field name, and what follows the
first closing bracket counts only if it is bracketed too.
-/

namespace ImageCatalog.Path

open Text

/-- One step into a document: to a field, or into a list by the expression of a bracket. -/
inductive Step
  | key (name : String)
  | index (expression : String)
deriving DecidableEq, Repr

/-- The characters up to the first closing bracket on the same line, and the number of characters
that they take with the bracket. -/
def bracketed? : List Char → Option (List Char × Nat)
  | [] => none
  | ']' :: _ => some ([], 1)
  | '\n' :: _ => none
  | char :: rest => (bracketed? rest).map fun (found, length) => (char :: found, length + 1)

/-- The bracketed expressions of a segment, after leaving out its first `skipped` characters. -/
def expressionsFrom : Nat → List Char → List (List Char)
  | _, [] => []
  | skipped + 1, _ :: rest => expressionsFrom skipped rest
  | 0, char :: rest =>
    if char = '[' then
      match bracketed? rest with
      | some (found, length) => found :: expressionsFrom length rest
      | none => expressionsFrom 0 rest
    else expressionsFrom 0 rest

/-- The characters of a segment before its first bracketed expression. -/
def fieldOf : List Char → List Char
  | [] => []
  | char :: rest =>
    if char = '[' && (bracketed? rest).isSome then [] else char :: fieldOf rest

/-- The steps of one segment. -/
def stepsOfSegment (segment : List Char) : List Step :=
  let field := trim (fieldOf segment)
  let indexes := (expressionsFrom 0 segment).map fun found =>
    Step.index (String.ofList (trim found))
  if field.isEmpty then indexes else .key (String.ofList field) :: indexes

/-- The steps of a path given by its characters. -/
def parseChars (chars : List Char) : List Step :=
  (splitAtChar '.' chars).flatMap stepsOfSegment

/-- The steps of a path. -/
def parse (path : String) : List Step :=
  parseChars path.toList

end ImageCatalog.Path
