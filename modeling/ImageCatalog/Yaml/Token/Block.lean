import ImageCatalog.Text.Digit
import ImageCatalog.Yaml.Cursor
import ImageCatalog.Yaml.Fault

/-!
# Block scalars

A block scalar starts with a mark for literal or folded text, which may be followed by the number of
columns of its indentation and by a sign that says what becomes of the line breaks at its end. Its
lines are the ones with at least its indentation; in folded text a line break between two lines that
do not start with a blank counts as a space.
-/

namespace ImageCatalog.Yaml.Block

/-- What becomes of the line breaks at the end: all but the first are dropped, all are dropped, or
all are kept. -/
inductive Chomping
  | clip
  | strip
  | keep
deriving DecidableEq, Repr

/-- What a sign says about the line breaks at the end. -/
def chompingOf? : Char → Option Chomping
  | '+' => some .keep
  | '-' => some .strip
  | _ => none

/-- The marks after the one that starts a scalar. -/
structure Header where
  chomping : Chomping
  increment : Option Nat
deriving DecidableEq, Repr

/-- The number of columns that a digit announces, which must not be zero. -/
def readIncrement (cursor : Cursor) : Except Fault (Option Nat × Cursor) :=
  match cursor.peek with
  | some char =>
    if char = '0' then .error .malformed
    else if char.isDigit then .ok (some (char.toNat - 48), cursor.step)
    else .ok (none, cursor)
  | none => .ok (none, cursor)

/-- What a sign at the cursor says about the line breaks at the end. -/
def readChomping (cursor : Cursor) : Option Chomping × Cursor :=
  match cursor.peek.bind chompingOf? with
  | some chomping => (some chomping, cursor.step)
  | none => (none, cursor)

/-- The marks after the one that starts a scalar, in either order. -/
def readHeader (cursor : Cursor) : Except Fault (Header × Cursor) := do
  match readChomping cursor with
  | (some chomping, next) =>
    let (increment, behind) ← readIncrement next
    return (⟨chomping, increment⟩, behind)
  | (none, _) =>
    match ← readIncrement cursor with
    | (some increment, next) =>
      let (chomping, behind) := readChomping next
      return (⟨chomping.getD .clip, some increment⟩, behind)
    | (none, next) => return (⟨.clip, none⟩, next)

/-- The rest of the first line, which may only hold a comment. -/
def skipLine (cursor : Cursor) : Except Fault Cursor :=
  let inner := cursor.skipSpaces.skipComment
  if inner.atEnd || inner.atBreak then .ok inner.lineBreak.2 else .error .malformed

/-- The line breaks before the first line with text, and the largest number of columns before them.
-/
def leading : Nat → Nat → Cursor → List Char × Nat × Cursor
  | 0, widest, cursor => ([], widest, cursor)
  | budget + 1, widest, cursor =>
    let inner := cursor.skipSpaces
    let wider := if cursor.peek = some ' ' then max widest inner.column else widest
    if inner.atBreak then
      let (first, next) := inner.lineBreak
      let (others, result, behind) := leading budget wider next
      (first ++ others, result, behind)
    else ([], wider, inner)

/-- Whether the cursor stands at the beginning of a line of the scalar. -/
def atLine (indent : Nat) (cursor : Cursor) : Bool :=
  cursor.column == indent && !cursor.atEnd

/-- Whether the character at the cursor is a blank. -/
def atBlank (cursor : Cursor) : Bool :=
  cursor.peek == some ' ' || cursor.peek == some '\t'

/-- The lines of a scalar from the cursor on: their text, the last line break, the breaks of the
blank lines after it, and the cursor behind. -/
def readLines (folded : Bool) (indent : Nat) :
    Nat → Cursor → List Char × List Char × List Char × Cursor
  | 0, cursor => ([], [], [], cursor)
  | budget + 1, cursor =>
    let (line, atLineEnd) := cursor.span fun char => !isBreak char
    let (lineEnd, next) := atLineEnd.lineBreak
    let (breaks, behind) := next.breaksWithin indent (next.rest.length + 1)
    if atLine indent behind then
      let joint :=
        if folded && lineEnd == ['\n'] && !atBlank cursor && !atBlank behind then
          (if breaks.isEmpty then [' '] else [])
        else lineEnd
      let (others, lastEnd, lastBreaks, final) := readLines folded indent budget behind
      (line ++ joint ++ breaks ++ others, lastEnd, lastBreaks, final)
    else (line, lineEnd, breaks, behind)

/-- The text of a scalar whose header is read, in surroundings whose lines start at a column. -/
def readBody (folded : Bool) (header : Header) (least : Nat) (cursor : Cursor) :
    List Char × Cursor :=
  let budget := cursor.rest.length + 1
  let (breaks, indent, first) :=
    match header.increment with
    | none =>
      let (breaks, widest, behind) := leading budget 0 cursor
      (breaks, max least widest, behind)
    | some increment =>
      let indent := least + increment - 1
      let (breaks, behind) := cursor.breaksWithin indent budget
      (breaks, indent, behind)
  let (before, text, lineEnd, after, behind) :=
    if atLine indent first then
      let (text, lineEnd, after, behind) := readLines folded indent budget first
      (breaks, text, lineEnd, after, behind)
    else ([], [], [], breaks, first)
  let tail :=
    match header.chomping with
    | .clip => lineEnd
    | .strip => []
    | .keep => lineEnd ++ after
  (before ++ text ++ tail, behind)

/-- A block scalar that starts at the cursor. -/
def read (folded : Bool) (least : Nat) (cursor : Cursor) : Except Fault (String × Cursor) := do
  let (header, afterHeader) ← readHeader cursor.step
  match afterHeader.peek with
  | some char =>
    if char = ' ' ∨ isBreak char then
      let body ← skipLine afterHeader
      let (chars, behind) := readBody folded header least body
      return (String.ofList chars, behind)
    else .error .malformed
  | none =>
    let (chars, behind) := readBody folded header least afterHeader
    return (String.ofList chars, behind)

end ImageCatalog.Yaml.Block
