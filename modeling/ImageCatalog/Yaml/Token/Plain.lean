import ImageCatalog.Yaml.Cursor

/-!
# Plain scalars

A plain scalar has no quotes. It ends at a colon that is followed by a blank, at a comment, at less
indentation than its surroundings have, and inside brackets also at the marks that belong to them.
A line break counts as a space, and blank lines as line breaks.
-/

namespace ImageCatalog.Yaml.Plain

/-- Whether a colon before the given character ends a scalar. -/
def colonEnds (inFlow : Bool) (next : Option Char) : Bool :=
  let ends (char : Char) :=
    isBlankOrBreak char || (inFlow && [',', '[', ']', '\x7b', '\x7d'].contains char)
  endsOr ends next

/-- The characters of a scalar on one line, up to a blank. -/
def word (inFlow : Bool) : List Char → List Char
  | [] => []
  | char :: rest =>
    if isBlankOrBreak char || (char == ':' && colonEnds inFlow rest.head?) ||
        (inFlow && [',', '?', '[', ']', '\x7b', '\x7d'].contains char) then []
    else char :: word inFlow rest

/-- The blanks after a word: their text, the cursor behind them, and whether they held a line break.
There is no text if the scalar ends here. -/
structure Gap where
  text : List Char
  behind : Cursor
  broken : Bool

/-- The breaks of the blank lines here, and whether a mark between documents follows. -/
def blankLines : Nat → Cursor → List Char × Bool × Cursor
  | 0, cursor => ([], false, cursor)
  | budget + 1, cursor =>
    let inner := cursor.skipSpaces
    if inner.atBreak then
      let (first, next) := inner.lineBreak
      if next.atSeparator then (first, true, next)
      else
        let (others, separated, behind) := blankLines budget next
        (first ++ others, separated, behind)
    else ([], false, inner)

/-- The blanks after a word. -/
def gap (cursor : Cursor) : Gap :=
  let (spaces, inner) := cursor.span (· == ' ')
  if inner.atBreak then
    let (first, next) := inner.lineBreak
    if next.atSeparator then ⟨[], next, true⟩
    else
      let (others, separated, behind) := blankLines (next.rest.length + 1) next
      if separated then ⟨[], behind, true⟩
      else
        let fold := if first != ['\n'] then first else if others.isEmpty then [' '] else []
        ⟨fold ++ others, behind, true⟩
  else ⟨spaces, inner, false⟩

/-- What was read of a scalar: its text, the cursor behind it and the blanks after it, and whether
the last blanks held a line break. -/
structure Reading where
  text : List Char
  behind : Cursor
  broken : Bool

/-- The rest of a scalar in surroundings with the given indentation, after some blanks. -/
def readRest (inFlow : Bool) (indent : Nat) : Nat → List Char → Bool → Cursor → Reading
  | 0, _, broken, cursor => ⟨[], cursor, broken⟩
  | budget + 1, spaces, broken, cursor =>
    let found := word inFlow cursor.rest
    if cursor.peek = some '#' || found.isEmpty then ⟨[], cursor, broken⟩
    else
      let after := gap (cursor.forward found.length)
      let text := spaces ++ found
      if after.text.isEmpty || after.behind.peek = some '#' ||
          (!inFlow && after.behind.column < indent) then
        ⟨text, after.behind, after.broken⟩
      else
        let rest := readRest inFlow indent budget after.text after.broken after.behind
        ⟨text ++ rest.text, rest.behind, rest.broken⟩

/-- A plain scalar that starts at the cursor. -/
def read (inFlow : Bool) (indent : Nat) (cursor : Cursor) : Reading :=
  readRest inFlow indent (cursor.rest.length + 1) [] false cursor

end ImageCatalog.Yaml.Plain
