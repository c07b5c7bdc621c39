/-!
# Places in a text

A `Cursor` is the rest of a text together with the place that was reached: how many characters were
read, on which line, and how many of them on that line. Tokens are read by moving a cursor forward.
-/

namespace ImageCatalog.Yaml

/-- Whether a character ends a line. -/
def isBreak (char : Char) : Bool :=
  char == '\n' || char == '\r' || char.toNat == 0x85 || char.toNat == 0x2028 ||
    char.toNat == 0x2029

/-- Whether a character ends a word: a blank or the end of a line. -/
def isBlankOrBreak (char : Char) : Bool :=
  char == ' ' || char == '\t' || isBreak char

/-- Whether the next character, if there is one, belongs to a class; the end of the text does. -/
def endsOr (inClass : Char → Bool) : Option Char → Bool
  | none => true
  | some char => inClass char

/-- A place in a text and the text that follows it. -/
structure Cursor where
  rest : List Char
  index : Nat
  line : Nat
  column : Nat

namespace Cursor

/-- The beginning of a text. -/
def start (chars : List Char) : Cursor :=
  ⟨chars, 0, 0, 0⟩

/-- The character at a distance from the cursor. -/
def peekAt (offset : Nat) (cursor : Cursor) : Option Char :=
  cursor.rest[offset]?

/-- The character at the cursor. -/
def peek (cursor : Cursor) : Option Char :=
  cursor.rest.head?

/-- The cursor behind the next character. -/
def step (cursor : Cursor) : Cursor :=
  match cursor.rest with
  | [] => cursor
  | char :: rest =>
    if isBreak char && !(char == '\r' && rest.head? == some '\n') then
      ⟨rest, cursor.index + 1, cursor.line + 1, 0⟩
    else if char.toNat == 0xFEFF then ⟨rest, cursor.index + 1, cursor.line, cursor.column⟩
    else ⟨rest, cursor.index + 1, cursor.line, cursor.column + 1⟩

/-- The cursor behind a number of characters. -/
def forward : Nat → Cursor → Cursor
  | 0, cursor => cursor
  | count + 1, cursor => forward count cursor.step

/-- The longest run of characters of a class, and the cursor behind it. -/
def span (inClass : Char → Bool) (cursor : Cursor) : List Char × Cursor :=
  let run := cursor.rest.takeWhile inClass
  (run, cursor.forward run.length)

/-- The cursor behind the longest run of characters of a class. -/
def skip (inClass : Char → Bool) (cursor : Cursor) : Cursor :=
  (cursor.span inClass).2

/-- The cursor behind the spaces. -/
def skipSpaces (cursor : Cursor) : Cursor :=
  cursor.skip (· == ' ')

/-- The cursor at the end of the line, if a comment starts here. -/
def skipComment (cursor : Cursor) : Cursor :=
  if cursor.peek = some '#' then cursor.skip fun char => !isBreak char else cursor

/-- The text of the end of a line, if there is one here, and the cursor behind it. -/
def lineBreak (cursor : Cursor) : List Char × Cursor :=
  match cursor.rest with
  | '\r' :: '\n' :: _ => (['\n'], cursor.forward 2)
  | char :: _ =>
    if char.toNat == 0x2028 || char.toNat == 0x2029 then ([char], cursor.step)
    else if isBreak char then (['\n'], cursor.step)
    else ([], cursor)
  | [] => ([], cursor)

/-- Whether a line break is next. -/
def atBreak (cursor : Cursor) : Bool :=
  match cursor.peek with
  | some char => isBreak char
  | none => false

/-- Whether the end of the text is reached. -/
def atEnd (cursor : Cursor) : Bool :=
  cursor.rest.isEmpty

/-- Whether a row of three equal characters stands here as a word of its own. -/
def atMark (char : Char) (cursor : Cursor) : Bool :=
  [char, char, char].isPrefixOf cursor.rest && endsOr isBlankOrBreak (cursor.peekAt 3)

/-- Whether a mark between documents stands here. -/
def atSeparator (cursor : Cursor) : Bool :=
  cursor.atMark '-' || cursor.atMark '.'

/-- The line breaks here and on the blank lines that follow, where up to `limit` columns of spaces
are blank. -/
def breaksWithin (limit : Nat) : Nat → Cursor → List Char × Cursor
  | 0, cursor => ([], cursor)
  | budget + 1, cursor =>
    let spaces := (cursor.rest.takeWhile (· == ' ')).length
    let inner := cursor.forward (min spaces (limit - cursor.column))
    if inner.atBreak then
      let (first, next) := inner.lineBreak
      let (others, behind) := breaksWithin limit budget next
      (first ++ others, behind)
    else ([], inner)

end Cursor

end ImageCatalog.Yaml
