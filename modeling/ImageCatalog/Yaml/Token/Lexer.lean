import ImageCatalog.Yaml.Token.Block
import ImageCatalog.Yaml.Token.Plain
import ImageCatalog.Yaml.Token.Quoted
import ImageCatalog.Yaml.Token.Tag

/-!
# Reading tokens

Tokens are read one after another. Outside brackets the indentation opens and closes collections: a
sequence or a mapping opens where an entry or a key stands further right than its surroundings, and
closes where a token stands further left. A key needs no mark of its own: only the colon behind it
tells that it was one, so that the place of every token that may begin a key is kept until the colon
or the end of the line. The first token at the indentation of a mapping must turn out to be a key.

No more tokens are read than the nodes call for, so that a fault further on in the text does not
matter to nodes that are at fault themselves. `given` says how far they come before the next token
is read.
-/

namespace ImageCatalog.Yaml

/-- A token that may turn out to begin a key: its number and its place. -/
structure PossibleKey where
  number : Nat
  required : Bool
  index : Nat
  line : Nat
  column : Nat

/-- How far the reading of tokens has come: the cursor, the tokens so far with the last one first,
the columns of the open collections with the innermost first, the depth of brackets, the tokens that
may begin a key by that depth, and whether the next token may begin one. -/
structure Lexer where
  cursor : Cursor
  reversed : List Token
  count : Nat
  indents : List Nat
  depth : Nat
  possible : List (Nat × PossibleKey)
  allowed : Bool

namespace Lexer

/-- The state before the first token. -/
def start (chars : List Char) : Lexer :=
  ⟨Cursor.start chars, [], 0, [], 0, [], true⟩

/-- Whether the reading is inside brackets. -/
def inFlow (lexer : Lexer) : Bool :=
  lexer.depth != 0

/-- The least column of lines inside the innermost collection that is open. -/
def indent (lexer : Lexer) : Nat :=
  match lexer.indents with
  | [] => 0
  | column :: _ => column + 1

/-- Add a token. -/
def push (token : Token) (lexer : Lexer) : Lexer :=
  { lexer with reversed := token :: lexer.reversed, count := lexer.count + 1 }

/-- Add a token in front of the one with a number. -/
def insert (number : Nat) (token : Token) (lexer : Lexer) : Lexer :=
  let later := lexer.count - number
  { lexer with
    reversed := lexer.reversed.take later ++ token :: lexer.reversed.drop later
    count := lexer.count + 1 }

/-- Move the cursor. -/
def moveTo (cursor : Cursor) (lexer : Lexer) : Lexer :=
  { lexer with cursor }

/-- Say whether the next token may begin a key. -/
def allow (allowed : Bool) (lexer : Lexer) : Lexer :=
  { lexer with allowed }

/-- Whether a possible key is too far behind the cursor to be one. -/
def isStale (lexer : Lexer) (key : PossibleKey) : Bool :=
  key.line != lexer.cursor.line || 1024 < lexer.cursor.index - key.index

/-- Forget the possible keys that are too far behind; a required one must not be among them. -/
def dropStale (lexer : Lexer) : Except Fault Lexer :=
  if lexer.possible.any fun (_, key) => lexer.isStale key && key.required then .error .malformed
  else .ok { lexer with possible := lexer.possible.filter fun (_, key) => !lexer.isStale key }

/-- Forget the possible key at this depth; it must not be required. -/
def dropPossible (lexer : Lexer) : Except Fault Lexer :=
  match lexer.possible.lookup lexer.depth with
  | none => .ok lexer
  | some key =>
    if key.required then .error .malformed
    else .ok { lexer with possible := lexer.possible.filter fun (depth, _) => depth != lexer.depth }

/-- Keep the place of the next token, if it may begin a key. -/
def savePossible (lexer : Lexer) : Except Fault Lexer :=
  if lexer.allowed then do
    let cleared ← lexer.dropPossible
    let cursor := lexer.cursor
    let required := !lexer.inFlow && lexer.indents.head? == some cursor.column
    let key : PossibleKey := ⟨lexer.count, required, cursor.index, cursor.line, cursor.column⟩
    return { cleared with possible := (lexer.depth, key) :: cleared.possible }
  else .ok lexer

/-- The collections that stay open at a column, and the number of those that close. -/
def unwindFrom (column : Option Nat) : List Nat → List Nat × Nat
  | [] => ([], 0)
  | indent :: rest =>
    if (column.map fun limit => decide (limit < indent)).getD true then
      let (open', closed) := unwindFrom column rest
      (open', closed + 1)
    else (indent :: rest, 0)

/-- Close the collections that are indented further than a column; without a column, all. -/
def unwind (column : Option Nat) (lexer : Lexer) : Lexer :=
  if lexer.inFlow then lexer
  else
    let (remaining, closed) := unwindFrom column lexer.indents
    { lexer with
      indents := remaining
      reversed := List.replicate closed .blockEnd ++ lexer.reversed
      count := lexer.count + closed }

/-- Whether a column is further right than the innermost collection. -/
def opensAt (column : Nat) (lexer : Lexer) : Bool :=
  match lexer.indents with
  | [] => true
  | indent :: _ => indent < column

/-- Open a collection at a column, if it is further right than the innermost one; the token that
says so is put in front of the one with a number. -/
def openAt (column number : Nat) (token : Token) (lexer : Lexer) : Lexer :=
  if lexer.opensAt column then
    { lexer.insert number token with indents := column :: lexer.indents }
  else lexer

/-- The state behind the blanks and comments before the next token. -/
def skipBlanks : Nat → Lexer → Lexer
  | 0, lexer => lexer
  | budget + 1, lexer =>
    let cursor := lexer.cursor.skipSpaces.skipComment
    if cursor.atBreak then
      let next := lexer.moveTo cursor.lineBreak.2
      skipBlanks budget (if lexer.inFlow then next else next.allow true)
    else lexer.moveTo cursor

/-- The state behind a mark at the beginning of a text that tells its encoding. -/
def skipMark (lexer : Lexer) : Lexer :=
  if lexer.cursor.index = 0 && (lexer.cursor.peek.map Char.toNat) == some 0xFEFF then
    lexer.moveTo lexer.cursor.step
  else lexer

/-- Add a token of a number of characters. -/
def mark (length : Nat) (token : Token) (lexer : Lexer) : Lexer :=
  (lexer.moveTo (lexer.cursor.forward length)).push token

/-- Read a directive. -/
def readDirective (lexer : Lexer) : Except Fault Lexer := do
  let cleared ← (lexer.unwind none).dropPossible
  let (content, behind) ← Directive.read lexer.cursor
  return ((cleared.allow false).moveTo behind).push (.directive content)

/-- Read a mark between documents. -/
def readSeparator (token : Token) (lexer : Lexer) : Except Fault Lexer := do
  let cleared ← (lexer.unwind none).dropPossible
  return (cleared.allow false).mark 3 token

/-- Read an opening bracket. -/
def openBracket (token : Token) (lexer : Lexer) : Except Fault Lexer := do
  let saved ← lexer.savePossible
  return ({ saved with depth := saved.depth + 1 }.allow true).mark 1 token

/-- Read a closing bracket. -/
def closeBracket (token : Token) (lexer : Lexer) : Except Fault Lexer := do
  let cleared ← lexer.dropPossible
  if cleared.depth = 0 then .error .malformed
  else return ({ cleared with depth := cleared.depth - 1 }.allow false).mark 1 token

/-- Read a comma between entries in brackets. -/
def readFlowEntry (lexer : Lexer) : Except Fault Lexer := do
  let cleared ← (lexer.allow true).dropPossible
  return cleared.mark 1 .flowEntry

/-- Open a collection at the cursor, where a token of its own kind may stand. -/
def openHere (token : Token) (lexer : Lexer) : Except Fault Lexer :=
  if lexer.inFlow then .ok lexer
  else if lexer.allowed then .ok (lexer.openAt lexer.cursor.column lexer.count token)
  else .error .malformed

/-- Read the mark of an entry of a sequence. -/
def readBlockEntry (lexer : Lexer) : Except Fault Lexer := do
  let opened ← lexer.openHere .blockSequenceStart
  let cleared ← (opened.allow true).dropPossible
  return cleared.mark 1 .blockEntry

/-- Read the mark of a key. -/
def readKey (lexer : Lexer) : Except Fault Lexer := do
  let opened ← lexer.openHere .blockMappingStart
  let cleared ← (opened.allow !lexer.inFlow).dropPossible
  return cleared.mark 1 .key

/-- Read a colon behind a key. -/
def readValue (lexer : Lexer) : Except Fault Lexer := do
  match lexer.possible.lookup lexer.depth with
  | some key =>
    let found := { lexer with
      possible := lexer.possible.filter fun (depth, _) => depth != lexer.depth }
    let keyed := found.insert key.number .key
    let opened :=
      if lexer.inFlow then keyed else keyed.openAt key.column key.number .blockMappingStart
    return (opened.allow false).mark 1 .value
  | none =>
    let opened ← lexer.openHere .blockMappingStart
    let cleared ← (opened.allow !lexer.inFlow).dropPossible
    return cleared.mark 1 .value

/-- Read the name of an anchor or an alias. -/
def readAnchor (make : String → Token) (lexer : Lexer) : Except Fault Lexer := do
  let saved ← lexer.savePossible
  let (name, behind) ← readName followsAnchor lexer.cursor.step
  return ((saved.allow false).moveTo behind).push (make name)

/-- Read a tag. -/
def readTag (lexer : Lexer) : Except Fault Lexer := do
  let saved ← lexer.savePossible
  let (tag, behind) ← WrittenTag.read lexer.cursor
  return ((saved.allow false).moveTo behind).push (.tag tag)

/-- Read a block scalar. -/
def readBlock (folded : Bool) (lexer : Lexer) : Except Fault Lexer := do
  let cleared ← (lexer.allow true).dropPossible
  let (chars, behind) ← Block.read folded (max 1 lexer.indent) lexer.cursor
  return (cleared.moveTo behind).push (.scalar chars false)

/-- Read a quoted scalar. -/
def readQuoted (double : Bool) (lexer : Lexer) : Except Fault Lexer := do
  let saved ← lexer.savePossible
  let (chars, behind) ← Quoted.read double lexer.cursor
  return ((saved.allow false).moveTo behind).push (.scalar chars false)

/-- Read a plain scalar. A line break behind it allows a key. -/
def readPlain (lexer : Lexer) : Except Fault Lexer := do
  let saved ← lexer.savePossible
  let reading := Plain.read lexer.inFlow lexer.indent lexer.cursor
  return ((saved.allow reading.broken).moveTo reading.behind).push
    (.scalar (String.ofList reading.text) true)

/-- Whether a plain scalar may start with a character that is followed by another one. -/
def startsPlain (inFlow : Bool) (char : Char) (next : Option Char) : Bool :=
  !(isBlankOrBreak char || "-?:,[]\x7b\x7d#&*!|>'\"%@\x60".toList.contains char) ||
    (!endsOr isBlankOrBreak next && (char == '-' || (!inFlow && (char == '?' || char == ':'))))

/-- Read the token that starts with a character. -/
def readToken (char : Char) (lexer : Lexer) : Except Fault Lexer :=
  let next := lexer.cursor.peekAt 1
  let alone := endsOr isBlankOrBreak next
  let first := lexer.cursor.column == 0
  if char = '%' ∧ first then lexer.readDirective
  else if first ∧ lexer.cursor.atMark '-' then lexer.readSeparator .documentStart
  else if first ∧ lexer.cursor.atMark '.' then lexer.readSeparator .documentEnd
  else if char = '[' then lexer.openBracket .flowSequenceStart
  else if char = '\x7b' then lexer.openBracket .flowMappingStart
  else if char = ']' then lexer.closeBracket .flowSequenceEnd
  else if char = '\x7d' then lexer.closeBracket .flowMappingEnd
  else if char = ',' then lexer.readFlowEntry
  else if char = '-' ∧ alone then lexer.readBlockEntry
  else if char = '?' ∧ (lexer.inFlow ∨ alone) then lexer.readKey
  else if char = ':' ∧ (lexer.inFlow ∨ alone) then lexer.readValue
  else if char = '*' then lexer.readAnchor .alias
  else if char = '&' then lexer.readAnchor .anchor
  else if char = '!' then lexer.readTag
  else if char = '|' ∧ !lexer.inFlow then lexer.readBlock false
  else if char = '>' ∧ !lexer.inFlow then lexer.readBlock true
  else if char = '\'' then lexer.readQuoted false
  else if char = '"' then lexer.readQuoted true
  else if startsPlain lexer.inFlow char next then lexer.readPlain
  else .error .malformed

/-- Read one more token, or come to the end of the text with all of them. -/
def readNext (lexer : Lexer) : Except Fault (Lexer ⊕ List Token) := do
  let skipped := lexer.skipMark.skipBlanks (lexer.cursor.rest.length + 1)
  let fresh ← skipped.dropStale
  let placed := fresh.unwind (some fresh.cursor.column)
  match placed.cursor.peek with
  | some char => return .inl (← placed.readToken char)
  | none =>
    let cleared ← (placed.unwind none).dropPossible
    return .inr cleared.reversed.reverse

/-- The tokens that are given out before one more is read: one that may turn out to begin a key is
held back, and so are all behind it. -/
def given (lexer : Lexer) : List Token :=
  let held := (lexer.possible.filter fun (_, key) => !lexer.isStale key).map fun (_, key) =>
    key.number
  match held.min? with
  | some number => lexer.reversed.reverse.take number
  | none => lexer.reversed.reverse

/-- All tokens, up to the end of the text or to a fault. -/
def readAll : Nat → Lexer → Cut
  | 0, lexer => ⟨lexer.given, some .malformed⟩
  | budget + 1, lexer =>
    match lexer.readNext with
    | .ok (.inl next) => readAll budget next
    | .ok (.inr found) => ⟨found, none⟩
    | .error fault => ⟨lexer.given, some fault⟩

end Lexer

/-- Whether a character may stand in a document. -/
def isDocumentChar (char : Char) : Bool :=
  let code := char.toNat
  code == 9 || code == 10 || code == 13 || (0x20 ≤ code && code ≤ 0x7E) || code == 0x85 ||
    (0xA0 ≤ code && code ≤ 0xFFFD) || 0x10000 ≤ code

/-- The tokens of a text. -/
def cut (chars : List Char) : Cut :=
  if chars.all isDocumentChar then (Lexer.start chars).readAll (chars.length + 2)
  else ⟨[], some .malformed⟩

end ImageCatalog.Yaml
