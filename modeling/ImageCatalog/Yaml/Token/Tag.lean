import ImageCatalog.Text.Hex
import ImageCatalog.Text.Utf8
import ImageCatalog.Yaml.Cursor
import ImageCatalog.Yaml.Fault
import ImageCatalog.Yaml.Token.Basic

/-!
# Names, tags and directives

Anchors and aliases are named by words of letters, digits, hyphens and underscores. A tag is a
handle and a suffix, a text between angle brackets, or an exclamation mark alone; directives declare
handles and the version of the format.
-/

namespace ImageCatalog.Yaml

open Text

/-- Whether a character may stand in a name. -/
def isWordChar (char : Char) : Bool :=
  char.isAlphanum || char == '-' || char == '_'

/-- A name that is followed by a character of a class. -/
def readName (follows : Char → Bool) (cursor : Cursor) : Except Fault (String × Cursor) :=
  let (name, behind) := cursor.span isWordChar
  if name.isEmpty || !endsOr follows behind.peek then .error .malformed
  else .ok (String.ofList name, behind)

/-- Whether a character may follow the name of an anchor or an alias. -/
def followsAnchor (char : Char) : Bool :=
  isBlankOrBreak char || ['?', ':', ',', ']', '\x7d', '%', '@', '\x60'].contains char

/-- Whether a space or the end of a line may follow here. -/
def isSpaceOrBreak (char : Char) : Bool :=
  char == ' ' || isBreak char

namespace WrittenTag

/-- Whether a character may stand in the suffix of a tag. -/
def isSuffixChar (char : Char) : Bool :=
  isWordChar char ||
    [';', '/', '?', ':', '@', '&', '=', '+', '$', ',', '.', '!', '~', '*', '\'', '(', ')', '[',
      ']'].contains char

/-- The bytes of a row of escapes at the front of a text. -/
def escapedBytes? : List Char → Option (List UInt8 × Nat)
  | '%' :: high :: low :: rest => do
    let first ← hexValue? high
    let second ← hexValue? low
    let (others, length) ← escapedBytes? rest
    return (UInt8.ofNat (16 * first + second) :: others, length + 3)
  | '%' :: _ => none
  | _ => some ([], 0)

/-- The suffix of a tag. -/
def readSuffixRest : Nat → Cursor → Except Fault (List Char × Cursor)
  | 0, _ => .error .malformed
  | budget + 1, cursor =>
    let (run, behind) := cursor.span isSuffixChar
    if behind.peek = some '%' then do
      match escapedBytes? behind.rest with
      | some (bytes, length) =>
        match Utf8.decodeChars? bytes with
        | some chars =>
          let (others, final) ← readSuffixRest budget (behind.forward length)
          return (run ++ chars ++ others, final)
        | none => .error .malformed
      | none => .error .malformed
    else .ok (run, behind)

/-- The suffix of a tag, which is not empty. -/
def readSuffix (cursor : Cursor) : Except Fault (String × Cursor) := do
  let (chars, behind) ← readSuffixRest (cursor.rest.length + 1) cursor
  if behind.index = cursor.index then .error .malformed
  else return (String.ofList chars, behind)

/-- The handle of a tag: an exclamation mark, or two around a name. -/
def readHandle (cursor : Cursor) : Except Fault (String × Cursor) :=
  if cursor.peek = some '!' then
    if cursor.peekAt 1 = some ' ' then .ok ("!", cursor.step)
    else
      let (name, behind) := cursor.step.span isWordChar
      if behind.peek = some '!' then .ok (String.ofList ('!' :: name ++ ['!']), behind.step)
      else .error .malformed
  else .error .malformed

/-- Whether the word at the front of a text has an exclamation mark. -/
def hasHandle (chars : List Char) : Bool :=
  (chars.takeWhile fun char => !isSpaceOrBreak char).contains '!'

/-- The tag behind the exclamation mark at the cursor, without what must follow it. -/
def readParts (cursor : Cursor) : Except Fault (WrittenTag × Cursor) := do
  match cursor.peekAt 1 with
  | some '<' =>
    let (suffix, behind) ← readSuffix (cursor.forward 2)
    if behind.peek = some '>' then return (⟨none, suffix⟩, behind.step) else .error .malformed
  | next =>
    if endsOr isBlankOrBreak next then return (⟨none, "!"⟩, cursor.step)
    else if hasHandle (cursor.rest.drop 1) then
      let (handle, afterHandle) ← readHandle cursor
      let (suffix, behind) ← readSuffix afterHandle
      return (⟨some handle, suffix⟩, behind)
    else
      let (suffix, behind) ← readSuffix cursor.step
      return (⟨some "!", suffix⟩, behind)

/-- A tag that starts at the cursor. -/
def read (cursor : Cursor) : Except Fault (WrittenTag × Cursor) := do
  let (tag, behind) ← readParts cursor
  if endsOr isSpaceOrBreak behind.peek then return (tag, behind) else .error .malformed

end WrittenTag

namespace Directive

/-- A number of a version. -/
def readNumber (cursor : Cursor) : Except Fault (Nat × Cursor) :=
  let (digits, behind) := cursor.span Char.isDigit
  if digits.isEmpty then .error .malformed
  else
    match readDigits digits with
    | .ok number => .ok (number, behind)
    | .error overflow => .error (.overlong overflow)

/-- The version that a directive declares. -/
def readVersion (cursor : Cursor) : Except Fault (Directive × Cursor) := do
  let (major, afterMajor) ← readNumber cursor.skipSpaces
  if afterMajor.peek = some '.' then
    let (_, behind) ← readNumber afterMajor.step
    if endsOr isSpaceOrBreak behind.peek then return (.version major, behind)
    else .error .malformed
  else .error .malformed

/-- The handle that a directive declares, with its meaning. -/
def readTag (cursor : Cursor) : Except Fault (Directive × Cursor) := do
  let (handle, afterHandle) ← WrittenTag.readHandle cursor.skipSpaces
  if afterHandle.peek = some ' ' then
    let (meaning, behind) ← WrittenTag.readSuffix afterHandle.skipSpaces
    if endsOr isSpaceOrBreak behind.peek then return (.tag handle meaning, behind)
    else .error .malformed
  else .error .malformed

/-- The content of a directive by its name. -/
def readContent (name : String) (cursor : Cursor) : Except Fault (Directive × Cursor) :=
  if name = "YAML" then readVersion cursor
  else if name = "TAG" then readTag cursor
  else .ok (.other, cursor.skip fun char => !isBreak char)

/-- A directive that starts at the cursor. -/
def read (cursor : Cursor) : Except Fault (Directive × Cursor) := do
  let (name, afterName) ← readName isSpaceOrBreak cursor.step
  let (content, afterContent) ← readContent name afterName
  let behind := afterContent.skipSpaces.skipComment
  if behind.atEnd || behind.atBreak then return (content, behind.lineBreak.2)
  else .error .malformed

end Directive

end ImageCatalog.Yaml
