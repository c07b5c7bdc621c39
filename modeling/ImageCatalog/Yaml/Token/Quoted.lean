import ImageCatalog.Text.Hex
import ImageCatalog.Text.Surrogate
import ImageCatalog.Yaml.Cursor
import ImageCatalog.Yaml.Fault

/-!
# Quoted scalars

A scalar between single quotes has one escape, the doubled quote; between double quotes a backslash
starts an escape. A line break inside a scalar counts as a space, and blank lines as line breaks.
-/

namespace ImageCatalog.Yaml.Quoted

open Text

/-- The character that a letter after a backslash stands for. -/
def replacement? : Char → Option Nat
  | '0' => some 0
  | 'a' => some 7
  | 'b' => some 8
  | 't' => some 9
  | '\t' => some 9
  | 'n' => some 10
  | 'v' => some 11
  | 'f' => some 12
  | 'r' => some 13
  | 'e' => some 27
  | ' ' => some 32
  | '"' => some 34
  | '\\' => some 92
  | '/' => some 47
  | 'N' => some 0x85
  | '_' => some 0xA0
  | 'L' => some 0x2028
  | 'P' => some 0x2029
  | _ => none

/-- The number of digits after a letter that announces a code point. -/
def codeWidth? : Char → Option Nat
  | 'x' => some 2
  | 'u' => some 4
  | 'U' => some 8
  | _ => none

/-- The character of a code point; halves of pairs are not joined. -/
def charOfCode (code : Nat) : Except Fault Char :=
  if 0x10FFFF < code then .error (.codePoint code) else .ok (ofCodePoint code)

/-- The breaks of the blank lines here; a mark between documents is not allowed there. -/
def blankLines : Nat → Cursor → Except Fault (List Char × Cursor)
  | 0, _ => .error .malformed
  | budget + 1, cursor =>
    if cursor.atSeparator then .error .malformed
    else
      let inner := cursor.skip fun char => char == ' ' || char == '\t'
      if inner.atBreak then do
        let (first, next) := inner.lineBreak
        let (others, behind) ← blankLines budget next
        return (first ++ others, behind)
      else .ok ([], inner)

/-- The text of blanks and line breaks inside a scalar. -/
def blanks (cursor : Cursor) : Except Fault (List Char × Cursor) :=
  let (spaces, inner) := cursor.span fun char => char == ' ' || char == '\t'
  if inner.atEnd then .error .malformed
  else if inner.atBreak then do
    let (first, next) := inner.lineBreak
    let (others, behind) ← blankLines (next.rest.length + 1) next
    let fold := if first != ['\n'] then first else if others.isEmpty then [' '] else []
    return (fold ++ others, behind)
  else .ok (spaces, inner)

/-- The text of an escape whose backslash is already left out. -/
def readEscape (cursor : Cursor) : Except Fault (List Char × Cursor) :=
  match cursor.peek with
  | none => .error .malformed
  | some letter =>
    match replacement? letter, codeWidth? letter with
    | some code, _ => .ok ([Char.ofNat code], cursor.step)
    | none, some width =>
      let digits := cursor.step.rest.take width
      match hexToNat? digits with
      | some code =>
        if digits.length = width then
          (charOfCode code).map fun char => ([char], cursor.forward (width + 1))
        else .error .malformed
      | none => .error .malformed
    | none, none =>
      if isBreak letter then
        let next := cursor.lineBreak.2
        blankLines (next.rest.length + 1) next
      else .error .malformed

/-- The rest of a scalar up to its closing quote. -/
def readRest (double : Bool) : Nat → Cursor → Except Fault (List Char × Cursor)
  | 0, _ => .error .malformed
  | budget + 1, cursor =>
    let quote := if double then '"' else '\''
    match cursor.peek with
    | none => .error .malformed
    | some char =>
      if isBlankOrBreak char then do
        let (found, next) ← blanks cursor
        let (others, behind) ← readRest double budget next
        return (found ++ others, behind)
      else if char = quote then
        if !double && cursor.peekAt 1 == some quote then
          (readRest double budget (cursor.forward 2)).map fun (others, behind) =>
            (quote :: others, behind)
        else .ok ([], cursor.step)
      else if double && char == '\\' then do
        let (found, next) ← readEscape cursor.step
        let (others, behind) ← readRest double budget next
        return (found ++ others, behind)
      else
        (readRest double budget cursor.step).map fun (others, behind) => (char :: others, behind)

/-- A quoted scalar that starts at the cursor. -/
def read (double : Bool) (cursor : Cursor) : Except Fault (String × Cursor) :=
  (readRest double (cursor.rest.length + 1) cursor.step).map fun (chars, behind) =>
    (String.ofList chars, behind)

end ImageCatalog.Yaml.Quoted
