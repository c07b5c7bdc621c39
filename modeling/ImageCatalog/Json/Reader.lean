import ImageCatalog.Number.Binary64
import ImageCatalog.Text.Digit
import ImageCatalog.Text.Hex
import ImageCatalog.Text.Surrogate
import ImageCatalog.Value.Basic
import ImageCatalog.Value.Entries

/-!
# Reading JSON

The reader accepts JSON texts, and beside them the numbers `NaN`, `Infinity` and `-Infinity`. Whole
numbers have any size up to the limit on number texts; a number with a fraction or an exponent is
the nearest binary64 number. Of a repeated key the last value counts, at the place of the first.

Every nested reading takes one unit of an explicit budget and at least one character of the text, so
that a budget larger than the text never runs out.
-/

namespace ImageCatalog.Json

open Number Text

/-- Why a text is not read: it is no JSON, or it holds too long a number. -/
inductive Fault
  | malformed
  | overlong (overflow : DigitOverflow)
deriving DecidableEq, Repr

/-- The blanks between the parts of a JSON text. -/
def isGap (char : Char) : Bool :=
  char == ' ' || char == '\t' || char == '\n' || char == '\r'

/-- Leave out the blanks at the front. -/
def skipGap (chars : List Char) : List Char :=
  chars.dropWhile isGap

/-- The character that a letter after a backslash stands for. -/
def shortEscape? : Char → Option Char
  | '"' => some '"'
  | '\\' => some '\\'
  | '/' => some '/'
  | 'b' => some (Char.ofNat 8)
  | 'f' => some (Char.ofNat 12)
  | 'n' => some '\n'
  | 'r' => some '\r'
  | 't' => some '\t'
  | _ => none

/-- The characters between the opening quote, which is already left out, and the closing one, still
with their escapes, and the rest of the text. -/
def splitQuoted : List Char → Option (List Char × List Char)
  | [] => none
  | '"' :: rest => some ([], rest)
  | '\\' :: char :: rest =>
    (splitQuoted rest).map fun (raw, left) => ('\\' :: char :: raw, left)
  | char :: rest => (splitQuoted rest).map fun (raw, left) => (char :: raw, left)

/-- The code units of a quoted text: a code point for every plain character and short escape, and
the given number for every numeric escape. -/
def readUnits : List Char → Option (List Nat)
  | [] => some []
  | '\\' :: 'u' :: a :: b :: c :: d :: rest => do
    let code ← hexToNat? [a, b, c, d]
    let units ← readUnits rest
    return code :: units
  | '\\' :: letter :: rest => do
    let char ← shortEscape? letter
    let units ← readUnits rest
    return char.toNat :: units
  | char :: rest =>
    if char = '\\' ∨ char.toNat < 0x20 then none
    else (readUnits rest).map (char.toNat :: ·)

/-- The characters of a row of code units, where two halves of a pair make one character. A half
that is left alone stays one. -/
def joinUnits : List Nat → List Char
  | [] => []
  | [unit] => [ofCodePoint unit]
  | high :: low :: rest =>
    if 0xD800 ≤ high ∧ high ≤ 0xDBFF ∧ 0xDC00 ≤ low ∧ low ≤ 0xDFFF then
      Char.ofNat (0x10000 + (high - 0xD800) * 1024 + (low - 0xDC00)) :: joinUnits rest
    else ofCodePoint high :: joinUnits (low :: rest)

/-- A text whose opening quote is already left out. -/
def readText (chars : List Char) : Except Fault (String × List Char) :=
  match splitQuoted chars with
  | none => .error .malformed
  | some (raw, rest) =>
    match readUnits raw with
    | none => .error .malformed
    | some units => .ok (String.ofList (joinUnits units), rest)

/-- The fraction of a number: the digits after a point, if there are any. -/
def splitFraction : List Char → List Char × List Char
  | '.' :: rest =>
    let digits := rest.takeWhile Char.isDigit
    if digits.isEmpty then ([], '.' :: rest) else (digits, rest.dropWhile Char.isDigit)
  | chars => ([], chars)

/-- The sign of an exponent, if it is written. -/
def splitExponentSign : List Char → Bool × List Char
  | '-' :: rest => (true, rest)
  | '+' :: rest => (false, rest)
  | chars => (false, chars)

/-- The exponent of a number: a mark, an optional sign and digits, if they are there. -/
def splitExponent : List Char → Option Int × List Char
  | mark :: rest =>
    if mark = 'e' ∨ mark = 'E' then
      let (negative, tail) := splitExponentSign rest
      let digits := tail.takeWhile Char.isDigit
      if digits.isEmpty then (none, mark :: rest)
      else
        let magnitude : Int := digitsToNat digits
        (some (if negative then -magnitude else magnitude), tail.dropWhile Char.isDigit)
    else (none, mark :: rest)
  | [] => (none, [])

/-- The digits before the point: a zero alone, or digits that start with another one. -/
def splitWhole : List Char → List Char × List Char
  | '0' :: rest => (['0'], rest)
  | chars => (chars.takeWhile Char.isDigit, chars.dropWhile Char.isDigit)

/-- A number whose sign is already left out. -/
def readNumber (negative : Bool) (chars : List Char) : Except Fault (Value × List Char) :=
  let (whole, rest) := splitWhole chars
  if whole.isEmpty then .error .malformed
  else
    let (fraction, tail) := splitFraction rest
    let (exponent, left) := splitExponent tail
    if fraction.isEmpty && exponent.isNone then
      match readDigits whole with
      | .error overflow => .error (.overlong overflow)
      | .ok magnitude =>
        .ok (.int (if negative then -(magnitude : Int) else magnitude), left)
    else
      .ok (.float (Binary64.ofDecimal negative (digitsToNat (whole ++ fraction))
        (exponent.getD 0 - fraction.length)), left)

/-- A word at the front of a text, with what it stands for. -/
def readWord (word : List Char) (meaning : Value) (chars : List Char) :
    Except Fault (Value × List Char) :=
  if word.isPrefixOf chars then .ok (meaning, chars.drop word.length) else .error .malformed

/-- A value that is neither a text nor a list nor an object. -/
def readScalar (chars : List Char) : Except Fault (Value × List Char) :=
  match chars with
  | 'n' :: _ => readWord ['n', 'u', 'l', 'l'] .null chars
  | 't' :: _ => readWord ['t', 'r', 'u', 'e'] (.bool true) chars
  | 'f' :: _ => readWord ['f', 'a', 'l', 's', 'e'] (.bool false) chars
  | 'N' :: _ => readWord ['N', 'a', 'N'] (.float .notANumber) chars
  | 'I' :: _ => readWord "Infinity".toList (.float (.infinite false)) chars
  | '-' :: 'I' :: _ => readWord "-Infinity".toList (.float (.infinite true)) chars
  | '-' :: rest => readNumber true rest
  | _ => readNumber false chars

mutual

/-- A value at the front of a text. -/
def readValue : Nat → List Char → Except Fault (Value × List Char)
  | 0, _ => .error .malformed
  | budget + 1, chars =>
    match chars with
    | '"' :: rest => (readText rest).map fun (found, left) => (.text found, left)
    | '[' :: rest =>
      match skipGap rest with
      | ']' :: left => .ok (.list [], left)
      | tail => (readItems budget tail).map fun (items, left) => (.list items, left)
    | '\x7b' :: rest =>
      match skipGap rest with
      | '\x7d' :: left => .ok (.object [], left)
      | tail =>
        (readFields budget tail).map fun (fields, left) => (.object (Entries.ofList fields), left)
    | _ => readScalar chars

/-- The items of a list up to its closing bracket; there is at least one. -/
def readItems : Nat → List Char → Except Fault (List Value × List Char)
  | 0, _ => .error .malformed
  | budget + 1, chars => do
    let (item, rest) ← readValue budget chars
    match skipGap rest with
    | ',' :: tail =>
      let (items, left) ← readItems budget (skipGap tail)
      return (item :: items, left)
    | ']' :: left => return ([item], left)
    | _ => .error .malformed

/-- The fields of an object up to its closing brace; there is at least one. -/
def readFields : Nat → List Char → Except Fault (List (String × Value) × List Char)
  | 0, _ => .error .malformed
  | budget + 1, chars =>
    match chars with
    | '"' :: rest => do
      let (name, afterName) ← readText rest
      match skipGap afterName with
      | ':' :: tail =>
        let (content, afterContent) ← readValue budget (skipGap tail)
        match skipGap afterContent with
        | ',' :: more =>
          let (fields, left) ← readFields budget (skipGap more)
          return ((name, content) :: fields, left)
        | '\x7d' :: left => return ([(name, content)], left)
        | _ => .error .malformed
      | _ => .error .malformed
    | _ => .error .malformed

end

/-- The value of a row of characters. -/
def readAll (chars : List Char) : Except Fault Value := do
  let (value, rest) ← readValue (2 * chars.length + 2) (skipGap chars)
  if (skipGap rest).isEmpty then return value else .error .malformed

/-- The value of a JSON text. -/
def read (text : String) : Except Fault Value :=
  readAll text.toList

end ImageCatalog.Json
