import ImageCatalog.Number.Literal
import ImageCatalog.Text.Hex
import ImageCatalog.Text.Split
import ImageCatalog.Yaml.Fault

/-!
# Numbers in documents

A whole number is written to the base two (`0b`), eight (a leading zero), sixteen (`0x`), ten or,
with colons, sixty; a real number to the base ten or sixty. Underscores do not count. A tag may call
any text a number, so that every text is read, and may fail to be one.
-/

namespace ImageCatalog.Yaml

open Number Text

/-- The value of a digit of any base up to sixteen. -/
def baseDigit? (base : Nat) (char : Char) : Option Nat :=
  (hexValue? char).filter (· < base)

/-- A text without the letters that announce its base. -/
def dropBaseMark (base : Nat) : List Char → List Char
  | '0' :: mark :: rest =>
    if (base = 8 ∧ (mark = 'o' ∨ mark = 'O')) ∨ (base = 16 ∧ (mark = 'x' ∨ mark = 'X')) ∨
        (base = 2 ∧ (mark = 'b' ∨ mark = 'B')) then rest
    else '0' :: mark :: rest
  | chars => chars

/-- The whole number that a row of digits to a base denotes. -/
def digitsInBase? (base : Nat) (digits : List Char) : Option Nat :=
  if digits.isEmpty then none
  else
    digits.foldl (fun total digit =>
      total.bind fun value => (baseDigit? base digit).map fun next => base * value + next) (some 0)

/-- The whole number that a text to the base two, eight or sixteen denotes. -/
def wholeInBase (base : Nat) (chars : List Char) : Except Fault Int :=
  let (negative, rest) := splitSign (toAsciiDigits (trim chars))
  match digitsInBase? base (dropBaseMark base rest) with
  | some magnitude => .ok (if negative then -(magnitude : Int) else magnitude)
  | none => .error (.wholeInvalid base (String.ofList chars))

/-- The whole number that a text to the base ten denotes. -/
def wholeInTen (chars : List Char) : Except Fault Int :=
  let (negative, rest) := splitSign (toAsciiDigits (trim chars))
  match ungroup? rest with
  | none => .error (.wholeInvalid 10 (String.ofList chars))
  | some digits =>
    match readDigits digits with
    | .ok magnitude => .ok (if negative then -(magnitude : Int) else magnitude)
    | .error overflow => .error (.overlong overflow)

/-- The whole number that a text without sign and underscores denotes. -/
def wholeMagnitude (chars : List Char) : Except Fault Int :=
  match chars with
  | [] => .error .numberMissing
  | ['0'] => .ok 0
  | '0' :: 'b' :: rest => wholeInBase 2 rest
  | '0' :: 'x' :: rest => wholeInBase 16 rest
  | '0' :: _ => wholeInBase 8 chars
  | _ =>
    if chars.contains ':' then do
      let parts ← (splitAtChar ':' chars).mapM wholeInTen
      return parts.foldl (fun total part => 60 * total + part) 0
    else wholeInTen chars

/-- Apply the sign of a text to a number that is read from the rest of it. -/
def signed {Result : Type} (negate : Result → Result)
    (read : List Char → Except Fault Result) : List Char → Except Fault Result
  | [] => .error .numberMissing
  | '-' :: rest => (read rest).map negate
  | '+' :: rest => read rest
  | chars => read chars

/-- The whole number that a scalar denotes. -/
def readWholeScalar (text : String) : Except Fault Int :=
  signed (fun value => -value) wholeMagnitude (text.toList.filter (· != '_'))

/-- The real number that a text to the base ten denotes. -/
def realInTen (chars : List Char) : Except Fault Binary64 :=
  match readPlainReal? (toAsciiDigits (trim chars)) with
  | some value => .ok value
  | none => .error (.realInvalid (String.ofList chars))

/-- The floating-point number next to a whole number, as a whole number, unless it is infinite. -/
def rounded? (number : Nat) : Option Nat :=
  match Binary64.ofRatio false number 1 with
  | .finite value => some value.truncate.natAbs
  | _ => none

/-- The sum of the parts of a number to the base sixty, the last part first, from a power of sixty
on. -/
def sumSixtieths (power : Nat) : List Binary64 → Binary64 → Except Fault Binary64
  | [], total => .ok total
  | part :: parts, total =>
    match rounded? power with
    | some factor => sumSixtieths (60 * power) parts (total.add (part.scale factor))
    | none => .error .powerTooLarge

/-- The real number that a text without sign and underscores denotes. -/
def realMagnitude (chars : List Char) : Except Fault Binary64 :=
  if chars = ".inf".toList then .ok (.infinite false)
  else if chars = ".nan".toList then .ok .notANumber
  else if chars.contains ':' then do
    let parts ← (splitAtChar ':' chars).mapM realInTen
    sumSixtieths 1 parts.reverse (.finite (.signedZero false))
  else realInTen chars

/-- The real number that a scalar denotes. -/
def readRealScalar (text : String) : Except Fault Binary64 :=
  signed Binary64.negate realMagnitude
    ((text.toList.filter (· != '_')).map Char.toLower)

end ImageCatalog.Yaml
