import ImageCatalog.Number.Binary64
import ImageCatalog.Text.Blank
import ImageCatalog.Text.Digit

/-!
# Number texts

Numbers typed by a user are read generously: white space around them is ignored, the digits of any
script count, and single underscores may stand between digits. A whole number is a sign and digits;
a real number may also have a point, with digits on at least one side of it, and an exponent. The
special words are not read here, since a text is taken for a real number only if it has a point.

The numbers of configuration fields follow other, narrower rules, which are in this module too:
ASCII digits only, infinity and not-a-number by name, and for whole numbers leading zeros, a
fraction of zeros and underscores forgiven.
-/

namespace ImageCatalog.Number

open ImageCatalog.Text

/-- Split a sign off: whether it is a minus, and the rest. -/
def splitSign : List Char → Bool × List Char
  | '-' :: rest => (true, rest)
  | '+' :: rest => (false, rest)
  | chars => (false, chars)

/-- A row of digits with single underscores between them, as the digits alone. -/
def ungroup? : List Char → Option (List Char)
  | [] => none
  | [digit] => if digit.isDigit then some [digit] else none
  | digit :: '_' :: rest =>
    if digit.isDigit then (ungroup? rest).map (digit :: ·) else none
  | digit :: rest =>
    if digit.isDigit then (ungroup? rest).map (digit :: ·) else none

/-- Replace the digits of every script by ASCII digits. -/
def toAsciiDigits (chars : List Char) : List Char :=
  chars.map fun char =>
    match digitValue? char with
    | some value => Char.ofNat (48 + value)
    | none => char

/-- The whole number that a typed text denotes. -/
def readWhole? (text : List Char) : Option Int := do
  let (negative, digits) := splitSign (toAsciiDigits (trimBy isUnicodeSpace text))
  let plain ← ungroup? digits
  if digitLimit < plain.length then none
  else
    let magnitude : Int := digitsToNat plain
    return if negative then -magnitude else magnitude

/-- The digits of a real number before and after the point, and its exponent. -/
structure RealText where
  whole : List Char
  fraction : List Char
  exponent : Int

/-- The value of a real number with the given sign. -/
def RealText.value (text : RealText) (negative : Bool) : Binary64 :=
  Binary64.ofDecimal negative (digitsToNat (text.whole ++ text.fraction))
    (text.exponent - text.fraction.length)

/-- An exponent: its mark, an optional sign and at least one digit; no exponent is zero. -/
def readExponent? : List Char → Option Int
  | [] => some 0
  | mark :: rest =>
    if mark = 'e' || mark = 'E' then
      let (negative, digits) := splitSign rest
      if !digits.isEmpty && digits.all Char.isDigit then
        let magnitude : Int := digitsToNat digits
        some (if negative then -magnitude else magnitude)
      else none
    else none

/-- Digits with an optional point and an optional exponent, with at least one digit outside the
exponent. -/
def readUnsigned? (chars : List Char) : Option RealText :=
  let whole := chars.takeWhile Char.isDigit
  let (fraction, rest) :=
    match chars.dropWhile Char.isDigit with
    | '.' :: rest => (rest.takeWhile Char.isDigit, rest.dropWhile Char.isDigit)
    | rest => ([], rest)
  if whole.isEmpty && fraction.isEmpty then none
  else (readExponent? rest).map fun exponent => ⟨whole, fraction, exponent⟩

/-- Whether every underscore stands between two digits, given the character before the text. -/
def underscoresFit (before : Char) : List Char → Bool
  | [] => before != '_'
  | char :: rest =>
    (if char = '_' then before.isDigit else before != '_' || char.isDigit) &&
      underscoresFit char rest

/-- The real number that a typed text denotes. -/
def readReal? (text : List Char) : Option Binary64 := do
  let chars := toAsciiDigits (trimBy isUnicodeSpace text)
  if underscoresFit ' ' chars then
    let (negative, rest) := splitSign (chars.filter (· != '_'))
    let written ← readUnsigned? rest
    return written.value negative
  else none

/-- Whether a text has no underscore that could be dropped: at an end, doubled, or none at all. -/
def underscoresStay (chars : List Char) : Bool :=
  chars.head? == some '_' || chars.getLast? == some '_' || !chars.contains '_' ||
    (chars.zip (chars.drop 1)).contains ('_', '_')

/-- The text without its underscores, if all of them may be dropped. -/
def dropUnderscores (chars : List Char) : List Char :=
  if underscoresStay chars then chars else chars.filter (· != '_')

/-- The rest of a field text that starts with a zero, with its leading zeros dropped. -/
def dropLeadingZeros? : List Char → Option (List Char)
  | [] => none
  | [last] => some [last]
  | zero :: next :: rest =>
    if next = '0' || next = '_' then dropLeadingZeros? (next :: rest)
    else if next.isDigit then some (next :: rest)
    else if next = '.' then some (zero :: next :: rest)
    else none

/-- The field text of a whole number in plain form: a minus sign or a digit first. -/
def plainWhole? (chars : List Char) : Option (List Char) := do
  let trimmed := trimBy isUnicodeSpace chars
  let unsigned ←
    match trimmed with
    | '+' :: '-' :: _ => none
    | '+' :: rest => some rest
    | other => some other
  let stripped ←
    match unsigned with
    | '0' :: rest => dropLeadingZeros? ('0' :: rest)
    | first :: rest => if first.isDigit || first = '-' then some (first :: rest) else none
    | [] => none
  let cut := stripped.takeWhile (· != '.')
  let tail := stripped.drop (cut.length + 1)
  return dropUnderscores (if tail.all (· == '0') then cut else stripped)

/-- What a field text says about a whole number. -/
inductive FieldWhole
  | value (number : Int)
  | tooLong
  | malformed

/-- The whole number that the text of a field denotes. -/
def readFieldWhole (chars : List Char) : FieldWhole :=
  match plainWhole? chars with
  | none => .malformed
  | some plain =>
    if digitLimit < plain.length then .tooLong
    else
      let (negative, digits) :=
        match plain with
        | '-' :: rest => (true, rest)
        | other => (false, other)
      if !digits.isEmpty && digits.all Char.isDigit then
        let magnitude : Int := digitsToNat digits
        .value (if negative then -magnitude else magnitude)
      else .malformed

/-- The special words for real numbers, without regard to case. -/
def readSpecial? (negative : Bool) (chars : List Char) : Option Binary64 :=
  match String.ofList (chars.map Char.toLower) with
  | "inf" => some (.infinite negative)
  | "infinity" => some (.infinite negative)
  | "nan" => some .notANumber
  | _ => none

/-- A real number without blanks or underscores. -/
def readPlainReal? (chars : List Char) : Option Binary64 :=
  let (negative, rest) := splitSign chars
  match readUnsigned? rest with
  | some written => some (written.value negative)
  | none => readSpecial? negative rest

/-- The real number that the text of a field denotes. -/
def readFieldReal? (chars : List Char) : Option Binary64 :=
  match readPlainReal? (trimBy isUnicodeSpace chars) with
  | some value => some value
  | none =>
    if underscoresStay chars then none
    else readPlainReal? (trimBy isUnicodeSpace (chars.filter (· != '_')))

end ImageCatalog.Number
