import ImageCatalog.Yaml.Timestamp

/-!
# The kinds of plain scalars

A scalar without a tag and without quotes is null, a flag, a number, a date, or the mark of a merge
or of a value, if it is written in one of the forms for it; otherwise it is a text. The forms are
recognised here; what they denote is settled when the document is turned into a value.
-/

namespace ImageCatalog.Yaml

/-- What a node is, as its tag or its form says. -/
inductive Kind
  | null
  | flag
  | whole
  | real
  | bytes
  | time
  | pairList
  | orderedMapping
  | set
  | text
  | sequence
  | mapping
  | merge
  | value
  | unknown
deriving DecidableEq, Repr

/-- The beginning that all tags of the format share. -/
def tagPrelude : String := "tag:yaml.org,2002:"

/-- The tags of the format with their kinds. -/
def tagTable : List (String × Kind) :=
  [("null", .null), ("bool", .flag), ("int", .whole), ("float", .real), ("binary", .bytes),
    ("timestamp", .time), ("pairs", .pairList), ("omap", .orderedMapping), ("set", .set),
    ("str", .text), ("seq", .sequence), ("map", .mapping), ("merge", .merge), ("value", .value)]

/-- The kind that a tag names. -/
def Kind.ofTag (tag : String) : Kind :=
  ((tagTable.find? fun entry => tagPrelude ++ entry.1 == tag).map Prod.snd).getD .unknown

namespace Form

/-- Whether a character is a digit or an underscore. -/
def isDigitOrBar (char : Char) : Bool :=
  char.isDigit || char == '_'

/-- A text without its sign. -/
def unsigned : List Char → List Char
  | '-' :: rest => rest
  | '+' :: rest => rest
  | chars => chars

/-- Whether a text is a row of one or more characters of a class. -/
def isRow (inClass : Char → Bool) (chars : List Char) : Bool :=
  !chars.isEmpty && chars.all inClass

/-- Whether a text is a part of a number to the base sixty. -/
def isSixtieth : List Char → Bool
  | [digit] => digit.isDigit
  | [ten, digit] => '0' ≤ ten && ten ≤ '5' && digit.isDigit
  | _ => false

/-- The parts of a text between colons. -/
def colonParts : List Char → List (List Char)
  | [] => [[]]
  | char :: rest =>
    if char = ':' then [] :: colonParts rest
    else
      match colonParts rest with
      | [] => [[char]]
      | part :: parts => (char :: part) :: parts

/-- Whether the parts after the first one are parts of a number to the base sixty. -/
def areSixtieths (parts : List (List Char)) : Bool :=
  !parts.isEmpty && parts.all isSixtieth

/-- Whether a text without a sign is a whole number. -/
def isUnsignedWhole (chars : List Char) : Bool :=
  match chars with
  | ['0'] => true
  | '0' :: 'b' :: rest => isRow (fun char => char == '0' || char == '1' || char == '_') rest
  | '0' :: 'x' :: rest =>
    isRow (fun char => char.isDigit || ('a' ≤ char && char ≤ 'f') || ('A' ≤ char && char ≤ 'F') ||
      char == '_') rest
  | '0' :: rest => isRow (fun char => ('0' ≤ char && char ≤ '7') || char == '_') rest
  | first :: _ =>
    match colonParts chars with
    | [only] => first.isDigit && only.all isDigitOrBar
    | whole :: parts => first.isDigit && whole.all isDigitOrBar && areSixtieths parts
    | [] => false
  | [] => false

/-- Whether a text is a whole number. -/
def isWhole (chars : List Char) : Bool :=
  isUnsignedWhole (unsigned chars)

/-- Whether a text is an exponent, which has a sign, or nothing. -/
def isExponent : List Char → Bool
  | [] => true
  | mark :: sign :: digits =>
    (mark == 'e' || mark == 'E') && (sign == '-' || sign == '+') && isRow Char.isDigit digits
  | _ => false

/-- Whether a text is the part of a real number from its point on. -/
def isFraction (chars : List Char) : Bool :=
  match chars with
  | '.' :: rest => isExponent (rest.dropWhile isDigitOrBar)
  | _ => false

/-- Whether a text is a real number to the base ten whose digits may have a sign. -/
def isDecimal (chars : List Char) : Bool :=
  match unsigned chars with
  | first :: rest => first.isDigit && isFraction (rest.dropWhile isDigitOrBar)
  | [] => false

/-- Whether a text is a real number that starts with its point. -/
def isBareFraction : List Char → Bool
  | '.' :: first :: rest => first.isDigit && isExponent (rest.dropWhile isDigitOrBar)
  | _ => false

/-- Whether a text is a real number to the base sixty. -/
def isSixtiethReal (chars : List Char) : Bool :=
  let body := unsigned chars
  let whole := body.takeWhile (· != '.')
  match body.drop whole.length with
  | '.' :: fraction =>
    fraction.all isDigitOrBar &&
      (match colonParts whole with
        | first :: parts =>
          (first.head?.map Char.isDigit).getD false && first.all isDigitOrBar && areSixtieths parts
        | [] => false)
  | _ => false

/-- Whether a text is an infinity or not-a-number. -/
def isSpecial (chars : List Char) : Bool :=
  [".inf", ".Inf", ".INF"].contains (String.ofList (unsigned chars)) ||
    [".nan", ".NaN", ".NAN"].contains (String.ofList chars)

/-- Whether a text is a real number. -/
def isReal (chars : List Char) : Bool :=
  isDecimal chars || isBareFraction chars || isSixtiethReal chars || isSpecial chars

/-- Whether a text is one of the words for flags. -/
def isFlag (text : String) : Bool :=
  ["yes", "Yes", "YES", "no", "No", "NO", "true", "True", "TRUE", "false", "False", "FALSE", "on",
    "On", "ON", "off", "Off", "OFF"].contains text

/-- Whether a text is one of the forms of null. -/
def isNull (text : String) : Bool :=
  ["", "~", "null", "Null", "NULL"].contains text

end Form

/-- The kind of a plain scalar. -/
def Kind.ofPlain (text : String) : Kind :=
  let chars := text.toList
  if Form.isFlag text then .flag
  else if Form.isReal chars then .real
  else if Form.isWhole chars then .whole
  else if text = "<<" then .merge
  else if Form.isNull text then .null
  else if WrittenTime.isForm chars then .time
  else if text = "=" then .value
  else .text

/-- A text without a line break at its end, which counts for no form. -/
def withoutFinalBreak (chars : List Char) : List Char :=
  if chars.getLast? = some '\n' then chars.dropLast else chars

/-- The kind of a scalar whose tag leaves it to its form. -/
def Kind.ofForm (text : String) : Kind :=
  if text = "\n" then .text else .ofPlain (String.ofList (withoutFinalBreak text.toList))

end ImageCatalog.Yaml
