import ImageCatalog.Proofs.Json.RoundTrip

/-!
# How values are spelt

A text that is read says more than the value it is read as: where its blanks are, how its characters
are escaped, and how its numbers are written. A `Spelling` keeps all of it, so that both the text
and the value can be told from it. Its parts carry what makes them well formed: blanks are blank,
escapes stand for something, and digits are digits.
-/

namespace ImageCatalog.Json

open Number Results Text

/-- The blanks between two parts of a text. -/
abbrev Gap := { chars : List Char // AreGaps chars }

/-! ## Numbers and words -/

/-- An exponent: its mark, its sign, if there is one, and its digits. -/
structure Exponent where
  capital : Bool
  negative? : Option Bool
  digits : List Char
  areDigits : AreDigits digits
  nonempty : digits ≠ []

namespace Exponent

/-- The sign of an exponent. -/
def signChars (exponent : Exponent) : List Char :=
  (exponent.negative?.map fun negative => if negative then '-' else '+').toList

/-- The characters of an exponent. -/
def chars (exponent : Exponent) : List Char :=
  (if exponent.capital then 'E' else 'e') :: (exponent.signChars ++ exponent.digits)

/-- The number that an exponent denotes. -/
def value (exponent : Exponent) : Int :=
  if exponent.negative? = some true then -(digitsToNat exponent.digits : Int)
  else digitsToNat exponent.digits

end Exponent

/-- A number: its sign, the digits before the point, those behind it, and its exponent. A number
without the last two must be within the limit. -/
structure Numeral where
  negative : Bool
  whole : List Char
  fraction : List Char
  exponent? : Option Exponent
  isWhole : IsWhole whole
  areDigits : AreDigits fraction
  short : (fraction.isEmpty && exponent?.isNone) = true → whole.length ≤ digitLimit

namespace Numeral

/-- The characters of a number behind its sign. -/
def magnitudeChars (numeral : Numeral) : List Char :=
  numeral.whole ++ (pointed numeral.fraction ++ (numeral.exponent?.map Exponent.chars).getD [])

/-- The characters of a number. -/
def chars (numeral : Numeral) : List Char :=
  if numeral.negative then '-' :: numeral.magnitudeChars else numeral.magnitudeChars

theorem chars_ne_nil (numeral : Numeral) : numeral.chars ≠ [] := by
  have whole := numeral.isWhole.nonempty
  unfold chars magnitudeChars
  split <;> simp [whole]

theorem magnitudeChars_of_bare (numeral : Numeral)
    (bare : (numeral.fraction.isEmpty && numeral.exponent?.isNone) = true) :
    numeral.magnitudeChars = numeral.whole := by
  rw [Bool.and_eq_true_iff, List.isEmpty_iff, Option.isNone_iff_eq_none] at bare
  simp only [magnitudeChars, bare.1, bare.2, pointed, List.isEmpty_nil, if_true, Option.map_none,
    Option.getD_none, List.append_nil]

/-- The value of a number: a whole one, unless it has a fraction or an exponent. -/
def value (numeral : Numeral) : Value :=
  if numeral.fraction.isEmpty && numeral.exponent?.isNone then
    .int (if numeral.negative then -(digitsToNat numeral.whole : Int)
      else digitsToNat numeral.whole)
  else
    .float (Binary64.ofDecimal numeral.negative (digitsToNat (numeral.whole ++ numeral.fraction))
      ((numeral.exponent?.map Exponent.value).getD 0 - numeral.fraction.length))

end Numeral

/-- The words that stand for values. -/
inductive Word
  | null
  | flag (value : Bool)
  | notANumber
  | infinity (negative : Bool)
deriving DecidableEq

namespace Word

/-- The characters of a word. -/
def chars : Word → List Char
  | .null => "null".toList
  | .flag true => "true".toList
  | .flag false => "false".toList
  | .notANumber => "NaN".toList
  | .infinity false => "Infinity".toList
  | .infinity true => "-Infinity".toList

theorem chars_ne_nil (word : Word) : word.chars ≠ [] := by
  unfold chars
  split <;> decide

/-- What a word stands for. -/
def value : Word → Value
  | .null => .null
  | .flag value => .bool value
  | .notANumber => .float .notANumber
  | .infinity negative => .float (.infinite negative)

end Word

/-! ## Values -/

/-- The name of a field, with the blanks before and behind its colon. -/
structure Label where
  name : List Piece
  before : Gap
  after : Gap

/-- The characters of the name of a field and its colon. -/
def Label.chars (label : Label) : List Char :=
  '"' :: (quotedRest label.name ++ (label.before.1 ++ ':' :: label.after.1))

mutual

/-- How a value is spelt. -/
inductive Spelling
  | word (word : Word)
  | number (numeral : Numeral)
  | text (pieces : List Piece)
  | emptyList (gap : Gap)
  | list (gap : Gap) (items : Items)
  | emptyObject (gap : Gap)
  | object (gap : Gap) (fields : Fields)

/-- How the items of a list are spelt, with the blanks before and behind their commas. -/
inductive Items
  | last (item : Spelling) (gap : Gap)
  | more (item : Spelling) (before after : Gap) (others : Items)

/-- How the fields of an object are spelt, with the blanks before and behind their commas. -/
inductive Fields
  | last (label : Label) (content : Spelling) (gap : Gap)
  | more (label : Label) (content : Spelling) (before after : Gap) (others : Fields)

end

mutual

/-- The characters of a value. -/
def Spelling.chars : Spelling → List Char
  | .word word => word.chars
  | .number numeral => numeral.chars
  | .text pieces => '"' :: quotedRest pieces
  | .emptyList gap => '[' :: (gap.1 ++ [']'])
  | .list gap items => '[' :: (gap.1 ++ (items.chars ++ [']']))
  | .emptyObject gap => '\x7b' :: (gap.1 ++ ['\x7d'])
  | .object gap fields => '\x7b' :: (gap.1 ++ (fields.chars ++ ['\x7d']))

/-- The characters of the items of a list. -/
def Items.chars : Items → List Char
  | .last item gap => item.chars ++ gap.1
  | .more item before after others => item.chars ++ (before.1 ++ ',' :: (after.1 ++ others.chars))

/-- The characters of the fields of an object. -/
def Fields.chars : Fields → List Char
  | .last label content gap => label.chars ++ (content.chars ++ gap.1)
  | .more label content before after others =>
    label.chars ++ (content.chars ++ (before.1 ++ ',' :: (after.1 ++ others.chars)))

end

mutual

/-- The value that is spelt. -/
def Spelling.value : Spelling → Value
  | .word word => word.value
  | .number numeral => numeral.value
  | .text pieces => .text (textOf pieces)
  | .emptyList _ => .list []
  | .list _ items => .list items.values
  | .emptyObject _ => .object []
  | .object _ fields => .object (Entries.ofList fields.entries)

/-- The values of the items of a list. -/
def Items.values : Items → List Value
  | .last item _ => [item.value]
  | .more item _ _ others => item.value :: others.values

/-- The names and values of the fields of an object, repeated names included. -/
def Fields.entries : Fields → List (String × Value)
  | .last label content _ => [(textOf label.name, content.value)]
  | .more label content _ _ others => (textOf label.name, content.value) :: others.entries

end

/-- A whole text: a value between blanks. -/
structure Document where
  before : Gap
  content : Spelling
  after : Gap

/-- The characters of a whole text. -/
def Document.chars (document : Document) : List Char :=
  document.before.1 ++ (document.content.chars ++ document.after.1)

end ImageCatalog.Json
