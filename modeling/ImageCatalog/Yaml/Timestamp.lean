import ImageCatalog.Yaml.Fault

/-!
# Timestamps in documents

A date is written as year, month and day; a time may follow it behind a `T` or blanks, with a
fraction of a second and a distance from Greenwich. `WrittenTime.read?` recognises the form,
`WrittenTime.toValue` checks the numbers.
-/

namespace ImageCatalog.Yaml

open Text

/-- A time of day as it is written. -/
structure WrittenClock where
  hour : Nat
  minute : Nat
  second : Nat
  fraction : List Char
  offset : Option Int
deriving DecidableEq, Repr

/-- A date as it is written, with the number of digits of its month and day, and its time. -/
structure WrittenTime where
  year : Nat
  month : Nat
  day : Nat
  padded : Bool
  clock : Option WrittenClock
deriving DecidableEq, Repr

namespace WrittenTime

/-- Between `least` and `most` digits at the front of a text. -/
def digits? (least most : Nat) (chars : List Char) : Option (List Char × List Char) :=
  let found := (chars.take most).takeWhile Char.isDigit
  if found.length < least then none else some (found, chars.drop found.length)

/-- A text without the character that it must start with. -/
def after? (expected : Char) : List Char → Option (List Char)
  | [] => none
  | char :: rest => if char = expected then some rest else none

/-- Whether a character is a space or a tab. -/
def isSpace (char : Char) : Bool :=
  char == ' ' || char == '\t'

/-- The fraction of a second, if there is a point. -/
def fraction : List Char → List Char × List Char
  | '.' :: rest => (rest.takeWhile Char.isDigit, rest.dropWhile Char.isDigit)
  | chars => ([], chars)

/-- The minutes of a distance from Greenwich behind its hours, if there are any. -/
def offsetMinutes? : List Char → Option Nat
  | [] => some 0
  | chars => do
    let (minutes, rest) ← digits? 2 2 (← after? ':' chars)
    if rest.isEmpty then return digitsToNat minutes else none

/-- The distance from Greenwich at the end of a text, if there is one. -/
def offset? (chars : List Char) : Option (Option Int) :=
  match chars, chars.dropWhile isSpace with
  | [], _ => some none
  | _, ['Z'] => some (some 0)
  | _, sign :: rest =>
    if sign = '+' ∨ sign = '-' then do
      let (hours, tail) ← digits? 1 2 rest
      let minutes ← offsetMinutes? tail
      let total : Int := 60 * digitsToNat hours + minutes
      return some (if sign = '-' then -total else total)
    else none
  | _, [] => none

/-- The time of day behind a date. -/
def clock? (chars : List Char) : Option WrittenClock := do
  let (hour, afterHour) ← digits? 1 2 chars
  let (minute, afterMinute) ← digits? 2 2 (← after? ':' afterHour)
  let (second, afterSecond) ← digits? 2 2 (← after? ':' afterMinute)
  let (fine, rest) := fraction afterSecond
  let offset ← offset? rest
  return ⟨digitsToNat hour, digitsToNat minute, digitsToNat second, fine, offset⟩

/-- The text of the time of day behind a date. -/
def clockText? : List Char → Option (List Char)
  | 'T' :: rest => some rest
  | 't' :: rest => some rest
  | char :: rest => if isSpace char then some (rest.dropWhile isSpace) else none
  | [] => none

/-- The date and time of a text, if it has the form of one. -/
def read? (chars : List Char) : Option WrittenTime := do
  let (year, afterYear) ← digits? 4 4 chars
  let (month, afterMonth) ← digits? 1 2 (← after? '-' afterYear)
  let (day, rest) ← digits? 1 2 (← after? '-' afterMonth)
  let padded := month.length == 2 && day.length == 2
  if rest.isEmpty then
    return ⟨digitsToNat year, digitsToNat month, digitsToNat day, padded, none⟩
  else
    let clock ← clock? (← clockText? rest)
    return ⟨digitsToNat year, digitsToNat month, digitsToNat day, padded, some clock⟩

/-- Whether a text without quotes is a date or a time: a date alone must be written in full. -/
def isForm (chars : List Char) : Bool :=
  match read? chars with
  | some time => time.clock.isSome || time.padded
  | none => false

/-- The microseconds of a fraction of a second. -/
def microseconds (digits : List Char) : Nat :=
  digitsToNat ((digits ++ List.replicate 6 '0').take 6)

/-- The distance from Greenwich, which must be less than a day. -/
def checkOffset : Option Int → Except CalendarFault Unit
  | none => .ok ()
  | some minutes => if IsZoneOffset minutes then .ok () else .error (.offset minutes)

/-- The value of a date or a time. -/
def toValue (time : WrittenTime) : Except CalendarFault (Date ⊕ Timestamp) :=
  match time.clock with
  | none => (Date.make time.year time.month time.day).map .inl
  | some clock => do
    checkOffset clock.offset
    let date ← Date.make time.year time.month time.day
    let stamp ← Timestamp.make date clock.hour clock.minute clock.second
      (microseconds clock.fraction) clock.offset
    return .inr stamp

end WrittenTime

end ImageCatalog.Yaml
