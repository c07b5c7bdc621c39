import ImageCatalog.Text.Digit
import ImageCatalog.Text.Split

/-!
# Dates and times of day

Documents may hold dates and points in time. A `Date` is a day of the proleptic Gregorian calendar
from year 1 to year 9999, a `Timestamp` a date with a time of day and possibly a distance from
Greenwich, in minutes. Both carry the proof that their fields are in range, so that the makers say
which field is at fault.
-/

namespace ImageCatalog

open Text

/-- Whether a year has a 29th of February. -/
def isLeapYear (year : Nat) : Bool :=
  year % 4 == 0 && (year % 100 != 0 || year % 400 == 0)

/-- The number of days of a month. -/
def daysInMonth (year month : Nat) : Nat :=
  if month = 2 then (if isLeapYear year then 29 else 28)
  else if month = 4 ∨ month = 6 ∨ month = 9 ∨ month = 11 then 30
  else 31

/-- The years, months and days of the calendar. -/
def IsCalendarDay (year month day : Nat) : Prop :=
  1 ≤ year ∧ year ≤ 9999 ∧ 1 ≤ month ∧ month ≤ 12 ∧ 1 ≤ day ∧ day ≤ daysInMonth year month

instance (year month day : Nat) : Decidable (IsCalendarDay year month day) :=
  inferInstanceAs (Decidable (_ ∧ _ ∧ _ ∧ _ ∧ _ ∧ _))

/-- A day of the calendar. -/
structure Date where
  year : Nat
  month : Nat
  day : Nat
  exists_day : IsCalendarDay year month day
deriving DecidableEq

/-- The times of day, in hours, minutes, seconds and microseconds, that a clock can show. -/
def IsClockTime (hour minute second microsecond : Nat) : Prop :=
  hour ≤ 23 ∧ minute ≤ 59 ∧ second ≤ 59 ∧ microsecond ≤ 999999

instance (hour minute second microsecond : Nat) :
    Decidable (IsClockTime hour minute second microsecond) :=
  inferInstanceAs (Decidable (_ ∧ _ ∧ _ ∧ _))

/-- The distances from Greenwich, in minutes east of it, that are shorter than a day. -/
def IsZoneOffset (minutes : Int) : Prop :=
  -1440 < minutes ∧ minutes < 1440

instance (minutes : Int) : Decidable (IsZoneOffset minutes) :=
  inferInstanceAs (Decidable (_ ∧ _))

/-- A point in time, with its distance from Greenwich if that is known. -/
structure Timestamp where
  date : Date
  hour : Nat
  minute : Nat
  second : Nat
  microsecond : Nat
  offset : Option Int
  shows_time : IsClockTime hour minute second microsecond
  offset_near : ∀ minutes ∈ offset, IsZoneOffset minutes
deriving DecidableEq

/-- Why some numbers are no date or no time. -/
inductive CalendarFault
  | year (value : Nat)
  | month
  | day
  | hour
  | minute
  | second
  | offset (minutes : Int)
deriving DecidableEq, Repr

/-- The date of the given numbers; the year is checked before the month and the month before the
day. -/
def Date.make (year month day : Nat) : Except CalendarFault Date :=
  if exists_day : IsCalendarDay year month day then .ok ⟨year, month, day, exists_day⟩
  else if year < 1 ∨ 9999 < year then .error (.year year)
  else if month < 1 ∨ 12 < month then .error .month
  else .error .day

/-- The point in time of a date and the given numbers. -/
def Timestamp.make (date : Date) (hour minute second microsecond : Nat) (offset : Option Int) :
    Except CalendarFault Timestamp :=
  if shows_time : IsClockTime hour minute second microsecond then
    if offset_near : ∀ minutes ∈ offset, IsZoneOffset minutes then
      .ok ⟨date, hour, minute, second, microsecond, offset, shows_time, offset_near⟩
    else .error (.offset (offset.getD 0))
  else if 23 < hour then .error .hour
  else if 59 < minute then .error .minute
  else .error .second

/-- A number in a field of at least the given width, filled up with zeros. -/
def zeroPadded (width value : Nat) : List Char :=
  let digits := natDigits value
  List.replicate (width - digits.length) '0' ++ digits

/-- The number of days before a date, counted from the beginning of year 1. -/
def Date.ordinal (date : Date) : Nat :=
  let before := date.year - 1
  365 * before + before / 4 - before / 100 + before / 400 +
    (List.range (date.month - 1)).foldl
      (fun total index => total + daysInMonth date.year (index + 1)) 0 +
    (date.day - 1)

/-- The microseconds from the beginning of year 1 at Greenwich, or at the place of the clock if its
distance from Greenwich is not known. -/
def Timestamp.instant (time : Timestamp) : Int :=
  let minutes : Int :=
    1440 * time.date.ordinal + 60 * time.hour + time.minute - time.offset.getD 0
  1000000 * (60 * minutes + time.second) + time.microsecond

/-- Whether two timestamps mean the same time: the same point in time if both are placed, the same
clock time if neither is. -/
def Timestamp.coincides (left right : Timestamp) : Bool :=
  left.offset.isSome == right.offset.isSome && left.instant == right.instant

/-- A date as year, month and day. -/
def Date.print (date : Date) : String :=
  String.ofList (zeroPadded 4 date.year ++ '-' :: zeroPadded 2 date.month ++
    '-' :: zeroPadded 2 date.day)

/-- A distance from Greenwich as a sign, hours and minutes. -/
def printOffset (minutes : Int) : List Char :=
  (if minutes < 0 then '-' else '+') :: zeroPadded 2 (minutes.natAbs / 60) ++
    ':' :: zeroPadded 2 (minutes.natAbs % 60)

/-- A timestamp as its date, its time of day and its distance from Greenwich; the microseconds are
left out if there are none. -/
def Timestamp.print (time : Timestamp) : String :=
  time.date.print ++ String.ofList (' ' :: zeroPadded 2 time.hour ++
    ':' :: zeroPadded 2 time.minute ++ ':' :: zeroPadded 2 time.second ++
    (if time.microsecond = 0 then [] else '.' :: zeroPadded 6 time.microsecond) ++
    (time.offset.map printOffset).getD [])

/-- The length of time from a number of minutes, as whole days and seconds. -/
def printDuration (minutes : Int) : String :=
  let days := minutes.fdiv 1440
  let seconds := 60 * (minutes - 1440 * days)
  let parts :=
    (if days = 0 then [] else ["days=" ++ toString days]) ++
      (if seconds = 0 then [] else ["seconds=" ++ toString seconds])
  "datetime.timedelta(" ++ joinText ", " parts ++ ")"

/-- What is reported about numbers that are no date or no time. -/
def CalendarFault.message : CalendarFault → String
  | .year value => "year " ++ String.ofList (natDigits value) ++ " is out of range"
  | .month => "month must be in 1..12"
  | .day => "day is out of range for month"
  | .hour => "hour must be in 0..23"
  | .minute => "minute must be in 0..59"
  | .second => "second must be in 0..59"
  | .offset minutes =>
    "offset must be a timedelta strictly between -timedelta(hours=24) and " ++
      "timedelta(hours=24), not " ++ printDuration minutes

end ImageCatalog
