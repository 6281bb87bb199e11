/-
**Points in time.**

A date of the years 1 to 9999 with a time of day to the microsecond, and possibly the offset of a
time zone.

* `isLeapYear`, `daysInMonth`, `ofDayOfYear`, `ofWeekDate?`: the calendar, also by numbered weeks;
* `Timestamp.IsValid`: every field lies in its range;
* `Timestamp.text`: the timestamp as text, fraction and seconds of an offset only where needed.
-/

import AssetFetch.Text.Numeral

namespace AssetFetch

open AssetFetch.Text

/-! ### The calendar -/

/-- A date of the calendar. -/
structure Date where
  year : Nat
  month : Nat
  day : Nat
  deriving DecidableEq, Repr, Inhabited

/-- Whether a year has a leap day. -/
def isLeapYear (year : Nat) : Bool :=
  year % 4 == 0 && (year % 100 != 0 || year % 400 == 0)

/-- The number of days of a year. -/
def daysInYear (year : Nat) : Nat :=
  if isLeapYear year then 366 else 365

/-- The number of days of a month, zero for a month that does not exist. -/
def daysInMonth (year month : Nat) : Nat :=
  if month == 2 then (if isLeapYear year then 29 else 28)
  else if month == 4 || month == 6 || month == 9 || month == 11 then 30
  else if 1 ≤ month && month ≤ 12 then 31
  else 0

/-- Whether a date exists in the years 1 to 9999. -/
def Date.IsValid (date : Date) : Prop :=
  1 ≤ date.year ∧ date.year ≤ 9999 ∧ 1 ≤ date.day ∧ date.day ≤ daysInMonth date.year date.month

instance (date : Date) : Decidable date.IsValid := by
  unfold Date.IsValid; infer_instance

/-- The day of the week on which a year starts, Monday being zero. -/
def firstWeekday (year : Nat) : Nat :=
  let before := year - 1
  (before * 365 + before / 4 - before / 100 + before / 400) % 7

/-- The month and the day of a day of the year, counted from one, looking from a month on. -/
def monthAndDay (year : Nat) : (months : List Nat) → (day : Nat) → Nat × Nat
  | [], day => (12, day)
  | month :: later, day =>
    if day ≤ daysInMonth year month then (month, day)
    else monthAndDay year later (day - daysInMonth year month)

/-- The date of a day counted from the start of a year; days before it and after its end belong
to the neighbouring years. -/
def ofDayOfYear (year : Nat) (day : Int) : Date :=
  let place : Nat × Nat :=
    if day < 1 then (year - 1, (day + daysInYear (year - 1)).toNat)
    else if day > daysInYear year then (year + 1, (day - daysInYear year).toNat)
    else (year, day.toNat)
  let found := monthAndDay place.1 (List.range' 1 12) place.2
  ⟨place.1, found.1, found.2⟩

/-- The number of numbered weeks of a year: a year that starts on a Thursday, or on a Wednesday
and has a leap day, has one more. -/
def weeksInYear (year : Nat) : Nat :=
  let first := firstWeekday year
  if first == 3 || (first == 2 && isLeapYear year) then 53 else 52

/-- The date of a day of a numbered week. The first week is the one with the year's first
Thursday. -/
def ofWeekDate? (year week day : Nat) : Option Date :=
  if 1 ≤ year && 1 ≤ week && week ≤ weeksInYear year && 1 ≤ day && day ≤ 7 then
    let first := firstWeekday year
    let firstMonday : Int := 1 - (first : Int) + (if first > 3 then 7 else 0)
    some (ofDayOfYear year (firstMonday + ((week - 1) * 7 + (day - 1) : Nat)))
  else none

/-! ### Timestamps -/

/-- A date, a time of day and the offset of a time zone in microseconds. -/
structure Timestamp where
  date : Date
  hour : Nat
  minute : Nat
  second : Nat
  microsecond : Nat
  offset : Option Int
  deriving DecidableEq, Repr, Inhabited

/-- The microseconds of a day. -/
def microsecondsPerDay : Nat := 24 * 60 * 60 * 1000000

/-- Whether every field lies in its range. -/
def Timestamp.IsValid (stamp : Timestamp) : Prop :=
  stamp.date.IsValid ∧ stamp.hour ≤ 23 ∧ stamp.minute ≤ 59 ∧ stamp.second ≤ 59 ∧
    stamp.microsecond ≤ 999999 ∧ ∀ offset ∈ stamp.offset, offset.natAbs < microsecondsPerDay

instance (stamp : Timestamp) : Decidable stamp.IsValid := by
  unfold Timestamp.IsValid; infer_instance

/-- The last digits of a number, padded with zeros. -/
def paddedDigits : (width : Nat) → (value : Nat) → List Char
  | 0, _ => []
  | width + 1, value => paddedDigits width (value / 10) ++ [Char.ofNat (0x30 + value % 10)]

/-- A fraction of a second with its point, nothing for zero. -/
def fractionText (microseconds : Nat) : List Char :=
  if microseconds == 0 then [] else '.' :: paddedDigits 6 microseconds

/-- The offset of a time zone: sign, hours and minutes, seconds and their fraction if needed. -/
def offsetText (offset : Int) : List Char :=
  let size := offset.natAbs
  let seconds := size / 1000000
  let rest :=
    if seconds % 60 == 0 && size % 1000000 == 0 then []
    else ':' :: (paddedDigits 2 (seconds % 60) ++ fractionText (size % 1000000))
  (if offset < 0 then '-' else '+') :: (paddedDigits 2 (seconds / 3600)
    ++ ':' :: (paddedDigits 2 (seconds / 60 % 60) ++ rest))

/-- The characters of a timestamp. -/
def Timestamp.chars (stamp : Timestamp) : List Char :=
  paddedDigits 4 stamp.date.year ++ '-' :: (paddedDigits 2 stamp.date.month
    ++ '-' :: (paddedDigits 2 stamp.date.day
    ++ 'T' :: (paddedDigits 2 stamp.hour ++ ':' :: (paddedDigits 2 stamp.minute
    ++ ':' :: (paddedDigits 2 stamp.second ++ (fractionText stamp.microsecond
    ++ (match stamp.offset with
      | some offset => offsetText offset
      | none => [])))))))

/-- The timestamp as text. -/
def Timestamp.text (stamp : Timestamp) : String :=
  String.ofList stamp.chars

end AssetFetch
