import Workflow.Text.Digits

/-!
# Moments in universal time

A moment is a date of the proleptic Gregorian calendar with a time of day in universal time.  The
last second of a minute may run past its end, which is how a leap second is kept.
-/

namespace Workflow

/-- Whether a year has 366 days. -/
def isLeapYear (year : Int) : Bool :=
  year % 4 == 0 && (year % 100 != 0 || year % 400 == 0)

/-- The number of days of a month. -/
def daysInMonth (year : Int) (month : Nat) : Nat :=
  if month = 2 then (if isLeapYear year then 29 else 28)
  else if month = 4 ∨ month = 6 ∨ month = 9 ∨ month = 11 then 30
  else 31

/-- A calendar date. -/
structure Date where
  /-- The year; the year before year 1 is year 0. -/
  year : Int
  /-- The month, from 1 to 12. -/
  month : Nat
  /-- The day of the month, from 1. -/
  day : Nat
  deriving DecidableEq

namespace Date

/-- The first year that a date may have. -/
def firstYear : Int :=
  -262143

/-- The last year that a date may have. -/
def lastYear : Int :=
  262142

/-- Whether the fields denote a day within the range of years. -/
def isValid (date : Date) : Bool :=
  firstYear ≤ date.year && date.year ≤ lastYear && 1 ≤ date.month && date.month ≤ 12 &&
    1 ≤ date.day && date.day ≤ daysInMonth date.year date.month

/-- The date with given fields, if there is one. -/
def ofFields? (year : Int) (month day : Nat) : Option Date :=
  let date : Date := ⟨year, month, day⟩
  if date.isValid then some date else none

/-- The day after a date, if it is in range. -/
def next? (date : Date) : Option Date :=
  (ofFields? date.year date.month (date.day + 1)).or
    ((ofFields? date.year (date.month + 1) 1).or (ofFields? (date.year + 1) 1 1))

/-- The day before a date, if it is in range. -/
def previous? (date : Date) : Option Date :=
  if 1 < date.day then ofFields? date.year date.month (date.day - 1)
  else if 1 < date.month then
    ofFields? date.year (date.month - 1) (daysInMonth date.year (date.month - 1))
  else ofFields? (date.year - 1) 12 31

/-- The year in four digits, with a sign outside the range from 0 to 9999. -/
def yearText (year : Int) : List Char :=
  if 0 ≤ year ∧ year ≤ 9999 then Text.paddedText 4 year.toNat
  else (if year < 0 then '-' else '+') :: Text.paddedText 4 year.natAbs

end Date

/-- A moment in universal time. -/
structure Timestamp where
  /-- The date. -/
  date : Date
  /-- Seconds since midnight, below 86400. -/
  second : Nat
  /-- Nanoseconds into the second; a billion or more inside a leap second. -/
  nano : Nat
  deriving DecidableEq

namespace Timestamp

/-- The number of seconds of a day. -/
def daySeconds : Nat :=
  86400

/-- The number of nanoseconds of a second. -/
def secondNanos : Nat :=
  1000000000

/-- The moment at which a clock that is `offset` seconds ahead of universal time shows a date and a
time of day; the offset is less than a day. -/
def ofLocal? (date : Date) (second nano : Nat) (offset : Int) : Option Timestamp :=
  let universal : Int := second - offset
  if universal < 0 then
    date.previous?.map (⟨·, (universal + daySeconds).toNat, nano⟩)
  else if daySeconds ≤ universal then
    date.next?.map (⟨·, (universal - daySeconds).toNat, nano⟩)
  else some ⟨date, universal.toNat, nano⟩

/-- A fraction of a second in the least of 0, 3, 6 and 9 digits that loses nothing. -/
def fractionText (nano : Nat) : List Char :=
  if nano = 0 then []
  else if nano % 1000000 = 0 then '.' :: Text.paddedText 3 (nano / 1000000)
  else if nano % 1000 = 0 then '.' :: Text.paddedText 6 (nano / 1000)
  else '.' :: Text.paddedText 9 nano

/-- The written form: date, time, fraction and the mark of universal time. -/
def toString (moment : Timestamp) : String :=
  let leap := if secondNanos ≤ moment.nano then 1 else 0
  String.ofList
    (Date.yearText moment.date.year ++ '-' :: Text.paddedText 2 moment.date.month ++
      '-' :: Text.paddedText 2 moment.date.day ++
      'T' :: Text.paddedText 2 (moment.second / 3600) ++
      ':' :: Text.paddedText 2 (moment.second / 60 % 60) ++
      ':' :: Text.paddedText 2 (moment.second % 60 + leap) ++
      fractionText (moment.nano - leap * secondNanos) ++ ['Z'])

instance : ToString Timestamp :=
  ⟨toString⟩

end Timestamp
end Workflow
