/-
This file holds calendar dates as day numbers, times of day, and their conversion to years, months
and days. The calendar is the Gregorian one, also before its introduction.
-/

namespace QueryTree

/-- A day, counted from the first of January 2000, in the years -262143 to 262142. -/
structure Date where
  day : Int
  lowest : -96476249 ≤ day
  highest : day ≤ 95015279
deriving DecidableEq, Repr

/-- A second of the day and the nanoseconds after it; a leap second lengthens the last second of
its minute. -/
structure TimeOfDay where
  second : Nat
  nanosecond : Nat
  secondLt : second < 86400
  nanosecondLt : nanosecond < 2000000000
  leapAtEnd : nanosecond < 1000000000 ∨ second % 60 = 59
deriving DecidableEq, Repr

/-- A date and a time of day. -/
structure Timestamp where
  date : Date
  time : TimeOfDay
deriving DecidableEq, Repr

/-- A year, a month and a day of the month. -/
structure CalendarDate where
  year : Int
  month : Nat
  day : Nat
deriving DecidableEq, Repr

namespace CalendarDate

def isLeapYear (year : Int) : Bool := (year % 4 = 0 && year % 100 != 0) || year % 400 = 0

def monthLength (year : Int) (month : Nat) : Nat :=
  if month = 2 then (if isLeapYear year then 29 else 28)
  else if month = 4 ∨ month = 6 ∨ month = 9 ∨ month = 11 then 30 else 31

def isValid (date : CalendarDate) : Bool :=
  1 ≤ date.month && date.month ≤ 12 && 1 ≤ date.day && date.day ≤ monthLength date.year date.month

/-- The day number. Years begin in March, so that a leap day is the last day of its year. -/
def dayNumber (date : CalendarDate) : Int :=
  let year := if date.month ≤ 2 then date.year - 1 else date.year
  let month : Int := if date.month ≤ 2 then date.month + 9 else date.month - 3
  let yearOfEra := year % 400
  let dayOfYear := (153 * month + 2) / 5 + date.day - 1
  let dayOfEra := yearOfEra * 365 + yearOfEra / 4 - yearOfEra / 100 + dayOfYear
  year / 400 * 146097 + dayOfEra - 730425

/-- The year, month and day of a day number. -/
def ofDayNumber (number : Int) : CalendarDate :=
  let shifted := number + 730425
  let dayOfEra := shifted % 146097
  let yearOfEra := (dayOfEra - dayOfEra / 1460 + dayOfEra / 36524 - dayOfEra / 146096) / 365
  let dayOfYear := dayOfEra - (365 * yearOfEra + yearOfEra / 4 - yearOfEra / 100)
  let month := (5 * dayOfYear + 2) / 153
  let year := yearOfEra + shifted / 146097 * 400
  { year := if month < 10 then year else year + 1
    month := (if month < 10 then month + 3 else month - 9).toNat
    day := (dayOfYear - (153 * month + 2) / 5 + 1).toNat }

end CalendarDate

namespace Date

def ofDay? (day : Int) : Option Date :=
  if inRange : -96476249 ≤ day ∧ day ≤ 95015279 then some ⟨day, inRange.1, inRange.2⟩ else none

def ofCalendar? (date : CalendarDate) : Option Date :=
  if date.isValid then ofDay? date.dayNumber else none

def calendar (date : Date) : CalendarDate := .ofDayNumber date.day

example : (ofCalendar? ⟨2000, 1, 1⟩).map Date.day = some 0 := by decide

example : (ofCalendar? ⟨-262143, 1, 1⟩).map Date.day = some (-96476249) := by decide

example : (ofCalendar? ⟨262142, 12, 31⟩).map Date.day = some 95015279 := by decide

end Date

namespace TimeOfDay

/-- A time is formed when its parts are in range. -/
def ofParts? (second nanosecond : Nat) : Option TimeOfDay :=
  if inRange : second < 86400 ∧ nanosecond < 2000000000
      ∧ (nanosecond < 1000000000 ∨ second % 60 = 59) then
    some ⟨second, nanosecond, inRange.1, inRange.2.1, inRange.2.2⟩
  else none

end TimeOfDay

namespace Timestamp

/-- The nanoseconds since the first moment of 2000; a leap second counts on into the next one. -/
def nanoseconds (timestamp : Timestamp) : Int :=
  (timestamp.date.day * 86400 + timestamp.time.second) * 1000000000 + timestamp.time.nanosecond

/-- The moment that many seconds after the first one of 2000, with nanoseconds after it. -/
def ofSeconds? (seconds : Int) (nanosecond : Nat) : Option Timestamp := do
  let date ← Date.ofDay? (seconds / 86400)
  let time ← TimeOfDay.ofParts? (seconds % 86400).toNat nanosecond
  return ⟨date, time⟩

/-- The whole microseconds since the first moment of 2000, cut off toward it. -/
def microseconds (timestamp : Timestamp) : Int := timestamp.nanoseconds.tdiv 1000

/-- The moment that many microseconds after the first one of 2000. -/
def ofMicroseconds? (microseconds : Int) : Option Timestamp :=
  ofSeconds? (microseconds / 1000000) ((microseconds % 1000000).toNat * 1000)

/-- The moment that many seconds later. -/
def addSeconds? (timestamp : Timestamp) (seconds : Int) : Option Timestamp :=
  ofSeconds? (timestamp.date.day * 86400 + timestamp.time.second + seconds) timestamp.time.nanosecond

end Timestamp

end QueryTree
