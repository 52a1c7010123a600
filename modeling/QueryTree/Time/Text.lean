/-
This file writes and reads dates and timestamps.
-/
import QueryTree.Text.Blank
import QueryTree.Time.Calendar

namespace QueryTree

open Text (skipBlanks)

namespace TimeText

/-- A number with zeros before it up to a width. -/
def padded (width number : Nat) : List Char :=
  let digits := Nat.toDigits 10 number
  List.replicate (width - digits.length) '0' ++ digits

/-- A year has four digits; outside the years 0 to 9999 it has a sign as well. -/
def year (year : Int) : List Char :=
  let sign := if year < 0 then ['-'] else if year > 9999 then ['+'] else []
  sign ++ padded 4 year.natAbs

/-- The nanoseconds have no digits, three, six or nine, as few as lose nothing. -/
def fraction (nanosecond : Nat) : List Char :=
  if nanosecond = 0 then []
  else if nanosecond % 1000000 = 0 then '.' :: padded 3 (nanosecond / 1000000)
  else if nanosecond % 1000 = 0 then '.' :: padded 6 (nanosecond / 1000)
  else '.' :: padded 9 nanosecond

/-- What a reader takes from the text, and the rest of the text. -/
abbrev Reader (α : Type) := List Char → Option (α × List Char)

/-- A run of one or more digits, at most as many as the limit says, and their count. -/
def digits (limit : Nat) (characters : List Char) : Option (Nat × Nat × List Char) :=
  let run := (characters.take limit).takeWhile Char.isDigit
  if run.isEmpty then none
  else
    some (run.foldl (fun total digit => 10 * total + (digit.toNat - '0'.toNat)) 0, run.length,
      characters.drop run.length)

/-- White space and a number of at most so many digits. -/
def number (limit : Nat) : Reader Nat := fun characters => do
  let (value, _, rest) ← digits limit (skipBlanks characters)
  return (value, rest)

/-- White space and a year: four digits at most, or a sign and any count of digits. -/
def signedYear : Reader Int := fun characters =>
  match skipBlanks characters with
  | '-' :: rest => do
      let (value, _, rest) ← digits rest.length rest
      return (-(value : Int), rest)
  | '+' :: rest => do
      let (value, _, rest) ← digits rest.length rest
      return ((value : Int), rest)
  | rest => do
      let (value, _, rest) ← digits 4 rest
      return ((value : Int), rest)

/-- White space and one character. -/
def mark (expected : Char) (characters : List Char) : Option (List Char) :=
  match skipBlanks characters with
  | next :: rest => if next = expected then some rest else none
  | [] => none

/-- A point with one to nine digits of nanoseconds; further digits are passed over. -/
def nanosecond : Reader Nat := fun characters =>
  match characters with
  | '.' :: rest => do
      let (value, count, rest) ← digits 9 rest
      return (value * Nat.pow 10 (9 - count), rest.dropWhile Char.isDigit)
  | _ => some (0, characters)

/-- A year, a month and a day with hyphens between them. -/
def date : Reader Date := fun characters => do
  let (year, rest) ← signedYear characters
  let rest ← mark '-' rest
  let (month, rest) ← number 2 rest
  let rest ← mark '-' rest
  let (day, rest) ← number 2 rest
  let date ← Date.ofCalendar? ⟨year, month, day⟩
  return (date, rest)

/-- Hours, minutes and seconds with colons between them; the sixtieth second is a leap second. -/
def timeOfDay : Reader TimeOfDay := fun characters => do
  let (hour, rest) ← number 2 characters
  let rest ← mark ':' rest
  let (minute, rest) ← number 2 rest
  let rest ← mark ':' rest
  let (second, rest) ← number 2 rest
  let (nanosecond, rest) ← nanosecond rest
  if hour < 24 ∧ minute < 60 ∧ second ≤ 60 then
    let time ←
      if second = 60 then
        TimeOfDay.ofParts? (hour * 3600 + minute * 60 + 59) (nanosecond + 1000000000)
      else TimeOfDay.ofParts? (hour * 3600 + minute * 60 + second) nanosecond
    return (time, rest)
  else none

/-- A sign, two digits of hours and two of minutes, with colons or white space between them. -/
def signedOffset : Reader Int := fun characters =>
  match characters with
  | sign :: firstHour :: secondHour :: rest =>
      let rest := rest.dropWhile fun next => next == ':' || Text.isBlank next
      match rest with
      | firstMinute :: secondMinute :: rest =>
          if (sign = '+' ∨ sign = '-' ∨ sign = '\u2212')
              ∧ firstHour.isDigit ∧ secondHour.isDigit
              ∧ firstMinute.isDigit ∧ secondMinute.isDigit ∧ firstMinute ≤ '5' then
            let value := fun (tens ones : Char) =>
              10 * (tens.toNat - '0'.toNat) + (ones.toNat - '0'.toNat)
            let seconds : Int := value firstHour secondHour * 3600 + value firstMinute secondMinute * 60
            if seconds < 86400 then some (if sign = '+' then seconds else -seconds, rest) else none
          else none
      | _ => none
  | _ => none

/-- The offset from universal time in seconds: the letter of universal time, its name, or signed
hours and minutes. -/
def offset : Reader Int := fun characters =>
  match characters with
  | 'Z' :: rest => some (0, rest)
  | 'z' :: rest => some (0, rest)
  | characters =>
      if (characters.take 3).map Char.toUpper = ['U', 'T', 'C'] then some (0, characters.drop 3)
      else signedOffset characters

end TimeText

namespace Date

def characters (date : Date) : List Char :=
  let calendar := date.calendar
  TimeText.year calendar.year ++ '-' :: TimeText.padded 2 calendar.month
    ++ '-' :: TimeText.padded 2 calendar.day

def text (date : Date) : String := String.ofList date.characters

def ofText? (text : String) : Option Date := do
  let (date, rest) ← TimeText.date text.toList
  if (skipBlanks rest).isEmpty then some date else none

end Date

namespace TimeOfDay

/-- A leap second is written as the sixtieth second of its minute. -/
def characters (time : TimeOfDay) : List Char :=
  let leap := time.nanosecond ≥ 1000000000
  TimeText.padded 2 (time.second / 3600) ++ ':' :: TimeText.padded 2 (time.second / 60 % 60)
    ++ ':' :: TimeText.padded 2 (time.second % 60 + if leap then 1 else 0)
    ++ TimeText.fraction (if leap then time.nanosecond - 1000000000 else time.nanosecond)

end TimeOfDay

namespace Timestamp

/-- The date, a separator and the time. -/
def characters (separator : Char) (timestamp : Timestamp) : List Char :=
  timestamp.date.characters ++ separator :: timestamp.time.characters

/-- The text with the letter between date and time. -/
def text (timestamp : Timestamp) : String := String.ofList (timestamp.characters 'T')

/-- The text with a blank between date and time. -/
def spacedText (timestamp : Timestamp) : String := String.ofList (timestamp.characters ' ')

/-- The text of a moment in universal time, with the given mark of its offset. -/
def universalText (mark : String) (timestamp : Timestamp) : String :=
  String.ofList (timestamp.characters 'T' ++ mark.toList)

def ofText? (text : String) : Option Timestamp := do
  let (date, rest) ← TimeText.date text.toList
  let rest ← TimeText.mark 'T' rest
  let (time, rest) ← TimeText.timeOfDay rest
  if (skipBlanks rest).isEmpty then some ⟨date, time⟩ else none

/-- A timestamp with an offset is moved to universal time. -/
def ofUniversalText? (text : String) : Option Timestamp := do
  let (date, rest) ← TimeText.date text.toList
  let rest ← match rest with
    | next :: rest => if next = 'T' ∨ next = 't' ∨ next = ' ' then some rest else none
    | [] => none
  let (time, rest) ← TimeText.timeOfDay rest
  let (offset, rest) ← TimeText.offset (skipBlanks rest)
  if (skipBlanks rest).isEmpty then (Timestamp.mk date time).addSeconds? (-offset) else none

end Timestamp

end QueryTree
