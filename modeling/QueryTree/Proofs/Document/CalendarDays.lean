/-
This file proves that a day has a year, a month and a day of the month, and that it is the day of that date.

Days are counted within eras of four hundred years, which begin in March. A year of an era begins
`365 * year + year / 4 - year / 100` days after its start.
-/
import Mathlib.Tactic.ByContra
import QueryTree.Time.Calendar

namespace QueryTree

namespace CalendarDate

section YearOfEra

variable {day year century era hundred : Int} (first : 0 ≤ day) (last : day < 146097)
  (centuries : century = day / 36524) (eras : era = day / 146096)
  (counted : year = (day - day / 1460 + century - era) / 365) (hundreds : hundred = year / 100)

include first last centuries eras counted hundreds

/-- A year has as many centuries behind it as its day has, but for the last day of an era. -/
theorem centuries_bounds : century - era ≤ hundred ∧ hundred ≤ century ∧ hundred ≤ 3 := by
  omega

/-- A day is in a year of its era: no earlier than the start of the year and no later than its leap day. -/
theorem yearOfEra_bounds :
    0 ≤ year ∧ year < 400 ∧ 0 ≤ day - (365 * year + year / 4 - hundred) ∧
      day - (365 * year + year / 4 - hundred) ≤ 365 := by
  have bounds := centuries_bounds first last centuries eras counted hundreds
  omega

/-- Only a year in front of the February of a leap year has a leap day. -/
theorem leapDay_year (full : day - (365 * year + year / 4 - hundred) = 365) :
    (year + 1) % 4 = 0 ∧ ((year + 1) % 100 ≠ 0 ∨ year + 1 = 400) := by
  have bounds := centuries_bounds first last centuries eras counted hundreds
  constructor
  · by_contra ordinary
    obtain ⟨four, rest, rfl, least, most⟩ : ∃ four rest, year = 4 * four + rest ∧ 0 ≤ rest ∧ rest ≤ 2 :=
      ⟨year / 4, year % 4, by omega, by omega, by omega⟩
    have quarter : (4 * four + rest) / 4 = four := by omega
    rw [quarter] at full
    have within : four ≤ 99 := by omega
    have leaps : day / 1460 = four := by omega
    have inside : era = 0 := by omega
    omega
  · by_contra ordinary
    have whole : (year + 1) % 100 = 0 := by omega
    have other : year ≠ 399 := by omega
    have ends : year = 100 * hundred + 99 := by omega
    omega

end YearOfEra

/-- The month of a year and the day of the month, both counted from zero, that a day of the year is in. -/
theorem monthOfYear_bounds {day month : Int} (first : 0 ≤ day) (last : day ≤ 365)
    (counted : month = (5 * day + 2) / 153) :
    0 ≤ month ∧ month ≤ 11 ∧ 0 ≤ day - (153 * month + 2) / 5 ∧ day - (153 * month + 2) / 5 ≤ 30 ∧
      (month = 1 ∨ month = 3 ∨ month = 6 ∨ month = 8 → day - (153 * month + 2) / 5 ≤ 29) ∧
      (month = 11 → day - (153 * month + 2) / 5 ≤ 28 ∧
        (day - (153 * month + 2) / 5 = 28 → day = 365)) := by
  omega

theorem isLeapYear_iff (year : Int) :
    isLeapYear year = true ↔ year % 4 = 0 ∧ (year % 100 ≠ 0 ∨ year % 400 = 0) := by
  simp only [isLeapYear, Bool.or_eq_true, Bool.and_eq_true, decide_eq_true_eq, bne_iff_ne]
  omega

/-- The parts that are counted for a day: its era, the year of the era, and the month and the day of the
month, both from zero and from March on. -/
structure Counts (number era yearOfEra month dayOfMonth : Int) : Prop where
  total : number + 730425 = era * 146097 + (365 * yearOfEra + yearOfEra / 4 - yearOfEra / 100) +
    ((153 * month + 2) / 5 + dayOfMonth)
  years : 0 ≤ yearOfEra ∧ yearOfEra < 400
  months : 0 ≤ month ∧ month ≤ 11
  days : 0 ≤ dayOfMonth ∧ dayOfMonth ≤ 30
  short : month = 1 ∨ month = 3 ∨ month = 6 ∨ month = 8 → dayOfMonth ≤ 29
  february : month = 11 → dayOfMonth ≤ 28
  leapDay : month = 11 → dayOfMonth = 28 →
    (yearOfEra + 1) % 4 = 0 ∧ ((yearOfEra + 1) % 100 ≠ 0 ∨ yearOfEra + 1 = 400)

/-- The date of the parts. The year begins in January. -/
def ofCounts (era yearOfEra month dayOfMonth : Int) : CalendarDate where
  year := if month < 10 then yearOfEra + era * 400 else yearOfEra + era * 400 + 1
  month := (if month < 10 then month + 3 else month - 9).toNat
  day := (dayOfMonth + 1).toNat

theorem ofDayNumber_counts (number : Int) :
    ∃ era yearOfEra month dayOfMonth, Counts number era yearOfEra month dayOfMonth ∧
      ofDayNumber number = ofCounts era yearOfEra month dayOfMonth := by
  have first : 0 ≤ (number + 730425) % 146097 := Int.emod_nonneg _ (by decide)
  have last : (number + 730425) % 146097 < 146097 := Int.emod_lt_of_pos _ (by decide)
  have parted := Int.mul_ediv_add_emod (number + 730425) 146097
  generalize counted : (number + 730425) % 146097 = day at first last parted
  generalize yeared : (day - day / 1460 + day / 36524 - day / 146096) / 365 = year
  obtain ⟨least, most, started, ended⟩ := yearOfEra_bounds first last rfl rfl yeared.symm rfl
  have leap := leapDay_year first last rfl rfl yeared.symm rfl
  generalize placed : day - (365 * year + year / 4 - year / 100) = dayOfYear at started ended leap
  obtain ⟨january, december, earliest, latest, short, february⟩ := monthOfYear_bounds started ended rfl
  refine ⟨(number + 730425) / 146097, year, (5 * dayOfYear + 2) / 153,
    dayOfYear - (153 * ((5 * dayOfYear + 2) / 153) + 2) / 5,
    ⟨?_, ⟨least, most⟩, ⟨january, december⟩, ⟨earliest, latest⟩, short, fun last => (february last).1,
      fun last ends => leap ((february last).2 ends)⟩, ?_⟩
  · omega
  · subst placed yeared counted
    rfl

/-- A day is the day of its date. -/
theorem dayNumber_ofDayNumber (number : Int) : (ofDayNumber number).dayNumber = number := by
  obtain ⟨era, yearOfEra, month, dayOfMonth, ⟨total, years, months, days, -, -, -⟩, parted⟩ :=
    ofDayNumber_counts number
  rw [parted]
  generalize made : ofCounts era yearOfEra month dayOfMonth = date
  have dayOf : (date.day : Int) = dayOfMonth + 1 := by
    rw [← made]
    exact Int.toNat_of_nonneg (by omega)
  have monthOf : (if date.month ≤ 2 then (date.month : Int) + 9 else date.month - 3) = month := by
    rw [← made, ofCounts]
    dsimp only
    split <;> omega
  have yearOf : (if date.month ≤ 2 then date.year - 1 else date.year) = yearOfEra + era * 400 := by
    rw [← made, ofCounts]
    dsimp only
    split <;> omega
  have inEra : (yearOfEra + era * 400) % 400 = yearOfEra := by omega
  have eras : (yearOfEra + era * 400) / 400 = era := by omega
  unfold dayNumber
  dsimp only
  rw [dayOf, monthOf, yearOf, inEra, eras]
  omega

/-- The date of a day is in the calendar. -/
theorem isValid_ofDayNumber (number : Int) : (ofDayNumber number).isValid = true := by
  obtain ⟨era, yearOfEra, month, dayOfMonth, counts, parted⟩ := ofDayNumber_counts number
  obtain ⟨-, years, months, days, short, february, leapDay⟩ := counts
  rw [parted]
  generalize made : ofCounts era yearOfEra month dayOfMonth = date
  have dayOf : (date.day : Int) = dayOfMonth + 1 := by
    rw [← made]
    exact Int.toNat_of_nonneg (by omega)
  have monthOf : (date.month : Int) = if month < 10 then month + 3 else month - 9 := by
    rw [← made]
    exact Int.toNat_of_nonneg (by omega)
  have length : date.day ≤ monthLength date.year date.month := by
    unfold monthLength
    split
    next second =>
      have yearOf : date.year = yearOfEra + era * 400 + 1 := by
        rw [← made]
        exact if_neg (by omega)
      by_cases leap : isLeapYear date.year = true
      · rw [if_pos leap]
        omega
      · rw [if_neg leap]
        rw [isLeapYear_iff, yearOf] at leap
        omega
    next => split <;> omega
  simp only [isValid, Bool.and_eq_true, decide_eq_true_eq]
  omega

end CalendarDate

/-- A day is read back from its date. -/
theorem Date.ofCalendar?_calendar (date : Date) : ofCalendar? date.calendar = some date := by
  rw [ofCalendar?, calendar, if_pos (CalendarDate.isValid_ofDayNumber date.day),
    CalendarDate.dayNumber_ofDayNumber, ofDay?, dif_pos ⟨date.lowest, date.highest⟩]

end QueryTree
