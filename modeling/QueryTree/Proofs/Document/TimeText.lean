/-
This file proves that dates and timestamps, those in universal time as well, are read back from their text.
-/
import Mathlib.Algebra.Group.Nat.Defs
import QueryTree.Proofs.Document.CalendarDays
import QueryTree.Proofs.Text.DigitRuns
import QueryTree.Time.Text

namespace QueryTree

open Text (skipBlanks)

namespace TimeText

theorem padded_isDigit (width number : Nat) :
    ∀ character ∈ padded width number, character.isDigit = true :=
  Text.isDigit_of_mem_leadingZeros _ _

theorem padded_ne_nil (width number : Nat) : padded width number ≠ [] :=
  List.append_ne_nil_of_right_ne_nil _ Nat.toDigits_ne_nil

theorem ofDigitChars_padded (width number : Nat) :
    Nat.ofDigitChars 10 (padded width number) 0 = number :=
  Text.ofDigitChars_leadingZeros _ _

/-- A number that fits its width has as many digits. -/
theorem padded_length {width number : Nat} (positive : 0 < width) (fits : number < 10 ^ width) :
    (padded width number).length = width := by
  have length := (Nat.length_toDigits_le_iff (n := number) (by decide) positive).mpr fits
  simp only [padded, List.length_append, List.length_replicate]
  omega

theorem skipBlanks_padded (width number : Nat) (rest : List Char) :
    skipBlanks (padded width number ++ rest) = padded width number ++ rest := by
  obtain ⟨first, others, parts⟩ := List.exists_cons_of_ne_nil (padded_ne_nil width number)
  have digit := padded_isDigit width number first (by rw [parts]; exact List.mem_cons_self)
  rw [parts, skipBlanks, List.cons_append,
    List.dropWhile_cons_of_neg (by simp [Text.isBlank_of_isDigit digit])]

/-- Digits are read up to the limit, or up to a character that is none. -/
theorem digits_run {limit : Nat} {run : List Char}
    (number : ∀ character ∈ run, character.isDigit = true) (nonempty : run ≠ []) (rest : List Char)
    (ends : run.length = limit ∨ run.length ≤ limit ∧ EndsDigits rest) :
    digits limit (run ++ rest) = some (Nat.ofDigitChars 10 run 0, run.length, rest) := by
  have within : run.length ≤ limit := by omega
  have behind : EndsDigits (rest.take (limit - run.length)) := by
    intro character head
    rw [List.head?_take] at head
    split at head
    · cases head
    · exact (ends.resolve_left (by omega)).2 character head
  have taken : ((run ++ rest).take limit).takeWhile Char.isDigit = run := by
    rw [List.take_append, List.take_of_length_le within]
    exact (behind.cut number).1
  unfold digits
  simp [taken, nonempty, Nat.ofDigitChars_eq_foldl]

theorem number_padded {width value : Nat} (positive : 0 < width) (fits : value < 10 ^ width)
    (rest : List Char) : number width (padded width value ++ rest) = some (value, rest) := by
  rw [number, skipBlanks_padded, digits_run (padded_isDigit width value) (padded_ne_nil width value)
    rest (.inl (padded_length positive fits)), ofDigitChars_padded]
  rfl

theorem mark_here {expected : Char} (visible : Text.isBlank expected = false) (rest : List Char) :
    mark expected (expected :: rest) = some rest := by
  rw [mark, skipBlanks, List.dropWhile_cons_of_neg (by simp [visible])]
  exact if_pos rfl

/-- Behind a sign a year may have any count of digits. -/
theorem signedYear_signed (number : Nat) {rest : List Char} (ends : EndsDigits rest) :
    signedYear ('-' :: (padded 4 number ++ rest)) = some (-(number : Int), rest) ∧
      signedYear ('+' :: (padded 4 number ++ rest)) = some ((number : Int), rest) := by
  have within : (padded 4 number).length ≤ (padded 4 number ++ rest).length := by simp
  have run := digits_run (padded_isDigit 4 number) (padded_ne_nil 4 number) rest
    (.inr ⟨within, ends⟩)
  rw [ofDigitChars_padded] at run
  constructor
  · rw [signedYear, skipBlanks, List.dropWhile_cons_of_neg (by decide)]
    simp only [run]
    rfl
  · rw [signedYear, skipBlanks, List.dropWhile_cons_of_neg (by decide)]
    simp only [run]
    rfl

theorem signedYear_unsigned {number : Nat} (small : number < 10 ^ 4) (rest : List Char) :
    signedYear (padded 4 number ++ rest) = some ((number : Int), rest) := by
  have run := digits_run (padded_isDigit 4 number) (padded_ne_nil 4 number) rest
    (.inl (padded_length (by decide) small))
  rw [ofDigitChars_padded] at run
  obtain ⟨first, others, parts⟩ := List.exists_cons_of_ne_nil (padded_ne_nil 4 number)
  have digit := padded_isDigit 4 number first (by rw [parts]; exact List.mem_cons_self)
  rw [signedYear, skipBlanks_padded]
  split
  next signed =>
    rw [parts] at signed
    cases (List.cons.inj signed).1
    cases digit
  next signed =>
    rw [parts] at signed
    cases (List.cons.inj signed).1
    cases digit
  next =>
    rw [run]
    rfl

/-- A year is read back where no digit follows. -/
theorem signedYear_year (value : Int) {rest : List Char} (ends : EndsDigits rest) :
    signedYear (year value ++ rest) = some (value, rest) := by
  obtain ⟨negative, positive⟩ := signedYear_signed value.natAbs ends
  unfold year
  by_cases before : value < 0
  · have magnitude : -(value.natAbs : Int) = value := by omega
    rw [if_pos before]
    exact negative.trans (by rw [magnitude])
  · have magnitude : (value.natAbs : Int) = value := by omega
    rw [if_neg before]
    by_cases far : value > 9999
    · rw [if_pos far]
      exact positive.trans (by rw [magnitude])
    · rw [if_neg far]
      exact (signedYear_unsigned (by omega) rest).trans (by rw [magnitude])

/-- The month and the day of a date have two digits at most. -/
theorem calendar_two (day : Date) : day.calendar.month < 10 ^ 2 ∧ day.calendar.day < 10 ^ 2 := by
  have valid := CalendarDate.isValid_ofDayNumber day.day
  have length : CalendarDate.monthLength day.calendar.year day.calendar.month ≤ 31 := by
    unfold CalendarDate.monthLength
    repeat' split
    all_goals decide
  simp only [CalendarDate.isValid, Bool.and_eq_true, decide_eq_true_eq] at valid
  rw [Date.calendar] at length ⊢
  omega

/-- A date is read back where it ends. -/
theorem date_characters (day : Date) (rest : List Char) :
    date (day.characters ++ rest) = some (day, rest) := by
  obtain ⟨monthFits, dayFits⟩ := calendar_two day
  have back : Date.ofCalendar? ⟨day.calendar.year, day.calendar.month, day.calendar.day⟩ = some day :=
    day.ofCalendar?_calendar
  have hyphen : Text.isBlank '-' = false := by decide
  have written : day.characters ++ rest = year day.calendar.year ++ ('-' ::
      (padded 2 day.calendar.month ++ ('-' :: (padded 2 day.calendar.day ++ rest)))) := by
    simp [Date.characters]
  rw [written]
  simp only [date, signedYear_year _ (show EndsDigits ('-' :: _) by simp [EndsDigits]), mark_here hyphen,
    number_padded (by decide) monthFits, number_padded (by decide) dayFits, back, Option.bind_eq_bind,
    Option.bind_some]
  rfl

/-- Behind a point the digits count by their places. -/
theorem nanosecond_padded {places value : Nat} (positive : 0 < places) (most : places ≤ 9)
    (fits : value < 10 ^ places) {rest : List Char} (ends : EndsDigits rest) :
    nanosecond ('.' :: (padded places value ++ rest)) = some (value * 10 ^ (9 - places), rest) := by
  have length := padded_length positive fits
  have run := digits_run (padded_isDigit places value) (padded_ne_nil places value) rest
    (.inr ⟨Nat.le_trans (Nat.le_of_eq length) most, ends⟩)
  rw [ofDigitChars_padded, length] at run
  have kept : rest.dropWhile Char.isDigit = rest := (@EndsDigits.cut [] rest ends nofun).2
  simp only [nanosecond, run, Option.bind_eq_bind, Option.bind_some, kept]
  rfl

/-- The nanoseconds are read back where neither a digit nor a point follows. -/
theorem nanosecond_fraction {value : Nat} (fits : value < 1000000000) {rest : List Char}
    (ends : EndsDigits rest) (point : rest.head? ≠ some '.') :
    nanosecond (fraction value ++ rest) = some (value, rest) := by
  unfold fraction
  split
  next zero =>
    cases rest with
    | nil => rw [zero]; rfl
    | cons next others =>
      unfold nanosecond
      split
      next same =>
        cases same
        exact absurd rfl point
      next => rw [zero]; rfl
  next =>
    split
    next millis =>
      have exact : value / 1000000 * 10 ^ (9 - 3) = value := by omega
      exact (nanosecond_padded (by decide) (by decide) (show _ < 10 ^ 3 by omega) ends).trans (by rw [exact])
    next =>
      split
      next micros =>
        have exact : value / 1000 * 10 ^ (9 - 6) = value := by omega
        exact (nanosecond_padded (by decide) (by decide) (show _ < 10 ^ 6 by omega) ends).trans
          (by rw [exact])
      next =>
        have exact : value * 10 ^ (9 - 9) = value := by omega
        exact (nanosecond_padded (by decide) (by decide) (show _ < 10 ^ 9 by omega) ends).trans
          (by rw [exact])

/-- Hours, minutes, seconds and nanoseconds are read back; the sixtieth second is a leap second. -/
theorem timeOfDay_parts {hour minute second value : Nat} (hours : hour < 24) (minutes : minute < 60)
    (seconds : second ≤ 60) (fits : value < 1000000000) {rest : List Char} (ends : EndsDigits rest)
    (point : rest.head? ≠ some '.') :
    timeOfDay (padded 2 hour ++ ':' :: (padded 2 minute ++ ':' :: (padded 2 second ++
        (fraction value ++ rest)))) =
      (if second = 60 then TimeOfDay.ofParts? (hour * 3600 + minute * 60 + 59) (value + 1000000000)
        else TimeOfDay.ofParts? (hour * 3600 + minute * 60 + second) value).map (·, rest) := by
  have two : 0 < 2 := by decide
  have colon : Text.isBlank ':' = false := by decide
  simp only [timeOfDay, mark_here colon, number_padded two (show hour < 10 ^ 2 by omega),
    number_padded two (show minute < 10 ^ 2 by omega), number_padded two (show second < 10 ^ 2 by omega),
    nanosecond_fraction fits ends point, Option.bind_eq_bind, Option.bind_some,
    if_pos (And.intro hours (And.intro minutes seconds))]
  split <;> rw [Option.map_eq_bind] <;> rfl

/-- A time is read back where neither a digit nor a point follows. -/
theorem timeOfDay_characters (time : TimeOfDay) {rest : List Char} (ends : EndsDigits rest)
    (point : rest.head? ≠ some '.') : timeOfDay (time.characters ++ rest) = some (time, rest) := by
  have secondLt := time.secondLt
  have nanosecondLt := time.nanosecondLt
  have kept : TimeOfDay.ofParts? time.second time.nanosecond = some time :=
    dif_pos ⟨secondLt, nanosecondLt, time.leapAtEnd⟩
  have hours : time.second / 3600 < 24 := by omega
  have minutes : time.second / 60 % 60 < 60 := by omega
  by_cases leap : time.nanosecond ≥ 1000000000
  · have last : time.second % 60 = 59 := time.leapAtEnd.resolve_left (by omega)
    have read := @timeOfDay_parts _ _ (time.second % 60 + 1) (time.nanosecond - 1000000000) hours minutes
      (by omega) (by omega) rest ends point
    have seconds : time.second / 3600 * 3600 + time.second / 60 % 60 * 60 + 59 = time.second := by omega
    have nanoseconds : time.nanosecond - 1000000000 + 1000000000 = time.nanosecond := by omega
    rw [if_pos (by omega), seconds, nanoseconds, kept] at read
    simpa [TimeOfDay.characters, leap] using read
  · have read := @timeOfDay_parts _ _ (time.second % 60) time.nanosecond hours minutes (by omega)
      (by omega) rest ends point
    have seconds : time.second / 3600 * 3600 + time.second / 60 % 60 * 60 + time.second % 60 =
        time.second := by omega
    rw [if_neg (by omega), seconds, kept] at read
    simpa [TimeOfDay.characters, leap] using read

end TimeText

/-- A date is read back from its text. -/
theorem Date.ofText?_text (date : Date) : ofText? date.text = some date := by
  have read := TimeText.date_characters date []
  rw [List.append_nil] at read
  rw [ofText?, text, String.toList_ofList, read]
  rfl

namespace Timestamp

/-- A timestamp is read back from its text. -/
theorem ofText?_text (timestamp : Timestamp) : ofText? timestamp.text = some timestamp := by
  have day := TimeText.date_characters timestamp.date ('T' :: timestamp.time.characters)
  have letter := TimeText.mark_here (show Text.isBlank 'T' = false by decide) timestamp.time.characters
  have time := @TimeText.timeOfDay_characters timestamp.time [] nofun nofun
  rw [List.append_nil] at time
  simp only [ofText?, text, characters, String.toList_ofList, day, letter, time, Option.bind_eq_bind,
    Option.bind_some]
  rfl

/-- A timestamp is the moment no seconds later than itself. -/
theorem addSeconds?_zero (timestamp : Timestamp) : timestamp.addSeconds? 0 = some timestamp := by
  have secondLt := timestamp.time.secondLt
  have dated : (timestamp.date.day * 86400 + timestamp.time.second + 0) / 86400 = timestamp.date.day := by
    omega
  have timed : ((timestamp.date.day * 86400 + timestamp.time.second + 0) % 86400).toNat =
      timestamp.time.second := by omega
  rw [addSeconds?, ofSeconds?, dated, timed, Date.ofDay?,
    dif_pos ⟨timestamp.date.lowest, timestamp.date.highest⟩, TimeOfDay.ofParts?,
    dif_pos ⟨secondLt, timestamp.time.nanosecondLt, timestamp.time.leapAtEnd⟩]
  rfl

/-- A moment in universal time is read back from its text. -/
theorem ofUniversalText?_universalText (timestamp : Timestamp) :
    ofUniversalText? (timestamp.universalText "Z") = some timestamp := by
  have day := TimeText.date_characters timestamp.date ('T' :: (timestamp.time.characters ++ ['Z']))
  have time := @TimeText.timeOfDay_characters timestamp.time ['Z'] (by simp [EndsDigits]) (by simp)
  have zone : TimeText.offset (skipBlanks ['Z']) = some (0, []) := rfl
  have nothing : skipBlanks [] = [] := rfl
  have moment := addSeconds?_zero timestamp
  have letter : ['Z'] = "Z".toList := rfl
  simp only [ofUniversalText?, universalText, characters, String.toList_ofList, List.append_assoc,
    List.cons_append, ← letter, day, time, zone, nothing, moment, Option.bind_eq_bind, Option.bind_some,
    true_or, if_true, List.isEmpty_nil, Int.neg_zero]

end Timestamp

end QueryTree
