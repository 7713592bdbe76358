/-!
# Dates and times

A `Date` is a day of the Gregorian calendar between the years 1 and 9999, a `DateTime` such a day
with a time of day and, if known, an offset from universal time. Only existing days and times can be
built: `Date.make?`, `Clock.make?` and `Offset.make?` check the fields.
-/

namespace BookCatalog

/-- A year with a 29th of February. -/
def isLeapYear (year : Nat) : Bool :=
  year % 4 == 0 && (year % 100 != 0 || year % 400 == 0)

/-- The number of days of a month, zero if there is no such month. -/
def daysInMonth (year month : Nat) : Nat :=
  if month = 2 then (if isLeapYear year then 29 else 28)
  else if month = 4 ∨ month = 6 ∨ month = 9 ∨ month = 11 then 30
  else if 1 ≤ month ∧ month ≤ 12 then 31
  else 0

/-- The number of days of a year. -/
def daysInYear (year : Nat) : Nat :=
  if isLeapYear year then 366 else 365

/-- The three numbers name a day of the calendar. -/
def isDay (year month day : Nat) : Bool :=
  1 ≤ year && year ≤ 9999 && 1 ≤ day && day ≤ daysInMonth year month

/-- A day of the calendar. -/
structure Date where
  year : Nat
  month : Nat
  day : Nat
  exists_day : isDay year month day = true
  deriving DecidableEq, Repr

/-- The day with the given year, month and day, if the calendar has it. -/
def Date.make? (year month day : Nat) : Option Date :=
  if h : isDay year month day = true then some ⟨year, month, day, h⟩ else none

/-- A time of day to the microsecond. -/
structure Clock where
  hour : Nat
  minute : Nat
  second : Nat
  micro : Nat
  exists_time : (hour < 24 ∧ minute < 60) ∧ second < 60 ∧ micro < 1000000
  deriving DecidableEq, Repr

/-- The time of day with the given fields, if there is one. -/
def Clock.make? (hour minute second micro : Nat) : Option Clock :=
  if h : (hour < 24 ∧ minute < 60) ∧ second < 60 ∧ micro < 1000000 then
    some ⟨hour, minute, second, micro, h⟩
  else none

/-- The first moment of a day. -/
def Clock.midnight : Clock := ⟨0, 0, 0, 0, by decide⟩

/-- One day in microseconds. -/
def microsPerDay : Nat := 86400000000

/-- An offset from universal time, less than a day in either direction. -/
structure Offset where
  negative : Bool
  micros : Nat
  within_day : micros < microsPerDay ∧ (negative = true → 0 < micros)
  deriving DecidableEq, Repr

/-- The offset with a sign and a size, if it is less than a day; there is no negative zero. -/
def Offset.make? (negative : Bool) (micros : Nat) : Option Offset :=
  if h : micros < microsPerDay then
    if hz : 0 < micros then some ⟨negative, micros, h, fun _ => hz⟩
    else some ⟨false, micros, h, fun e => by simp at e⟩
  else none

/-- A day, a time of day and, if known, the offset from universal time. -/
structure DateTime where
  date : Date
  clock : Clock
  offset : Option Offset
  deriving DecidableEq, Repr

/-- The first moment of a day, with no offset given. -/
def Date.midnight (d : Date) : DateTime :=
  ⟨d, Clock.midnight, none⟩

/-- The day that lies `n` days after the first day of a year and in that year: its month and day. -/
def monthAndDay (year : Nat) (n : Nat) : Nat × Nat :=
  go 12 1 n
where
  go : Nat → Nat → Nat → Nat × Nat
    | 0, month, left => (month, left + 1)
    | fuel + 1, month, left =>
      if left < daysInMonth year month then (month, left + 1)
      else go fuel (month + 1) (left - daysInMonth year month)

/-- Every year has days. -/
theorem daysInYear_pos (year : Nat) : 0 < daysInYear year := by
  unfold daysInYear
  split <;> decide

/-- The day that lies `n` days after the first day of a year. -/
def Date.after? (year n : Nat) : Option Date :=
  if _h : n < daysInYear year then
    let (m, d) := monthAndDay year n
    Date.make? year m d
  else Date.after? (year + 1) (n - daysInYear year)
termination_by n
decreasing_by
  have := daysInYear_pos year
  omega

/-- The moment that lies a number of seconds after the beginning of 1970. -/
def DateTime.afterSeconds? (n : Nat) : Option DateTime := do
  let date ← Date.after? 1970 (n / 86400)
  let clock ← Clock.make? (n / 3600 % 24) (n / 60 % 60) (n % 60) 0
  pure ⟨date, clock, none⟩

/-- The number of days before the first day of a year, counted from the first of January of year
1. -/
def daysBefore (year : Nat) : Nat :=
  let y := year - 1
  365 * y + y / 4 - y / 100 + y / 400

/-- The weekday of the first day of a year, with Monday as zero. -/
def firstWeekday (year : Nat) : Nat :=
  daysBefore year % 7

/-- The number of weeks of a year in the week calendar: 53 if the year starts on a Thursday, or is a
leap year that starts on a Wednesday. -/
def weeksInYear (year : Nat) : Nat :=
  if firstWeekday year = 3 ∨ (firstWeekday year = 2 ∧ isLeapYear year) then 53 else 52

/-- A day of the week calendar: the weekday `day` (Monday is 1) of a week of a year. The first week
is the one that holds the first Thursday. -/
def Date.ofWeek? (year week day : Nat) : Option Date :=
  if 1 ≤ year ∧ year ≤ 9999 ∧ 1 ≤ week ∧ week ≤ weeksInYear year ∧ 1 ≤ day ∧ day ≤ 7 then
    let start := firstWeekday year
    let ahead := 7 * (week - 1) + (day - 1) + (if 3 < start then 7 else 0)
    if ahead < start then
      let (m, d) := monthAndDay (year - 1) (daysInYear (year - 1) - (start - ahead))
      Date.make? (year - 1) m d
    else
      let n := ahead - start
      if n < daysInYear year then
        let (m, d) := monthAndDay year n
        Date.make? year m d
      else
        let (m, d) := monthAndDay (year + 1) (n - daysInYear year)
        Date.make? (year + 1) m d
  else none

end BookCatalog
