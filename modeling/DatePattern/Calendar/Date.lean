/-
  Days of the proleptic Gregorian calendar, years 1 to 9999.

  A date carries the proof that its month and day exist.  `Date.weekday` counts from Monday, and
  `Date.ofIsoWeek?` finds a date by ISO week and day of the week.

  `daysInMonth_pos` and `daysInMonth_le` bound the length of a month;
  `Date.check_ok` says that checking the numbers of a date gives that date back.
-/
import DatePattern.Text.Decimal

namespace DatePattern

/-- What can be wrong with the numbers of a date, a time of day or an offset. -/
inductive CalendarFault where
  | year (year : Nat)
  | month
  | day
  | hour
  | minute
  | second
  | microsecond
  /-- An offset of a day or more, in microseconds. -/
  | offset (microseconds : Int)
  deriving DecidableEq, Repr

/-- Whether a year has a 29th of February. -/
def isLeapYear (year : Nat) : Bool := year % 4 == 0 && (year % 100 != 0 || year % 400 == 0)

/-- The number of days in a year. -/
def daysInYear (year : Nat) : Nat := if isLeapYear year then 366 else 365

/-- The number of days in a month; the months are counted from one. -/
def daysInMonth (year month : Nat) : Nat :=
  if month = 2 then if isLeapYear year then 29 else 28
  else if month = 4 ∨ month = 6 ∨ month = 9 ∨ month = 11 then 30
  else 31

theorem daysInMonth_pos (year month : Nat) : 0 < daysInMonth year month := by
  unfold daysInMonth
  repeat' split
  all_goals omega

theorem daysInMonth_le (year month : Nat) : daysInMonth year month ≤ 31 := by
  unfold daysInMonth
  repeat' split
  all_goals omega

/-- A day of the calendar. -/
structure Date where
  year : Nat
  month : Nat
  day : Nat
  year_mem : 1 ≤ year ∧ year ≤ 9999
  month_mem : 1 ≤ month ∧ month ≤ 12
  day_mem : 1 ≤ day ∧ day ≤ daysInMonth year month
  deriving DecidableEq, Repr

namespace Date

/-- The date with the given numbers; the first number out of range is reported. -/
def check (year month day : Nat) : Except CalendarFault Date :=
  if hy : 1 ≤ year ∧ year ≤ 9999 then
    if hm : 1 ≤ month ∧ month ≤ 12 then
      if hd : 1 ≤ day ∧ day ≤ daysInMonth year month then .ok ⟨year, month, day, hy, hm, hd⟩
      else .error .day
    else .error .month
  else .error (.year year)

theorem check_ok (d : Date) : check d.year d.month d.day = .ok d := by
  simp [check, d.year_mem, d.month_mem, d.day_mem]

/-! ## Days of the week -/

/-- The number of days before a year, counted from the beginning of year 1. -/
def daysBeforeYear (year : Nat) : Nat :=
  let y := year - 1
  y * 365 + y / 4 - y / 100 + y / 400

/-- The number of days of a year before one of its months. -/
def daysBeforeMonth (year month : Nat) : Nat :=
  (List.range (month - 1)).foldl (fun days m => days + daysInMonth year (m + 1)) 0

/-- The number of a day, where the first day of year 1 has number one. -/
def ordinal (year month day : Nat) : Nat :=
  daysBeforeYear year + daysBeforeMonth year month + day

/-- The day of the week of the day with a given number; zero is Monday. -/
def weekdayOfOrdinal (n : Nat) : Fin 7 := ⟨(n + 6) % 7, Nat.mod_lt _ (by decide)⟩

/-- The day of the week; zero is Monday. -/
def weekday (d : Date) : Fin 7 := weekdayOfOrdinal (ordinal d.year d.month d.day)

/-- The place of the month in the year; zero is January. -/
def monthIndex (d : Date) : Fin 12 := ⟨d.month - 1, by have := d.month_mem; omega⟩

/-! ## ISO weeks -/

/-- The day of the week of the first of January. -/
def newYearWeekday (year : Nat) : Fin 7 := weekdayOfOrdinal (ordinal year 1 1)

/-- The number of ISO weeks in a year: 53 if it begins on a Thursday, or on a Wednesday in a leap
year, else 52. -/
def weeksInYear (year : Nat) : Nat :=
  if newYearWeekday year = 3 ∨ (newYearWeekday year = 2 ∧ isLeapYear year) then 53 else 52

/-- The Monday of the first ISO week, as a day of the year; the first of January is day one and
the last of December before it day zero. -/
def firstMonday (year : Nat) : Int :=
  let w : Int := (newYearWeekday year).val
  if 3 < w then 1 + 7 - w else 1 - w

/-- The month and day of a day of the year, counted from one. -/
def monthAndDay (year : Nat) : List Nat → Nat → Nat × Nat
  | [], n => (12, n)
  | month :: later, n =>
    if n ≤ daysInMonth year month then (month, n)
    else monthAndDay year later (n - daysInMonth year month)

/-- The date of a day of the year, where days outside the year belong to the years beside it. -/
def ofDayOfYear (year : Nat) (n : Int) : Except CalendarFault Date :=
  let (year, n) :=
    if n < 1 then (year - 1, n + daysInYear (year - 1))
    else if (daysInYear year : Int) < n then (year + 1, n - daysInYear year)
    else (year, n)
  let (month, day) := monthAndDay year [1, 2, 3, 4, 5, 6, 7, 8, 9, 10, 11, 12] n.toNat
  check year month day

/-- The date of a day in an ISO week; none if the year has no such week or the week no such
day.  The calendar has no months for the weeks of a year 0. -/
def ofIsoWeek? (year week day : Nat) : Option (Except CalendarFault Date) :=
  if 1 ≤ week ∧ week ≤ weeksInYear year ∧ 1 ≤ day ∧ day ≤ 7 then
    if year = 0 then some (.error .month)
    else some (ofDayOfYear year (firstMonday year + 7 * (week - 1) + (day - 1)))
  else none

/-! ## Writing -/

/-- Year, month and day with hyphens between them. -/
def written (d : Date) : Text :=
  Text.zeroPadded 4 d.year ++ '-' :: Text.zeroPadded 2 d.month ++ '-' :: Text.zeroPadded 2 d.day

end Date

end DatePattern
