/-
  Instants: a date, a time of day and perhaps an offset from universal time.

  The numbers carry the proofs that they are in range.  `Instant.written` is the ISO 8601 form:
  the fraction of a second and the seconds of an offset appear only where they are not zero.
-/
import DatePattern.Calendar.Date

namespace DatePattern

/-- A time of day. -/
structure TimeOfDay where
  hour : Nat
  minute : Nat
  second : Nat
  microsecond : Nat
  hour_lt : hour < 24
  minute_lt : minute < 60
  second_lt : second < 60
  microsecond_lt : microsecond < 1000000
  deriving DecidableEq, Repr

namespace TimeOfDay

/-- The beginning of a day. -/
def midnight : TimeOfDay :=
  ⟨0, 0, 0, 0, by decide, by decide, by decide, by decide⟩

/-- The time with the given numbers; the first number out of range is reported. -/
def check (hour minute second microsecond : Nat) : Except CalendarFault TimeOfDay :=
  if hh : hour < 24 then
    if hm : minute < 60 then
      if hs : second < 60 then
        if hu : microsecond < 1000000 then
          .ok ⟨hour, minute, second, microsecond, hh, hm, hs, hu⟩
        else .error .microsecond
      else .error .second
    else .error .minute
  else .error .hour

theorem check_ok (t : TimeOfDay) : check t.hour t.minute t.second t.microsecond = .ok t := by
  simp [check, t.hour_lt, t.minute_lt, t.second_lt, t.microsecond_lt]

/-- A fraction of a second in microseconds, or nothing if it is zero. -/
def writtenFraction (microsecond : Nat) : Text :=
  if microsecond = 0 then [] else '.' :: Text.zeroPadded 6 microsecond

/-- Hours, minutes and seconds with colons between them, and the fraction of a second. -/
def written (t : TimeOfDay) : Text :=
  Text.zeroPadded 2 t.hour ++ ':' :: Text.zeroPadded 2 t.minute ++ ':' :: Text.zeroPadded 2 t.second
    ++ writtenFraction t.microsecond

end TimeOfDay

/-- The number of microseconds in a day. -/
def microsecondsPerDay : Int := 86400000000

/-- An offset from universal time of less than a day, in microseconds. -/
structure Offset where
  microseconds : Int
  lt_day : -microsecondsPerDay < microseconds ∧ microseconds < microsecondsPerDay
  deriving DecidableEq, Repr

namespace Offset

/-- The offset of some microseconds, if it is less than a day. -/
def check (microseconds : Int) : Except CalendarFault Offset :=
  if h : -microsecondsPerDay < microseconds ∧ microseconds < microsecondsPerDay then
    .ok ⟨microseconds, h⟩
  else .error (.offset microseconds)

/-- The sign, hours and minutes, and seconds and their fraction where they are not zero. -/
def written (o : Offset) : Text :=
  let n := o.microseconds.natAbs
  let seconds := n / 1000000 % 60
  let fraction := n % 1000000
  (if o.microseconds < 0 then '-' else '+')
    :: Text.zeroPadded 2 (n / 3600000000) ++ ':' :: Text.zeroPadded 2 (n / 60000000 % 60)
    ++ (if seconds = 0 ∧ fraction = 0 then []
        else ':' :: Text.zeroPadded 2 seconds ++ TimeOfDay.writtenFraction fraction)

end Offset

/-- A length of time in days, seconds and microseconds, of which only the days can be negative;
those that are zero are left out. -/
def writtenDuration (microseconds : Int) : Text :=
  let days := microseconds.fdiv microsecondsPerDay
  let rest := microseconds.fmod microsecondsPerDay
  let part (name : String) (n : Int) : List Text :=
    if n = 0 then [] else [name.toList ++ '=' :: Text.ofInt n]
  let parts :=
    part "days" days ++ part "seconds" (rest / 1000000) ++ part "microseconds" (rest % 1000000)
  "datetime.timedelta(".toList
    ++ (if parts.isEmpty then ['0'] else List.intercalate ", ".toList parts) ++ [')']

/-- The wording of a fault. -/
def CalendarFault.message : CalendarFault → Text
  | .year n => "year ".toList ++ Text.ofNat n ++ " is out of range".toList
  | .month => "month must be in 1..12".toList
  | .day => "day is out of range for month".toList
  | .hour => "hour must be in 0..23".toList
  | .minute => "minute must be in 0..59".toList
  | .second => "second must be in 0..59".toList
  | .microsecond => "microsecond must be in 0..999999".toList
  | .offset n =>
    "offset must be a timedelta strictly between -timedelta(hours=24) and ".toList
      ++ "timedelta(hours=24), not ".toList ++ writtenDuration n ++ ['.']

/-- A moment on the calendar, as its local fields. -/
structure Instant where
  date : Date
  time : TimeOfDay
  offset : Option Offset := none
  deriving DecidableEq, Repr

namespace Instant

/-- The beginning of a day. -/
def ofDate (d : Date) : Instant := ⟨d, .midnight, none⟩

/-- Whether the instant lies in the first half of its day. -/
def isMorning (i : Instant) : Bool := i.time.hour < 12

/-- The ISO 8601 form, with the given separator between date and time. -/
def writtenWith (separator : Char) (i : Instant) : Text :=
  i.date.written ++ separator :: i.time.written ++ ((i.offset.map Offset.written).getD [])

/-- The ISO 8601 form. -/
def written (i : Instant) : Text := i.writtenWith 'T'

end Instant

end DatePattern
