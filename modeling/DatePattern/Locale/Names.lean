/-
  The names of days, months and halves of the day in a locale, in three widths.

  Days have a fourth width, and a locale may leave halves of the day without a name in some width.

  * `Width.ofName?_name`, `DayWidth.ofName?_name`: every width is found by its name.
-/
import DatePattern.Text.CodePoints

namespace DatePattern

/-- How much room a name may take. -/
inductive Width where
  | abbreviated
  | wide
  | narrow
  deriving DecidableEq, Repr

/-- The name of a width. -/
def Width.name : Width → Text
  | .abbreviated => "abbreviated".toList
  | .wide => "wide".toList
  | .narrow => "narrow".toList

/-- The width with a given name. -/
def Width.ofName? (t : Text) : Option Width :=
  if t = Width.abbreviated.name then some .abbreviated
  else if t = Width.wide.name then some .wide
  else if t = Width.narrow.name then some .narrow
  else none

theorem Width.ofName?_name (w : Width) : Width.ofName? w.name = some w := by
  cases w <;> decide

/-- How much room the name of a day may take. -/
inductive DayWidth where
  /-- A width that all names have. -/
  | common (w : Width)
  /-- A width for days alone. -/
  | short
  deriving DecidableEq, Repr

/-- The name of a width for days. -/
def DayWidth.name : DayWidth → Text
  | .common w => w.name
  | .short => "short".toList

/-- The width for days with a given name. -/
def DayWidth.ofName? (t : Text) : Option DayWidth :=
  if t = DayWidth.short.name then some .short else (Width.ofName? t).map .common

theorem DayWidth.ofName?_name (w : DayWidth) : DayWidth.ofName? w.name = some w := by
  cases w with
  | common w => cases w <;> decide
  | short => decide

/-- The halves of a day. -/
inductive DayPeriod where
  | am
  | pm
  deriving DecidableEq, Repr

/-- The key of a half of the day. -/
def DayPeriod.key : DayPeriod → Text
  | .am => "am".toList
  | .pm => "pm".toList

/-- The names of one locale; days count from Monday and months from January, both from zero. -/
structure CalendarNames where
  weekday : DayWidth → Fin 7 → Text
  month : Width → Fin 12 → Text
  /-- The name of a half of the day, if it has one. -/
  period : Width → DayPeriod → Option Text

/-- A locale: the identifier it is known by, and its names. -/
structure Locale where
  identifier : Text
  names : CalendarNames

end DatePattern
