/-
  The built-in symbols and their aliases.

  Day, weekday, year, month, hour, half of the day, minute, second and milliseconds, each in the
  forms that patterns use.  Aliases are other spellings of a symbol; those that differ in letter
  case only are kept apart, because they are accepted on demand.
-/
import DatePattern.Symbol.Definition

namespace DatePattern

open Text

namespace SymbolDefinition

/-! ## Values -/

/-- The English ending of an ordinal number: 11, 12 and 13 take `th` in every hundred, and else
the last digit decides. -/
def ordinalSuffix (n : Int) : Text :=
  if n % 100 = 11 ∨ n % 100 = 12 ∨ n % 100 = 13 then "th".toList
  else if n % 10 = 1 then "st".toList
  else if n % 10 = 2 then "nd".toList
  else if n % 10 = 3 then "rd".toList
  else "th".toList

/-- The hour on a clock of twelve hours, which begin with twelve. -/
def hourOfHalf (hour : Nat) : Nat := if hour % 12 = 0 then 12 else hour % 12

/-- How often the weekday of a day has come in its month, the day included. -/
def weekdayOccurrence (day : Nat) : Nat := (day - 1) / 7 + 1

/-! ### They are small numbers -/

theorem day_lt (i : Instant) : i.date.day < 10000 := by
  have hday := i.date.day_mem
  have hlast := daysInMonth_le i.date.year i.date.month
  omega

theorem weekdayOccurrence_lt (i : Instant) : weekdayOccurrence i.date.day < 10000 := by
  have hday := day_lt i
  unfold weekdayOccurrence
  omega

theorem month_lt (i : Instant) : i.date.month < 10000 := by
  have hmonth := i.date.month_mem
  omega

theorem year_lt (i : Instant) : i.date.year < 10000 := by
  have hyear := i.date.year_mem
  omega

theorem hourOfHalf_lt (i : Instant) : hourOfHalf i.time.hour < 10000 := by
  unfold hourOfHalf
  split <;> omega

theorem hour_lt (i : Instant) : i.time.hour < 10000 := Nat.lt_trans i.time.hour_lt (by decide)

theorem minute_lt (i : Instant) : i.time.minute < 10000 := Nat.lt_trans i.time.minute_lt (by decide)

theorem second_lt (i : Instant) : i.time.second < 10000 := Nat.lt_trans i.time.second_lt (by decide)

theorem millisecond_lt (i : Instant) : i.time.microsecond / 1000 < 10000 := by
  have hmicrosecond := i.time.microsecond_lt
  omega

/-! ## Shapes of definitions -/

/-- A symbol whose value is a number taken from the instant. -/
def numeric (name : String) (field : CalendarField) (description source : String)
    (value : Instant → Nat) (hvalue : ∀ i, value i < 10000) : SymbolDefinition where
  name := name.toList
  field := field
  description := description.toList
  evaluate i _ := .ok (.number (value i) (isWritable_of_lt (hvalue i)))
  source := some source.toList

/-- A symbol whose value is a text made from the instant alone. -/
def textual (name : String) (field : CalendarField) (description source : String)
    (value : Instant → Text) : SymbolDefinition where
  name := name.toList
  field := field
  description := description.toList
  evaluate i _ := .ok (.text (value i))
  source := some source.toList

/-- The line that makes the module of calendar names known. -/
def datesImport : Text := "from babel import dates".toList

/-- A symbol whose value is made from a name in the locale. -/
def localized (name : String) (field : CalendarField) (description source : String)
    (kind : LocaleContext.NameKind) (width : Width) (cut : Text → Text) : SymbolDefinition where
  name := name.toList
  field := field
  description := description.toList
  evaluate i x := (fun t => .text (cut t)) <$> x.name kind i width.name
  source := some source.toList
  imports := [datesImport]
  usesLocale := true

/-! ## The symbols -/

/-- The built-in symbols in the order of the reference. -/
def builtin : List SymbolDefinition :=
  [numeric "d" .day "Day of month" "$date.day" (fun i => i.date.day) day_lt,
   textual "dd" .day "Day of month, zero-padded to 2 digits" "f\"\x7b$date.day:02d\x7d\""
     fun i => zeroPadded 2 i.date.day,
   textual "ddd" .day "Day of month with English ordinal suffix"
     ("str($date.day) + (\"th\" if $date.day % 100 in (11, 12, 13) "
       ++ "else \x7b1: \"st\", 2: \"nd\", 3: \"rd\"\x7d.get($date.day % 10, \"th\"))")
     fun i => ofNat i.date.day ++ ordinalSuffix i.date.day,
   numeric "F" .weekdayInMonth "Occurrence of the weekday within the month (1-5)"
     "($date.day - 1) // 7 + 1" (fun i => weekdayOccurrence i.date.day) weekdayOccurrence_lt,
   localized "E" .weekday "Abbreviated weekday name"
     "dates.get_day_names(\"abbreviated\", locale=$locale)[$date.weekday()]"
     .weekday .abbreviated id,
   localized "EEEE" .weekday "Full weekday name"
     "dates.get_day_names(\"wide\", locale=$locale)[$date.weekday()]" .weekday .wide id,
   localized "EEEEE" .weekday "Narrow weekday name"
     "dates.get_day_names(\"narrow\", locale=$locale)[$date.weekday()]" .weekday .narrow id,
   localized "EEEEEE" .weekday "First two characters of the full weekday name"
     "dates.get_day_names(\"wide\", locale=$locale)[$date.weekday()][:2]" .weekday .wide
     fun t => t.take 2,
   numeric "y" .year "Year" "$date.year" (fun i => i.date.year) year_lt,
   textual "yy" .year "Year modulo 100, zero-padded to 2 digits"
     "f\"\x7b$date.year % 100:02d\x7d\"" fun i => zeroPadded 2 (i.date.year % 100),
   textual "yyyy" .year "Year, zero-padded to at least 4 digits" "f\"\x7b$date.year:04d\x7d\""
     fun i => zeroPadded 4 i.date.year,
   numeric "M" .month "Month number (1-12)" "$date.month" (fun i => i.date.month) month_lt,
   textual "MM" .month "Month number, zero-padded to 2 digits" "f\"\x7b$date.month:02d\x7d\""
     fun i => zeroPadded 2 i.date.month,
   localized "MMM" .month "Abbreviated month name"
     "dates.get_month_names(\"abbreviated\", locale=$locale)[$date.month]" .month .abbreviated id,
   localized "MMMM" .month "Full month name"
     "dates.get_month_names(\"wide\", locale=$locale)[$date.month]" .month .wide id,
   localized "MMMMM" .month "Narrow month name"
     "dates.get_month_names(\"narrow\", locale=$locale)[$date.month]" .month .narrow id,
   numeric "h" .hour "Hour on a 12-hour clock (1-12)" "$date.hour % 12 or 12"
     (fun i => hourOfHalf i.time.hour) hourOfHalf_lt,
   textual "hh" .hour "Hour on a 12-hour clock, zero-padded to 2 digits"
     "f\"\x7b$date.hour % 12 or 12:02d\x7d\"" fun i => zeroPadded 2 (hourOfHalf i.time.hour),
   numeric "H" .hour "Hour on a 24-hour clock (0-23)" "$date.hour" (fun i => i.time.hour) hour_lt,
   textual "HH" .hour "Hour on a 24-hour clock, zero-padded to 2 digits"
     "f\"\x7b$date.hour:02d\x7d\"" fun i => zeroPadded 2 i.time.hour,
   localized "a" .period "AM/PM marker"
     ("dates.get_period_names(width=\"abbreviated\", context=\"format\", locale=$locale)"
       ++ "[\"am\" if $date.hour < 12 else \"pm\"]")
     .period .abbreviated id,
   numeric "m" .minute "Minute" "$date.minute" (fun i => i.time.minute) minute_lt,
   textual "mm" .minute "Minute, zero-padded to 2 digits" "f\"\x7b$date.minute:02d\x7d\""
     fun i => zeroPadded 2 i.time.minute,
   numeric "s" .second "Second" "$date.second" (fun i => i.time.second) second_lt,
   textual "ss" .second "Second, zero-padded to 2 digits" "f\"\x7b$date.second:02d\x7d\""
     fun i => zeroPadded 2 i.time.second,
   numeric "SSS" .fraction "Milliseconds (0-999)" "$date.microsecond // 1000"
     (fun i => i.time.microsecond / 1000) millisecond_lt]

/-- The built-in symbol with a name. -/
def builtin? (name : Text) : Option SymbolDefinition := builtin.find? fun d => d.name = name

end SymbolDefinition

/-- The built-in aliases with the symbols they stand for. -/
def builtinAliases : List (Text × Text) :=
  [("EE".toList, "E".toList), ("EEE".toList, "E".toList), ("yyy".toList, "yyyy".toList)]

/-- Aliases that accept the other letter case for day, weekday and year. -/
def caseAliases : List (Text × Text) :=
  [("D".toList, "d".toList), ("DD".toList, "dd".toList), ("DDD".toList, "ddd".toList),
   ("e".toList, "E".toList), ("ee".toList, "E".toList), ("eee".toList, "E".toList),
   ("eeee".toList, "EEEE".toList), ("eeeee".toList, "EEEEE".toList),
   ("eeeeee".toList, "EEEEEE".toList), ("Y".toList, "y".toList), ("YY".toList, "yy".toList),
   ("YYY".toList, "yyyy".toList), ("YYYY".toList, "yyyy".toList)]

end DatePattern
