/-
  Locale contexts: a locale together with the code it was asked for by.

  A context is made leniently, with the fallback locale where the code leads to none, or strictly,
  where such a code is refused.  Names are looked up by width; the look-up fails for an unknown
  width, and where the locale has no such name, and leaves an English name to show instead.

  * `lenient_isFallback_iff`: the fallback is used exactly where the strict way refuses, and then
    the context is one of that locale (`locale_lenient_of_refused`).
  * `lenient_of_strict`: otherwise both ways give the same context.
-/
import DatePattern.Calendar.Instant
import DatePattern.Diagnostic.Failure
import DatePattern.Locale.Database

namespace DatePattern

open Text

/-- A locale, and the code it was asked for by. -/
structure LocaleContext where
  /-- The code as given by the caller. -/
  code : Text
  locale : Locale
  /-- Whether the code led to no locale. -/
  isFallback : Bool := false

/-- A code was refused because it leads to no locale. -/
structure LocaleRefusal where
  code : Text
  fault : LocaleFault
  deriving DecidableEq, Repr

/-- The wording of a refusal. -/
def LocaleRefusal.message (r : LocaleRefusal) : Text :=
  (match r.fault with
    | .unknown _ => (Diagnostic.localeUnknown r.code).message
    | .malformed _ => "Invalid locale format ".toList ++ named r.code)
  ++ ": ".toList ++ r.fault.message

namespace LocaleContext

/-- The context of a code, with the fallback locale if the code leads to none. -/
def lenient (db : LocaleDatabase) (code : Text) : LocaleContext :=
  match db.locate (LocaleCode.normalize code) with
  | .ok l => { code, locale := l }
  | .error _ => { code, locale := db.english, isFallback := true }

/-- The context of a code that leads to a locale. -/
def strict (db : LocaleDatabase) (code : Text) : Except LocaleRefusal LocaleContext :=
  match db.locate (LocaleCode.normalize code) with
  | .ok l => .ok { code, locale := l }
  | .error fault => .error { code, fault }

theorem lenient_code (db : LocaleDatabase) (code : Text) : (lenient db code).code = code := by
  unfold lenient
  split <;> rfl

theorem lenient_of_strict {db : LocaleDatabase} {code : Text} {x : LocaleContext}
    (h : strict db code = .ok x) : lenient db code = x := by
  unfold strict at h
  unfold lenient
  split at h
  · exact Except.ok.inj h
  · cases h

theorem lenient_isFallback_iff {db : LocaleDatabase} {code : Text} :
    (lenient db code).isFallback = true ↔ ∃ r, strict db code = .error r := by
  unfold lenient strict
  cases db.locate (LocaleCode.normalize code) <;> simp

theorem locale_lenient_of_refused {db : LocaleDatabase} {code : Text} {r : LocaleRefusal}
    (h : strict db code = .error r) : (lenient db code).locale = db.english := by
  unfold strict at h
  unfold lenient
  split at h
  · cases h
  · rfl

/-- The identifier of the locale in effect. -/
def identifier (x : LocaleContext) : Text := x.locale.identifier

/-! ## Names -/

/-- The English names of the days, shown where a lookup fails. -/
def englishWeekdays : List Text :=
  ["Monday".toList, "Tuesday".toList, "Wednesday".toList, "Thursday".toList, "Friday".toList,
   "Saturday".toList, "Sunday".toList]

/-- The English names of the months, shown where a lookup fails. -/
def englishMonths : List Text :=
  ["January".toList, "February".toList, "March".toList, "April".toList, "May".toList,
   "June".toList, "July".toList, "August".toList, "September".toList, "October".toList,
   "November".toList, "December".toList]

/-- The English name of a half of the day, shown where a lookup fails. -/
def englishPeriod : DayPeriod → Text
  | .am => "AM".toList
  | .pm => "PM".toList

/-- The half of the day that an instant lies in. -/
def dayPeriod (i : Instant) : DayPeriod := if i.isMorning then .am else .pm

/-- The kinds of names. -/
inductive NameKind where
  | weekday
  | month
  | period
  deriving DecidableEq, Repr

/-- The word for a kind of names. -/
def NameKind.word : NameKind → Text
  | .weekday => "weekday".toList
  | .month => "month".toList
  | .period => "period".toList

/-- What is reported when a name of some kind and width is not found for want of an entry under a
key. -/
def missingName (kind : NameKind) (width key fallback : Text) : FormattingFault where
  cause := .diagnosed (.formattingFailed (kind.word ++ ':' :: width) (quoted key))
  fallback := fallback

/-- The name of the day of an instant. -/
def weekdayName (x : LocaleContext) (i : Instant) (width : Text) : Except FormattingFault Text :=
  match DayWidth.ofName? width with
  | some w => .ok (x.locale.names.weekday w i.date.weekday)
  | none =>
    .error (missingName .weekday width width (englishWeekdays.getD i.date.weekday.val []))

/-- The name of the month of an instant. -/
def monthName (x : LocaleContext) (i : Instant) (width : Text) : Except FormattingFault Text :=
  match Width.ofName? width with
  | some w => .ok (x.locale.names.month w i.date.monthIndex)
  | none =>
    .error (missingName .month width width (englishMonths.getD i.date.monthIndex.val []))

/-- The name of the half of the day of an instant. -/
def periodName (x : LocaleContext) (i : Instant) (width : Text) : Except FormattingFault Text :=
  let half := dayPeriod i
  match Width.ofName? width with
  | some w =>
    match x.locale.names.period w half with
    | some t => .ok t
    | none => .error (missingName .period width half.key (englishPeriod half))
  | none => .error (missingName .period width width (englishPeriod half))

/-- The name of some kind for an instant. -/
def name (x : LocaleContext) (kind : NameKind) (i : Instant) (width : Text) :
    Except FormattingFault Text :=
  match kind with
  | .weekday => x.weekdayName i width
  | .month => x.monthName i width
  | .period => x.periodName i width

theorem weekdayName_of_width (x : LocaleContext) (i : Instant) (w : DayWidth) :
    x.weekdayName i w.name = .ok (x.locale.names.weekday w i.date.weekday) := by
  simp [weekdayName, DayWidth.ofName?_name]

theorem monthName_of_width (x : LocaleContext) (i : Instant) (w : Width) :
    x.monthName i w.name = .ok (x.locale.names.month w i.date.monthIndex) := by
  simp [monthName, Width.ofName?_name]

theorem periodName_of_width {x : LocaleContext} {i : Instant} {w : Width} {t : Text}
    (h : x.locale.names.period w (dayPeriod i) = some t) : x.periodName i w.name = .ok t := by
  simp [periodName, Width.ofName?_name, h]

end LocaleContext

end DatePattern
