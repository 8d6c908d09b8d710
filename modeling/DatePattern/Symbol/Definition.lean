/-
  Symbols: what each one is called, which part of an instant it shows, and how.

  A definition holds two descriptions of the same value: a function of an instant and a locale,
  and the source of an expression with placeholders.  A symbol without a source can be formatted,
  but no program can be emitted for it.

  A value is something to show, so the numbers among the values are those that have a text.
-/
import DatePattern.Expression.Read
import DatePattern.Locale.Context
import DatePattern.Symbol.Name
import DatePattern.Text.Placeholder

namespace DatePattern

open Text

/-- The parts of an instant that a symbol can show. -/
inductive CalendarField where
  | day
  | weekdayInMonth
  | weekday
  | year
  | month
  | hour
  | period
  | minute
  | second
  | fraction
  deriving DecidableEq, Repr

namespace CalendarField

/-- Every part, from the day down to the fraction of a second. -/
def all : List CalendarField :=
  [.day, .weekdayInMonth, .weekday, .year, .month, .hour, .period, .minute, .second, .fraction]

/-- The name of a part. -/
def name : CalendarField → Text
  | .day => "day".toList
  | .weekdayInMonth => "weekday_in_month".toList
  | .weekday => "weekday".toList
  | .year => "year".toList
  | .month => "month".toList
  | .hour => "hour".toList
  | .period => "period".toList
  | .minute => "minute".toList
  | .second => "second".toList
  | .fraction => "fraction".toList

theorem mem_all (f : CalendarField) : f ∈ all := by
  cases f <;> decide

end CalendarField

/-- How many digits a number can have to be written as a text. -/
def maxDigits : Nat := 4300

/-- A number that can be written as a text. -/
def IsWritable (n : Int) : Prop := (ofNat n.natAbs).length ≤ maxDigits

instance (n : Int) : Decidable (IsWritable n) :=
  inferInstanceAs (Decidable ((ofNat n.natAbs).length ≤ maxDigits))

theorem isWritable_of_lt {n : Nat} (h : n < 10000) : IsWritable n :=
  Nat.le_trans (length_ofNat_le h) (by decide)

/-- The value of a symbol. -/
inductive SymbolValue where
  /-- A number with a text; asking a longer one for its text is an error that formatting does not
  catch. -/
  | number (n : Int) (h : IsWritable n)
  | text (t : Text)
  deriving DecidableEq, Repr

namespace SymbolValue

/-- A number as a value, if it has a text. -/
def ofInt? (n : Int) : Option SymbolValue := if h : IsWritable n then some (.number n h) else none

/-- The text of a value. -/
def shown : SymbolValue → Text
  | .number n _ => ofInt n
  | .text t => t

end SymbolValue

/-- A symbol. -/
structure SymbolDefinition where
  name : Text
  /-- The part of an instant that the symbol shows. -/
  field : CalendarField
  description : Text
  /-- The value at an instant in a locale. -/
  evaluate : Instant → LocaleContext → Except FormattingFault SymbolValue
  /-- The same value as an expression with placeholders for the instant and the locale. -/
  source : Option Text
  /-- The lines that make the names known which the expression uses. -/
  imports : List Text := []
  /-- Whether the value depends on the locale. -/
  usesLocale : Bool := false

/-- What can be wrong with the source of a symbol. -/
inductive SourceFault where
  | missing (name : Text)
  | placeholder (fault : PlaceholderFault)
  | notAnExpression
  deriving DecidableEq, Repr

/-- The wording of a fault. -/
def SourceFault.message : SourceFault → Text
  | .missing name => "Symbol ".toList ++ named name ++ " has no source template".toList
  | .placeholder (.unbound name) => quoted name
  | .placeholder (.malformed line column) =>
    "Invalid placeholder in string: line ".toList ++ ofNat line ++ ", col ".toList ++ ofNat column
  | .notAnExpression => "<syntax error>".toList

/-- The name of the instant parameter of emitted functions where none is chosen. -/
def defaultParameter : Text := "date".toList

namespace SymbolDefinition

/-- Whether programs can be emitted for a symbol. -/
def isEmittable (d : SymbolDefinition) : Bool := d.source.isSome

/-- What the placeholders of a source stand for. -/
def bindings (parameter : Text) : List (Text × Text) :=
  [("date".toList, parameter), ("locale".toList, localeParameter)]

/-- The source as an expression in which the instant has the given name. -/
def renderSource (d : SymbolDefinition) (parameter : Text) : Except SourceFault Text :=
  match d.source with
  | none => .error (.missing d.name)
  | some source => (substitute (bindings parameter) source).mapError .placeholder

/-- Check that the source, if there is one, is an expression in the sense given. -/
def checkSource (isExpression : Text → Bool) (d : SymbolDefinition) : Except SourceFault Unit :=
  if d.isEmittable then do
    let expression ← d.renderSource defaultParameter
    if isExpression expression then return () else .error .notAnExpression
  else .ok ()

end SymbolDefinition

end DatePattern
