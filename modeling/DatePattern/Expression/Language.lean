/-
  Languages of expressions.

  The sources of symbols are written in some language of expressions.  A table of symbols asks of it
  only which texts are expressions, and a program that is called what their values are.  Here the
  language of calendar fields is one of them (`Expr.language`); what holds of programs whatever
  their sources look like is stated for any.
-/
import DatePattern.Expression.Eval
import DatePattern.Expression.Read

namespace DatePattern

/-- A language of expressions. -/
structure Language (Expression Value Fault : Type) where
  /-- The expression that a text stands for. -/
  read? : Text → Option Expression
  /-- The value of an expression where names are bound to values, the innermost first. -/
  eval : List (Text × Value) → Expression → Except Fault Value
  /-- The text that a value comes to. -/
  shown : Value → Except Fault Text
  /-- An instant, or the absence of one. -/
  instant : Option Instant → Value
  text : Text → Value
  /-- The calendar names of a locale database. -/
  calendar : LocaleDatabase → Value

/-- The language in which calendar fields are written. -/
@[reducible]
def Expr.language : Language Expr Value EvalFault where
  read? := read?
  eval s e := e.eval s
  shown := Value.shown
  instant i := i.elim .nothing .instant
  text := .text
  calendar := .calendar

end DatePattern
