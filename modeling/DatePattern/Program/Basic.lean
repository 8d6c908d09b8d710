/-
  Emitted programs, as data.

  A program is one function of an instant and a locale: it declares a variable for each symbol and
  returns a template in which the variables are put in.  `statement` and `Template.render` give the
  texts of which the source consists.
-/
import DatePattern.Symbol.Builtin
import DatePattern.Template

namespace DatePattern

open Text

/-- A variable of an emitted function: its name, and its value as an expression. -/
structure Declaration where
  name : Text
  source : Text
  deriving DecidableEq, Repr

/-- The assignment that makes a declaration. -/
def Declaration.statement (d : Declaration) : Text := d.name ++ " = ".toList ++ d.source

/-- The name of emitted functions where none is chosen. -/
def defaultFunctionName : Text := "format_date".toList

/-- An emitted program. -/
structure Program where
  declarations : List Declaration
  /-- What the function returns. -/
  segments : Template
  /-- The lines in front of the function. -/
  imports : List Text
  /-- The locale used where the caller gives none. -/
  locale : Text
  functionName : Text := defaultFunctionName
  /-- The name of the instant. -/
  parameter : Text := defaultParameter
  deriving DecidableEq, Repr

namespace Program

/-- The assignments in order. -/
def statements (p : Program) : List Text := p.declarations.map Declaration.statement

/-- The returned template as it is written, where `printable` says which characters of a literal
stand as themselves. -/
def templateWith (printable : Char → Bool) (p : Program) : Text := p.segments.renderWith printable

/-- The returned template as it is written. -/
def template (p : Program) : Text := p.templateWith isPrintable

/-- The pattern as a reader sees it: texts and symbol names, nothing escaped. -/
def echo (p : Program) : Text := p.segments.echo

/-- The variables that the template puts in, repeats kept. -/
def substitutions (p : Program) : List Text := p.segments.names

/-- Whether the program uses the calendar names of a locale database. -/
def needsNames (p : Program) : Bool := p.imports.contains SymbolDefinition.datesImport

/-- What the function says about itself. -/
def description (p : Program) : Text :=
  "Format a datetime as ``".toList ++ p.echo ++ "``.".toList

/-- The name of the module that the program is loaded as. -/
def moduleName (p : Program) : Text := "dtpattern_generated_".toList ++ p.functionName

end Program

end DatePattern
