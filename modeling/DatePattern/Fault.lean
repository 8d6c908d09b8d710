/-
  Everything that an operation of the library can fail with.

  Each cause is described where it arises; `Fault.message` is the wording of any of them.  Faults
  of patterns and symbols speak in the detailed form of their diagnostic.
-/
import DatePattern.Calendar.Given
import DatePattern.Compiler.Config
import DatePattern.Program.Run

namespace DatePattern

open Text

/-- The features that need a locale database. -/
inductive LocaleFeature where
  | contexts
  | unknownLocales
  | names
  | loading
  /-- A feature called by a name of the caller's. -/
  | other (name : Text)
  deriving DecidableEq, Repr

/-- The name of a feature. -/
def LocaleFeature.name : LocaleFeature → Text
  | .contexts => "get_locale_class".toList
  | .unknownLocales => "get_unknown_locale_error".toList
  | .names => "get_babel_dates".toList
  | .loading => "load_program".toList
  | .other name => name

/-- What an operation can fail with. -/
inductive Fault where
  /-- A name was looked up that is not in the table. -/
  | unknownSymbol (symbol : UnknownSymbol)
  /-- A table was refused. -/
  | table (fault : TableFault)
  /-- Settings were refused. -/
  | config (fault : ConfigFault)
  /-- A symbol has no source. -/
  | notEmittable (name : Text)
  /-- A source cannot be written with the name of the instant. -/
  | source (fault : SourceFault)
  /-- A function or an instant cannot have its name in an emitted program. -/
  | functionName (name : Text)
  | parameter (name : Text)
  /-- A value is no instant. -/
  | instant (fault : InstantFault)
  /-- A feature needs a locale database, and there is none. -/
  | noDatabase (feature : LocaleFeature)
  /-- A locale code is empty. -/
  | emptyLocale
  /-- The system tells no locale. -/
  | noSystemLocale
  /-- A locale code leads to no locale. -/
  | locale (refusal : LocaleRefusal)
  /-- A program cannot be loaded. -/
  | program (fault : ProgramFault)
  /-- An emitted function fails. -/
  | eval (fault : EvalFault)
  deriving DecidableEq, Repr

namespace Fault

/-- The fault of an emission. -/
def ofEmit : EmitFault → Fault
  | .functionName name => .functionName name
  | .parameter name => .parameter name
  | .unknown symbol => .unknownSymbol symbol
  | .notEmittable name => .notEmittable name
  | .source fault => .source fault

/-- The fault of loading a program. -/
def ofLoad : LoadFault → Fault
  | .noNames => .noDatabase .loading
  | .program fault => .program fault

/-- The wording of a fault. -/
def message : Fault → Text
  | .unknownSymbol symbol => symbol.diagnostic.describe
  | .table fault => fault.diagnostic.describe
  | .config fault => fault.message
  | .notEmittable name => (Diagnostic.symbolNotEmittable name).describe
  | .source fault => fault.message
  | .functionName name => functionNameMessage name
  | .parameter name => parameterMessage name
  | .instant fault => fault.message
  | .noDatabase feature =>
    feature.name ++ " requires Babel for CLDR locale data. ".toList
      ++ "Install with: pip install dtpattern[babel]".toList
  | .emptyLocale => "Locale code must not be empty".toList
  | .noSystemLocale =>
    "Could not determine system locale. Set LC_ALL, LC_TIME, or LANG environment variable.".toList
  | .locale refusal => refusal.message
  | .program fault => fault.message
  | .eval fault => fault.message

end Fault

end DatePattern
