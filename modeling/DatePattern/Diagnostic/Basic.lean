/-
  Diagnostics: what went wrong, in words, with a code, a hint and the symbol concerned.

  Each kind of problem has one constructor function, so that its wording stands in one place.
  `value_injective` says that no two codes share a number.
-/
import DatePattern.Text.Decimal
import DatePattern.Text.Quotation

namespace DatePattern

open Text

/-- The kinds of problems: symbol tables, formatting and emitting, patterns, locales. -/
inductive DiagnosticCode where
  | symbolNotFound
  | symbolNameInvalid
  | symbolNameDuplicate
  | aliasTargetMissing
  | sourceTemplateInvalid
  | symbolNotEmittable
  | instantInvalid
  | identifierInvalid
  | formattingFailed
  | unexpectedEnd
  | danglingEscape
  | localeUnknown
  deriving DecidableEq, Repr

namespace DiagnosticCode

/-- Every code, by number. -/
def all : List DiagnosticCode :=
  [.symbolNotFound, .symbolNameInvalid, .symbolNameDuplicate, .aliasTargetMissing,
   .sourceTemplateInvalid, .symbolNotEmittable, .instantInvalid, .identifierInvalid,
   .formattingFailed, .unexpectedEnd, .danglingEscape, .localeUnknown]

/-- The name that identifies a code in reports. -/
def name : DiagnosticCode → Text
  | .symbolNotFound => "SYMBOL_NOT_FOUND".toList
  | .symbolNameInvalid => "SYMBOL_NAME_INVALID".toList
  | .symbolNameDuplicate => "SYMBOL_NAME_DUPLICATE".toList
  | .aliasTargetMissing => "ALIAS_TARGET_MISSING".toList
  | .sourceTemplateInvalid => "SOURCE_TEMPLATE_INVALID".toList
  | .symbolNotEmittable => "SYMBOL_NOT_EMITTABLE".toList
  | .instantInvalid => "INSTANT_INVALID".toList
  | .identifierInvalid => "IDENTIFIER_INVALID".toList
  | .formattingFailed => "FORMATTING_FAILED".toList
  | .unexpectedEnd => "UNEXPECTED_EOF".toList
  | .danglingEscape => "DANGLING_ESCAPE".toList
  | .localeUnknown => "LOCALE_UNKNOWN".toList

/-- The number of a code: the thousands tell the area. -/
def value : DiagnosticCode → Nat
  | .symbolNotFound => 1001
  | .symbolNameInvalid => 1002
  | .symbolNameDuplicate => 1003
  | .aliasTargetMissing => 1004
  | .sourceTemplateInvalid => 1005
  | .symbolNotEmittable => 2001
  | .instantInvalid => 2002
  | .identifierInvalid => 2003
  | .formattingFailed => 2004
  | .unexpectedEnd => 3001
  | .danglingEscape => 3002
  | .localeUnknown => 4006

theorem value_injective {a b : DiagnosticCode} (h : a.value = b.value) : a = b := by
  cases a <;> cases b <;> simp_all [value]

theorem mem_all (c : DiagnosticCode) : c ∈ all := by
  cases c <;> decide

end DiagnosticCode

/-- How serious a problem is. -/
inductive Severity where
  | error
  | warning
  /-- A degree of the caller's own. -/
  | other (name : Text)
  deriving DecidableEq, Repr

/-- The name of a severity in reports. -/
def Severity.name : Severity → Text
  | .error => "error".toList
  | .warning => "warning".toList
  | .other name => name

/-- A problem, ready to be reported. -/
structure Diagnostic where
  code : DiagnosticCode
  /-- What went wrong. -/
  message : Text
  /-- What to do about it. -/
  hint : Option Text := none
  /-- The symbol concerned. -/
  symbol : Option Text := none
  severity : Severity := .error
  deriving DecidableEq, Repr

namespace Diagnostic

/-- A symbol is not in the table. -/
def symbolNotFound (name : Text) : Diagnostic where
  code := .symbolNotFound
  message := "Symbol ".toList ++ named name ++ " is not defined".toList
  hint := some "Use one of the documented symbols or escape the letter with a backslash".toList
  symbol := some name

/-- A name cannot be a symbol name. -/
def symbolNameInvalid (name reason : Text) : Diagnostic where
  code := .symbolNameInvalid
  message := "Invalid symbol name ".toList ++ named name ++ ": ".toList ++ reason
  hint := some "Symbol names are non-empty runs of ASCII letters".toList
  symbol := some name

/-- A name is given twice in a table, as a symbol or as an alias. -/
def symbolNameDuplicate (name : Text) : Diagnostic where
  code := .symbolNameDuplicate
  message := "Symbol ".toList ++ named name ++ " is defined more than once".toList
  symbol := some name

/-- An alias leads to no symbol. -/
def aliasTargetMissing (name target : Text) : Diagnostic where
  code := .aliasTargetMissing
  message := "Alias ".toList ++ named name ++ " refers to unknown symbol ".toList ++ named target
  hint := some "Define the target symbol before aliasing it".toList
  symbol := some name

/-- A source template is no expression. -/
def sourceTemplateInvalid (name detail : Text) : Diagnostic where
  code := .sourceTemplateInvalid
  message :=
    "Source template for symbol ".toList ++ named name ++ " is not a valid expression: ".toList
      ++ detail
  hint := some "Templates are Python expressions over $date and $locale".toList
  symbol := some name

/-- A symbol has no source template. -/
def symbolNotEmittable (name : Text) : Diagnostic where
  code := .symbolNotEmittable
  message :=
    "Symbol ".toList ++ named name ++ " has no source template and cannot be emitted".toList
  hint := some "Give the SymbolDefinition a source template".toList
  symbol := some name

/-- A value of some type is no instant. -/
def instantInvalid (typeName : Text) : Diagnostic where
  code := .instantInvalid
  message := "Expected datetime, date or ISO 8601 string, got ".toList ++ typeName

/-- A name cannot be bound in emitted code. -/
def identifierInvalid (kind value : Text) : Diagnostic where
  code := .identifierInvalid
  message := "Invalid ".toList ++ kind ++ ' ' :: named value ++ " for emitted code".toList
  hint := some "Use a Python identifier that is not a keyword or symbol name".toList

/-- A symbol could not be formatted. -/
def formattingFailed (name detail : Text) : Diagnostic where
  code := .formattingFailed
  message := "Formatting symbol ".toList ++ named name ++ " failed: ".toList ++ detail
  symbol := some name

/-- A pattern ended too early. -/
def unexpectedEnd (position : Int) : Diagnostic where
  code := .unexpectedEnd
  message := "Unexpected EOF at position ".toList ++ ofInt position

/-- A pattern ends in an escape, which is kept as text. -/
def danglingEscape (position : Int) : Diagnostic where
  code := .danglingEscape
  message :=
    "Trailing escape at position ".toList ++ ofInt position ++ " kept as literal backslash".toList
  severity := .warning

/-- A locale code names no locale. -/
def localeUnknown (code : Text) : Diagnostic where
  code := .localeUnknown
  message := "Unknown locale identifier ".toList ++ named code
  hint := some "Use a BCP 47 or POSIX locale code such as 'en-US' or 'de_DE'".toList

end Diagnostic

end DatePattern
