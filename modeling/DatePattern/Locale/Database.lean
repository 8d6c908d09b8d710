/-
  Databases of locales.

  A database knows the locales by their codes.  Looking a code up either finds a locale, or fails
  because the code is malformed or names no locale; every database knows the fallback locale.
-/
import DatePattern.Locale.Code
import DatePattern.Locale.Identifier
import DatePattern.Locale.Names

namespace DatePattern

open Text

/-- Why a code leads to no locale. -/
inductive LocaleFault where
  /-- The code is well formed, but the database has no such locale. -/
  | unknown (identifier : Text)
  /-- The code is no locale identifier. -/
  | malformed (reason : MalformedLocale)
  deriving DecidableEq, Repr

/-- The wording of a fault. -/
def LocaleFault.message : LocaleFault → Text
  | .unknown identifier => "unknown locale ".toList ++ quoted identifier
  | .malformed reason => reason.message

/-- A database of locales. -/
structure LocaleDatabase where
  /-- The locale that a code names. -/
  locate : Text → Except LocaleFault Locale
  /-- The locale used where a code leads to none. -/
  english : Locale
  /-- The fallback code names that locale. -/
  locate_fallback : locate LocaleCode.fallback = .ok english

end DatePattern
