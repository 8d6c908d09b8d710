/-
  Locale codes as callers give them.

  `normalize` trims a code, cuts it at its first point and writes underscores for hyphens, so that
  `de-DE` and `de_DE.UTF-8` name the same locale.  `systemCode` picks a code from what the
  operating system says.
-/
import DatePattern.Text.Fields

namespace DatePattern.LocaleCode

open Text

/-- The code that is used before any other is set, and wherever a code names no locale. -/
def fallback : Text := "en_US".toList

/-- A code in its normal form. -/
def normalize (code : Text) : Text :=
  (upTo '.' (trim code)).map fun c => if c = '-' then '_' else c

/-- Codes of the pseudo-locales, which name no language. -/
def pseudoCodes : List Text := ["C".toList, "POSIX".toList]

/-- Whether a code given by the system is worth using. -/
def isUsable (code : Text) : Bool := !code.isEmpty && !pseudoCodes.contains code

/-- What the operating system says about its locale. -/
structure SystemSettings where
  /-- The locale of the process; none if it has none or it cannot be told. -/
  process : Option Text := none
  /-- The variables `LC_ALL`, `LC_TIME` and `LANG`, where they are set. -/
  all : Option Text := none
  time : Option Text := none
  language : Option Text := none
  deriving DecidableEq, Repr

/-- The sources of a code, the most important first. -/
def SystemSettings.sources (s : SystemSettings) : List (Option Text) :=
  [s.process, s.all, s.time, s.language]

/-- The first usable code of the system, in its normal form. -/
def systemCode? (s : SystemSettings) : Option Text :=
  ((s.sources.filterMap id).find? isUsable).map normalize

/-- The code of the system, or the fallback. -/
def systemCode (s : SystemSettings) : Text := (systemCode? s).getD fallback

end DatePattern.LocaleCode
