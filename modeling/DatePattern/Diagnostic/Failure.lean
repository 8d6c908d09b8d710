/-
  Failures that carry a diagnostic or a plain message.

  A `Cause` is either; its message is the diagnostic in the detailed form, or the plain text.  A
  `FormattingFault` also carries the text that takes the place of the value that failed.
-/
import DatePattern.Diagnostic.Report

namespace DatePattern

/-- What a failure says about itself. -/
inductive Cause where
  | plain (message : Text)
  | diagnosed (diagnostic : Diagnostic)
  deriving DecidableEq, Repr

namespace Cause

/-- The message of a failure. -/
def message : Cause → Text
  | .plain t => t
  | .diagnosed d => d.describe

/-- The diagnostic of a failure, if it carries one. -/
def diagnostic? : Cause → Option Diagnostic
  | .plain _ => none
  | .diagnosed d => some d

end Cause

/-- A value could not be formatted; other text is shown in its place. -/
structure FormattingFault where
  cause : Cause
  /-- The text shown in place of the value. -/
  fallback : Text
  deriving DecidableEq, Repr

/-- The message of a failure to format. -/
def FormattingFault.message (f : FormattingFault) : Text := f.cause.message

end DatePattern
