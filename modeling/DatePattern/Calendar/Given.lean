/-
  Instants as callers give them: as an instant, as a date, or as text in the ISO 8601 form.

  A date means its beginning.  Values of any other type are refused by the name of their type.
-/
import DatePattern.Calendar.Iso
import DatePattern.Diagnostic.Basic

namespace DatePattern

/-- What a caller gives as an instant. -/
inductive GivenInstant where
  | instant (i : Instant)
  | date (d : Date)
  | text (t : Text)
  /-- A value of a type that is no instant. -/
  | other (typeName : Text)
  deriving DecidableEq, Repr

/-- Why what was given is no instant. -/
inductive InstantFault where
  | wrongType (typeName : Text)
  | unreadable (fault : Iso.Fault)
  deriving DecidableEq, Repr

/-- The wording of a fault. -/
def InstantFault.message : InstantFault → Text
  | .wrongType typeName => (Diagnostic.instantInvalid typeName).message
  | .unreadable fault => fault.message

/-- The instant that was given. -/
def GivenInstant.toInstant : GivenInstant → Except InstantFault Instant
  | .instant i => .ok i
  | .date d => .ok (.ofDate d)
  | .text t => (Iso.read t).mapError .unreadable
  | .other typeName => .error (.wrongType typeName)

theorem GivenInstant.toInstant_instant (i : Instant) : (instant i).toInstant = .ok i := rfl

theorem GivenInstant.toInstant_date (d : Date) : (date d).toInstant = .ok (.ofDate d) := rfl

end DatePattern
