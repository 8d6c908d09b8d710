/-
  Values of expressions, and what can go wrong with them.

  Besides numbers and texts there are instants, the calendar names of a locale database, small
  collections, and the functions that expressions can call.  `Value.shown` is the text that a
  formatted string makes of a value.
-/
import DatePattern.Locale.Context

namespace DatePattern

open Text

/-- A value without parts. -/
inductive Atom where
  | number (n : Int)
  | text (t : Text)
  | truth (b : Bool)
  | nothing
  deriving DecidableEq, Repr

/-- A function that an expression can call. -/
inductive Callable where
  /-- The text of a value. -/
  | str
  /-- How many characters or elements a value has. -/
  | len
  /-- The names of the variables that are bound where it is called. -/
  | dir
  /-- The day of the week of an instant, from Monday. -/
  | weekday (i : Instant)
  /-- The names of some kind in a locale. -/
  | names (kind : LocaleContext.NameKind) (db : LocaleDatabase)
  /-- The value under a key of a dictionary, or another one if there is none. -/
  | get (entries : List (Atom × Atom))

/-- The value of an expression. -/
inductive Value where
  | atom (a : Atom)
  | sequence (elements : List Atom)
  | list (elements : List Atom)
  | mapping (entries : List (Atom × Atom))
  | instant (i : Instant)
  /-- The calendar names of a locale database. -/
  | calendar (db : LocaleDatabase)
  | callable (f : Callable)

/-- What can go wrong with an expression. -/
inductive EvalFault where
  /-- A locale code leads to no locale. -/
  | locale (fault : LocaleFault)
  /-- A value of some type has no such attribute. -/
  | noAttribute (typeName x : Text)
  | unbound (x : Text)
  | missingKey (key : Atom)
  | divisionByZero
  /-- A value of some type is called. -/
  | notCallable (typeName : Text)
  /-- A function is called with an argument under a name that it does not know. -/
  | unexpectedArgument (functionName x : Text)
  /-- An operation is used on values that it is not for. -/
  | misused
  deriving DecidableEq, Repr

/-- The text of a value without parts. -/
def Atom.shown : Atom → Text
  | .number n => ofInt n
  | .text t => t
  | .truth true => "True".toList
  | .truth false => "False".toList
  | .nothing => "None".toList

/-- A value without parts as it is written in an expression. -/
def Atom.written : Atom → Text
  | .text t => quoted t
  | a => a.shown

/-- The wording of a fault. -/
def EvalFault.message : EvalFault → Text
  | .locale fault => fault.message
  | .noAttribute typeName x => named typeName ++ " object has no attribute ".toList ++ named x
  | .unbound x => "name ".toList ++ named x ++ " is not defined".toList
  | .missingKey key => key.written
  | .divisionByZero => "integer division or modulo by zero".toList
  | .notCallable typeName => named typeName ++ " object is not callable".toList
  | .unexpectedArgument functionName x =>
    functionName ++ "() got an unexpected keyword argument ".toList ++ named x
  | .misused => "unsupported operand".toList

namespace Value

/-- A number as a value. -/
def number (n : Int) : Value := .atom (.number n)

/-- A text as a value. -/
def text (t : Text) : Value := .atom (.text t)

/-- The absence of a value. -/
def nothing : Value := .atom .nothing

/-- The name of a value's type. -/
def typeName : Value → Text
  | .atom (.number _) => "int".toList
  | .atom (.text _) => "str".toList
  | .atom (.truth _) => "bool".toList
  | .atom .nothing => "NoneType".toList
  | .sequence _ => "tuple".toList
  | .list _ => "list".toList
  | .mapping _ => "dict".toList
  | .instant _ => "datetime.datetime".toList
  | .calendar _ => "module".toList
  | .callable _ => "function".toList

/-- Whether a value counts as true. -/
def isTrue : Value → Bool
  | .atom (.number n) => n != 0
  | .atom (.text t) => !t.isEmpty
  | .atom (.truth b) => b
  | .atom .nothing => false
  | .sequence elements => !elements.isEmpty
  | .list elements => !elements.isEmpty
  | .mapping entries => !entries.isEmpty
  | _ => true

/-- The text that a formatted string makes of a value. -/
def shown : Value → Except EvalFault Text
  | .atom a => .ok a.shown
  | .instant i => .ok (i.writtenWith ' ')
  | _ => .error .misused

/-- A value without parts. -/
def toAtom : Value → Except EvalFault Atom
  | .atom a => .ok a
  | _ => .error .misused

/-- How many characters or elements a value has. -/
def length : Value → Except EvalFault Nat
  | .atom (.text t) => .ok t.length
  | .sequence elements => .ok elements.length
  | .list elements => .ok elements.length
  | .mapping entries => .ok entries.length
  | _ => .error .misused

theorem shown_number (n : Int) : (number n).shown = .ok (ofInt n) := rfl

theorem shown_text (t : Text) : (text t).shown = .ok t := rfl

end Value

end DatePattern
