/-
  Running emitted programs.

  Loading reads every declaration and the returned template as expressions, and checks the names of
  the function and of the instant, which are known by their normal forms.  A call binds the
  instant, the locale and, if the program imports them, the calendar names; evaluates the
  declarations in order, each of which sees those before it; and returns the text of the template.
  What a call does with its variables is the same in every language of expressions.

  * `Program.checkBound_eq_ok_iff`: which names can be bound.
-/
import DatePattern.Expression.Language
import DatePattern.Program.Source

namespace DatePattern

open Text

/-! ## Running -/

/-- What a program does, in some language of expressions. -/
structure Program.Body (Expression : Type) where
  /-- The variables in order, each with the expression for its value. -/
  bindings : List (Text × Expression)
  /-- The template that is returned. -/
  result : Expression

namespace Language

variable {Expression Value Fault : Type} (L : Language Expression Value Fault)

/-- What is bound when a call begins: the instant, the locale and the calendar names, if there are
any. -/
def start (parameter : Text) (instant : Option Instant) (locale : Text)
    (names : Option LocaleDatabase) : List (Text × Value) :=
  (parameter, L.instant instant) :: (localeParameter, L.text locale)
    :: (names.map fun db => (datesModule, L.calendar db)).toList

/-- The scope behind further variables. -/
def assign (s : List (Text × Value)) :
    List (Text × Expression) → Except Fault (List (Text × Value))
  | [] => .ok s
  | (x, e) :: rest => do
    let v ← L.eval s e
    assign ((x, v) :: s) rest

/-- The text that is returned where a scope is bound. -/
def run (s : List (Text × Value)) (b : Program.Body Expression) : Except Fault Text := do
  let s ← L.assign s b.bindings
  let v ← L.eval s b.result
  L.shown v

/-- A declaration as a variable and an expression. -/
def binding? (d : Declaration) : Option (Text × Expression) :=
  (L.read? d.source).map fun e => (d.name, e)

end Language

/-- A program as it is read in a language of expressions. -/
def Program.body? {Expression Value Fault : Type} (p : Program)
    (L : Language Expression Value Fault) : Option (Program.Body Expression) := do
  let bindings ← p.declarations.mapM L.binding?
  let result ← L.read? ("f\"".toList ++ p.template ++ "\"".toList)
  return { bindings, result }

/-! ## Loading -/

/-- What can be wrong with a program as a whole. -/
inductive ProgramFault where
  /-- Some part of the program is no expression. -/
  | notAnExpression
  /-- The name of the instant is that of the locale, in a function whose head stands on a line. -/
  | repeatedParameter (functionName : Text) (line : Nat)
  /-- A name is bound that cannot be bound, in a function whose head stands on a line. -/
  | constantBound (functionName : Text) (line : Nat)
  /-- The function is not known by its name as it is written. -/
  | unknownFunction (functionName : Text)
  deriving DecidableEq, Repr

/-- Why a program cannot be loaded. -/
inductive LoadFault where
  /-- The program uses calendar names, but there is no locale database. -/
  | noNames
  | program (fault : ProgramFault)
  deriving DecidableEq, Repr

/-- The one name that can be used, but not bound. -/
def constantName : Text := "__debug__".toList

/-- Where a fault is: on a line of the program of a function. -/
def ProgramFault.place (functionName : Text) (line : Nat) : Text :=
  " (<dtpattern ".toList ++ functionName ++ ">, line ".toList ++ ofNat line ++ ")".toList

/-- The wording of a fault. -/
def ProgramFault.message : ProgramFault → Text
  | .notAnExpression => "<syntax error>".toList
  | .repeatedParameter functionName line =>
    "duplicate argument ".toList ++ named localeParameter ++ " in function definition".toList
      ++ place functionName line
  | .constantBound functionName line =>
    "cannot assign to ".toList ++ constantName ++ place functionName line
  | .unknownFunction functionName => quoted functionName

/-- A function that has been loaded from a program. -/
structure LoadedFunction extends Program.Body Expr where
  name : Text
  /-- The name of the instant, in normal form. -/
  parameter : Text
  locale : Text
  /-- The calendar names, if the program imports them. -/
  names : Option LocaleDatabase

namespace LoadedFunction

/-- The names known at the beginning of a call. -/
def scope (f : LoadedFunction) (instant : Option Instant) (locale : Text) : Scope :=
  Expr.language.start f.parameter instant locale f.names

/-- Check the name under which the instant is given, if it is given by name. -/
def checkLabel (f : LoadedFunction) : Option Text → Except EvalFault Unit
  | none => .ok ()
  | some x => if x = f.parameter then .ok () else .error (.unexpectedArgument f.name x)

/-- The text that the function returns for an instant, or for none, in a locale.  The instant may
be given by name. -/
def call (f : LoadedFunction) (instant : Option Instant) (locale : Option Text)
    (label : Option Text := none) : Except EvalFault Text := do
  f.checkLabel label
  Expr.language.run (f.scope instant (locale.getD f.locale)) f.toBody

end LoadedFunction

namespace Program

/-- The name under which the instant is bound. -/
def boundParameter (p : Program) : Text := normalized p.parameter

/-- Check the names that a program binds, in normal form. -/
def checkBound (p : Program) : Except ProgramFault Unit :=
  if p.boundParameter = localeParameter then
    .error (.repeatedParameter p.functionName p.headLineNumber)
  else if normalized p.functionName = constantName ∨ p.boundParameter = constantName then
    .error (.constantBound p.functionName p.headLineNumber)
  else if normalized p.functionName ≠ p.functionName then .error (.unknownFunction p.functionName)
  else .ok ()

/-- The function of a program that does the given. -/
def function (p : Program) (db? : Option LocaleDatabase) (b : Body Expr) : LoadedFunction where
  toBody := b
  name := p.functionName
  parameter := p.boundParameter
  locale := p.locale
  names := if p.needsNames then db? else none

/-- The function that a program describes. -/
def load (p : Program) (db? : Option LocaleDatabase) : Except LoadFault LoadedFunction :=
  if p.needsNames && db?.isNone then .error .noNames
  else
    match p.body? Expr.language with
    | some b => do
      p.checkBound.mapError .program
      return p.function db? b
    | none => .error (.program .notAnExpression)

theorem checkBound_eq_ok_iff {p : Program} : p.checkBound = .ok () ↔
    p.boundParameter ≠ localeParameter ∧
      (normalized p.functionName ≠ constantName ∧ p.boundParameter ≠ constantName) ∧
      normalized p.functionName = p.functionName := by
  unfold checkBound
  by_cases hlocale : p.boundParameter = localeParameter
  · simp [hlocale]
  by_cases hconstant : normalized p.functionName = constantName ∨ p.boundParameter = constantName
  · simp only [if_neg hlocale, if_pos hconstant, reduceCtorEq, false_iff]
    rintro ⟨-, hne, -⟩
    exact hconstant.elim hne.1 hne.2
  by_cases hname : normalized p.functionName = p.functionName
  · simp [hlocale, hname, not_or.mp (hname ▸ hconstant)]
  · simp [hlocale, hconstant, hname]

end Program

end DatePattern
