/-
  Evaluating expressions.

  Operands are evaluated from the left, and only the chosen side of a choice is evaluated; the
  first fault ends the evaluation.  A name means what the scope binds it to, or else a built-in
  function.  One of these, `dir`, looks at the whole scope in which it is called, so the value of an
  expression can depend on more than what its names stand for.
-/
import DatePattern.Expression.Basic
import DatePattern.Expression.Value
import DatePattern.Symbol.Name
import DatePattern.Text.Order

namespace DatePattern

open Text

/-- The names that an expression can use, the innermost first. -/
abbrev Scope := List (Text × Value)

/-- The built-in functions that expressions call, by name. -/
def Callable.builtin? (x : Text) : Option Callable :=
  if x = "str".toList then some .str
  else if x = "len".toList then some .len
  else if x = "dir".toList then some .dir
  else none

/-- The value of a name. -/
def Scope.find (s : Scope) (x : Text) : Except EvalFault Value :=
  match s.lookup x with
  | some v => .ok v
  | none =>
    match Callable.builtin? x with
    | some f => .ok (.callable f)
    | none => .error (.unbound x)

/-- The names of the variables in a scope, by code point.  The module with the calendar names is
imported outside of the function and is none of them. -/
def Scope.variables (s : Scope) : List Text :=
  let isVariable : Text × Value → Bool
    | (x, .calendar _) => x ≠ datesModule
    | _ => true
  sort (distinct ((s.filter isVariable).map Prod.fst))

/-! ## Attributes -/

/-- The attributes of an instant. -/
def Instant.attribute? (i : Instant) (x : Text) : Option Value :=
  if x = "day".toList then some (.number i.date.day)
  else if x = "month".toList then some (.number i.date.month)
  else if x = "year".toList then some (.number i.date.year)
  else if x = "hour".toList then some (.number i.time.hour)
  else if x = "minute".toList then some (.number i.time.minute)
  else if x = "second".toList then some (.number i.time.second)
  else if x = "microsecond".toList then some (.number i.time.microsecond)
  else if x = "weekday".toList then some (.callable (.weekday i))
  else none

/-- The name under which the names of some kind can be asked for. -/
def LocaleContext.NameKind.getter : LocaleContext.NameKind → Text
  | .weekday => "get_day_names".toList
  | .month => "get_month_names".toList
  | .period => "get_period_names".toList

/-- The attribute of a value. -/
def Value.attribute (v : Value) (x : Text) : Except EvalFault Value :=
  let found : Option Value :=
    match v with
    | .instant i => i.attribute? x
    | .calendar db =>
      ([.weekday, .month, .period].find? fun kind => LocaleContext.NameKind.getter kind = x).map
        fun kind => .callable (.names kind db)
    | .mapping entries => if x = "get".toList then some (.callable (.get entries)) else none
    | _ => none
  match found with
  | some w => .ok w
  | none => .error (.noAttribute v.typeName x)

/-! ## Calls -/

/-- The arguments of a call, by name where a name is given. -/
abbrev Arguments := List (Option Text × Value)

/-- The argument with a name, or else the one at a place. -/
def Arguments.find? (as : Arguments) (place : Nat) (label : Text) : Option Value :=
  match as.lookup (some label) with
  | some v => some v
  | none => ((as.filter fun a => a.1.isNone)[place]?).map Prod.snd

/-- The locale that an argument names; the English one if none is named. -/
def LocaleDatabase.choose (db : LocaleDatabase) : Option Value → Except EvalFault Locale
  | none => .ok db.english
  | some (.atom .nothing) => .ok db.english
  | some (.atom (.text code)) =>
    if code.isEmpty then .ok db.english
    else
      match db.locate code with
      | .ok l => .ok l
      | .error fault => .error (.locale fault)
  | some _ => .error .misused

/-- The names of some kind as a dictionary, if they come in a width with the given name: days by
their number from zero, months by their number from one, and the halves of the day by key. -/
def Locale.entries? (l : Locale) (kind : LocaleContext.NameKind) (width : Text) :
    Option (List (Atom × Atom)) :=
  match kind with
  | .weekday =>
    (DayWidth.ofName? width).map fun w =>
      (List.finRange 7).map fun d => (.number d.val, .text (l.names.weekday w d))
  | .month =>
    (Width.ofName? width).map fun w =>
      (List.finRange 12).map fun m => (.number (m.val + 1), .text (l.names.month w m))
  | .period =>
    (Width.ofName? width).map fun w =>
      [DayPeriod.am, .pm].filterMap fun p =>
        (l.names.period w p).map fun t => (.text p.key, .text t)

/-- The name of a width that an argument holds; that of the wide one if there is none. -/
def chooseWidth : Option Value → Except EvalFault Text
  | none => .ok Width.wide.name
  | some (.atom (.text t)) => .ok t
  | some _ => .error .misused

/-- The value of a call that stands in a scope. -/
def Callable.apply (s : Scope) (as : Arguments) : Callable → Except EvalFault Value
  | .str =>
    match as with
    | [(none, v)] => .text <$> v.shown
    | _ => .error .misused
  | .len =>
    match as with
    | [(none, v)] => (fun n : Nat => .number n) <$> v.length
    | _ => .error .misused
  | .dir =>
    match as with
    | [] => .ok (.list (s.variables.map .text))
    | _ => .error .misused
  | .weekday i => if as.isEmpty then .ok (.number i.date.weekday.val) else .error .misused
  | .names kind db => do
    let l ← db.choose (as.find? 2 "locale".toList)
    let w ← chooseWidth (as.find? 0 "width".toList)
    match l.entries? kind w with
    | some entries => return .mapping entries
    | none => .error (.missingKey (.text w))
  | .get entries =>
    match as with
    | [(none, .atom key), (none, .atom other)] => .ok (.atom ((entries.lookup key).getD other))
    | _ => .error .misused

/-- The value of calling a value in a scope. -/
def Value.call (s : Scope) (v : Value) (as : Arguments) : Except EvalFault Value :=
  match v with
  | .callable f => f.apply s as
  | _ => .error (.notCallable v.typeName)

/-! ## Operations -/

/-- The value under a key. -/
def Value.subscript (v key : Value) : Except EvalFault Value :=
  match v, key with
  | .mapping entries, .atom k =>
    match entries.lookup k with
    | some a => .ok (.atom a)
    | none => .error (.missingKey k)
  | _, _ => .error .misused

/-- The value of an operator. -/
def Operator.apply : Operator → Value → Value → Except EvalFault Value
  | .add, .atom (.number m), .atom (.number n) => .ok (.number (m + n))
  | .add, .atom (.text s), .atom (.text t) => .ok (.text (s ++ t))
  | .sub, .atom (.number m), .atom (.number n) => .ok (.number (m - n))
  | .mod, .atom (.number m), .atom (.number n) =>
    if n = 0 then .error .divisionByZero else .ok (.number (m.fmod n))
  | .floorDiv, .atom (.number m), .atom (.number n) =>
    if n = 0 then .error .divisionByZero else .ok (.number (m.fdiv n))
  | .less, .atom (.number m), .atom (.number n) => .ok (.atom (.truth (m < n)))
  | .isIn, .atom a, .sequence elements => .ok (.atom (.truth (elements.contains a)))
  | .isIn, .atom a, .list elements => .ok (.atom (.truth (elements.contains a)))
  | _, _, _ => .error .misused

/-- The first characters of a text. -/
def Value.leading (v : Value) (count : Nat) : Except EvalFault Value :=
  match v with
  | .atom (.text t) => .ok (.text (t.take count))
  | _ => .error .misused

/-- A number filled with zeros up to a width. -/
def Value.padded (v : Value) (width : Nat) : Except EvalFault Value :=
  match v with
  | .atom (.number n) => .ok (.text (zeroPaddedInt width n))
  | _ => .error .misused

/-! ## Evaluation -/

namespace Expr

mutual

/-- The value of an expression. -/
def eval (s : Scope) : Expr → Except EvalFault Value
  | .number n => .ok (.number n)
  | .text t => .ok (.text t)
  | .name x => s.find x
  | .attribute e x => do
    let v ← eval s e
    v.attribute x
  | .call f arguments => do
    let v ← eval s f
    let as ← evalArguments s arguments
    v.call s as
  | .index e key => do
    let v ← eval s e
    let k ← eval s key
    v.subscript k
  | .leading e count => do
    let v ← eval s e
    v.leading count
  | .binary op a b => do
    let v ← eval s a
    let w ← eval s b
    op.apply v w
  | .orElse a b => do
    let v ← eval s a
    if v.isTrue then return v else eval s b
  | .conditional test yes no => do
    let v ← eval s test
    if v.isTrue then eval s yes else eval s no
  | .tuple elements => do
    let as ← evalElements s elements
    return .sequence as
  | .dictionary entries => do
    let as ← evalEntries s entries
    return .mapping as
  | .joined parts => do
    let t ← evalParts s parts
    return .text t
  | .padded e width => do
    let v ← eval s e
    v.padded width

/-- The values of arguments. -/
def evalArguments (s : Scope) : List (Option Text × Expr) → Except EvalFault Arguments
  | [] => .ok []
  | (label, e) :: rest => do
    let v ← eval s e
    let vs ← evalArguments s rest
    return (label, v) :: vs

/-- The values of elements. -/
def evalElements (s : Scope) : List Expr → Except EvalFault (List Atom)
  | [] => .ok []
  | e :: rest => do
    let v ← eval s e
    let a ← v.toAtom
    let as ← evalElements s rest
    return a :: as

/-- The keys and values of entries. -/
def evalEntries (s : Scope) : List (Nat × Expr) → Except EvalFault (List (Atom × Atom))
  | [] => .ok []
  | (n, e) :: rest => do
    let v ← eval s e
    let a ← v.toAtom
    let as ← evalEntries s rest
    return (.number n, a) :: as

/-- The texts of parts, one after the other. -/
def evalParts (s : Scope) : List Expr → Except EvalFault Text
  | [] => .ok []
  | e :: rest => do
    let v ← eval s e
    let t ← v.shown
    let ts ← evalParts s rest
    return t ++ ts

end

end Expr

end DatePattern
