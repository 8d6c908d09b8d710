/-
  Emitting the program for a token sequence.

  The tokens are taken in order.  A symbol is declared at its first occurrence, under the name by
  which the pattern calls it, and brings those of its import lines along that are not there yet.
  The template holds the tokens themselves, with literal text joined.

  * `imports_addImports`: import lines are added behind those that are there already.
  * `names_ofTokens`: the template puts in each symbol of the tokens.
-/
import DatePattern.Pattern.Token
import DatePattern.Program.Basic
import DatePattern.Symbol.Table

namespace DatePattern

open Text

namespace Template

/-- Put literal text in front, joining it to a literal that comes first. -/
def joinLiteral (t : Text) : Template → Template
  | .literal u :: segments => .literal (t ++ u) :: segments
  | segments => .literal t :: segments

/-- The template of a token sequence: literals that follow each other are one. -/
def ofTokens : List Token → Template
  | [] => []
  | .literal t :: rest => joinLiteral t (ofTokens rest)
  | .symbol name :: rest => .substitution name :: ofTokens rest

theorem names_joinLiteral (t : Text) (segments : Template) :
    names (joinLiteral t segments) = names segments := by
  cases segments with
  | nil => rfl
  | cons s segments => cases s <;> rfl

theorem names_ofTokens (ts : List Token) : names (ofTokens ts) = Token.symbolNames ts := by
  induction ts with
  | nil => rfl
  | cons t ts ih =>
    cases t with
    | literal t =>
      rw [ofTokens, names_joinLiteral, ih]
      rfl
    | symbol name =>
      simp only [names, Token.symbolNames] at ih
      simp [ofTokens, names, Token.symbolNames, ih]

end Template

/-- Why no program can be emitted. -/
inductive EmitFault where
  /-- The function cannot be called that. -/
  | functionName (name : Text)
  /-- The instant cannot be called that. -/
  | parameter (name : Text)
  /-- A token names no symbol of the table. -/
  | unknown (symbol : UnknownSymbol)
  /-- A symbol has no source. -/
  | notEmittable (name : Text)
  /-- The source of a symbol is unusable. -/
  | source (fault : SourceFault)
  deriving DecidableEq, Repr

/-- What a program declares and imports so far. -/
structure Draft where
  declarations : List Declaration := []
  imports : List Text := []
  deriving DecidableEq, Repr

namespace Draft

/-- Whether a symbol has been declared. -/
def declares (d : Draft) (name : Text) : Bool := d.declarations.any fun v => v.name = name

/-- Import lines with those added behind them that they lack. -/
def addImports (imports : List Text) : List Text → List Text
  | [] => imports
  | line :: rest => addImports (if line ∈ imports then imports else imports ++ [line]) rest

theorem imports_addImports (imports lines : List Text) :
    imports <+: addImports imports lines := by
  induction lines generalizing imports with
  | nil => exact List.prefix_rfl
  | cons line rest ih =>
    refine List.IsPrefix.trans ?_ (ih _)
    split
    · exact List.prefix_rfl
    · exact List.prefix_append _ _

/-- The declaration of a symbol and its import lines. -/
def declaration (t : SymbolTable) (parameter name : Text) :
    Except EmitFault (Declaration × List Text) := do
  let d ← (t.get name).mapError .unknown
  if d.isEmittable then
    let source ← (d.renderSource parameter).mapError .source
    return (⟨name, source⟩, d.imports)
  else throw (.notEmittable name)

/-- Declare a symbol, unless it has been declared. -/
def declare (t : SymbolTable) (parameter : Text) (d : Draft) (name : Text) :
    Except EmitFault Draft :=
  if d.declares name then .ok d
  else do
    let (v, lines) ← declaration t parameter name
    return ⟨d.declarations ++ [v], addImports d.imports lines⟩

/-- Add what a token needs. -/
def add (t : SymbolTable) (parameter : Text) (d : Draft) : Token → Except EmitFault Draft
  | .literal _ => .ok d
  | .symbol name => d.declare t parameter name

/-- Add what tokens need, in order. -/
def addAll (t : SymbolTable) (parameter : Text) (d : Draft) : List Token → Except EmitFault Draft
  | [] => .ok d
  | token :: rest => do
    let d ← d.add t parameter token
    d.addAll t parameter rest

end Draft

namespace Program

/-- Whether a function can have a name. -/
def isFunctionName (name : Text) : Bool := isBindableName name && decide (name ≠ datesModule)

/-- Whether an instant can have a name. -/
def isParameterName (name : Text) : Bool :=
  isBindableName name && decide (name ≠ localeParameter ∧ name ≠ datesModule)

/-- Check the names of a function and of its instant, which must not be the name of a symbol. -/
def checkNames (t : SymbolTable) (functionName parameter : Text) : Except EmitFault Unit :=
  if !isFunctionName functionName then .error (.functionName functionName)
  else if !isParameterName parameter || t.contains parameter then .error (.parameter parameter)
  else .ok ()

/-- The program for a token sequence. -/
def emit (t : SymbolTable) (locale functionName parameter : Text) (tokens : List Token) :
    Except EmitFault Program := do
  checkNames t functionName parameter
  let d ← Draft.addAll t parameter {} tokens
  return ⟨d.declarations, .ofTokens tokens, d.imports, locale, functionName, parameter⟩

end Program

end DatePattern
