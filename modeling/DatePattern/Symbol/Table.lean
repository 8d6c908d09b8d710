/-
  Symbol tables: the symbols that a pattern can use, and other names for them.

  `SymbolTable.build` checks definitions and aliases and follows chains of aliases to the symbols
  at their ends; it reports the first problem.  A table is looked up by either kind of name.

  * `lookup_leap`: building a table leads all aliases along their chains in steps that double.
  * `lookup?_of_alias`: an alias yields the definition of its symbol.
  * `name_of_definition?`: a symbol is found under its own name.
-/
import DatePattern.Symbol.Builtin
import DatePattern.Text.Order

namespace DatePattern

open Text

/-- Why a table is refused. -/
inductive TableFault where
  /-- A symbol or alias has an unusable name. -/
  | badName (name : Text) (problem : NameProblem)
  /-- A name is given twice. -/
  | duplicate (name : Text)
  /-- An alias leads to something that is neither a symbol nor an alias not passed yet. -/
  | badTarget (name target : Text)
  /-- A symbol has an unusable source. -/
  | badSource (name : Text) (fault : SourceFault)
  deriving DecidableEq, Repr

/-- The diagnostic of a fault. -/
def TableFault.diagnostic : TableFault → Diagnostic
  | .badName name problem => .symbolNameInvalid name problem.message
  | .duplicate name => .symbolNameDuplicate name
  | .badTarget name target => .aliasTargetMissing name target
  | .badSource name fault => .sourceTemplateInvalid name fault.message

/-- A name was looked up that is not in the table. -/
structure UnknownSymbol where
  name : Text
  deriving DecidableEq, Repr

/-- The diagnostic of a failed look-up. -/
def UnknownSymbol.diagnostic (u : UnknownSymbol) : Diagnostic := .symbolNotFound u.name

/-- The symbols that a pattern can use, and other names for them. -/
structure SymbolTable where
  /-- The symbols in order. -/
  definitions : List SymbolDefinition
  /-- Each alias with the name of its symbol. -/
  aliases : List (Text × Text)

namespace SymbolTable

/-! ## Look-up -/

/-- The names of the symbols, in order. -/
def canonicalNames (t : SymbolTable) : List Text := t.definitions.map (·.name)

/-- The aliases, in order. -/
def aliasNames (t : SymbolTable) : List Text := t.aliases.map Prod.fst

/-- Every name, the symbols first. -/
def names (t : SymbolTable) : List Text := t.canonicalNames ++ t.aliasNames

/-- The number of different names. -/
def size (t : SymbolTable) : Nat := (distinct t.names).length

/-- Whether a name is in the table. -/
def contains (t : SymbolTable) (name : Text) : Bool := t.names.contains name

/-- Whether a name is an alias. -/
def isAlias (t : SymbolTable) (name : Text) : Bool := t.aliasNames.contains name

/-- The symbol with a name of its own. -/
def definition? (t : SymbolTable) (name : Text) : Option SymbolDefinition :=
  t.definitions.find? fun d => d.name = name

/-- The symbol with a name or alias. -/
def lookup? (t : SymbolTable) (name : Text) : Option SymbolDefinition :=
  match t.definition? name with
  | some d => some d
  | none => (t.aliases.lookup name).bind t.definition?

/-- The symbol with a name or alias that has to be there. -/
def get (t : SymbolTable) (name : Text) : Except UnknownSymbol SymbolDefinition :=
  match t.lookup? name with
  | some d => .ok d
  | none => .error ⟨name⟩

/-- The own name of the symbol with a name or alias. -/
def canonicalName (t : SymbolTable) (name : Text) : Except UnknownSymbol Text :=
  if name ∈ t.canonicalNames then .ok name
  else
    match t.aliases.lookup name with
    | some target => .ok target
    | none => .error ⟨name⟩

/-- The aliases of a symbol by code point. -/
def aliasesOf (t : SymbolTable) (name : Text) : List Text :=
  sort ((t.aliases.filter fun a => a.2 = name).map Prod.fst)

/-- A short description of a table: how many symbols and aliases it has. -/
def summary (t : SymbolTable) : Text :=
  "SymbolTable(symbols=".toList ++ ofNat t.definitions.length ++ ", aliases=".toList
    ++ ofNat t.aliases.length ++ ")".toList

theorem lookup?_of_definition {t : SymbolTable} {name : Text} {d : SymbolDefinition}
    (h : t.definition? name = some d) : t.lookup? name = some d := by
  simp [lookup?, h]

theorem lookup?_of_alias {t : SymbolTable} {name target : Text}
    (hd : t.definition? name = none) (ha : t.aliases.lookup name = some target) :
    t.lookup? name = t.definition? target := by
  simp [lookup?, hd, ha]

theorem name_of_definition? {t : SymbolTable} {name : Text} {d : SymbolDefinition}
    (h : t.definition? name = some d) : d.name = name := by
  simpa using List.find?_some h

/-! ## Building -/

/-- Alias pairs with each alias once: at the place where it is first given, with the target given
last. -/
def distinctAliases (pairs : List (Text × Text)) : List (Text × Text) :=
  (distinct (pairs.map Prod.fst)).map fun a => (a, (pairs.reverse.lookup a).getD [])

/-- Check one definition behind those with the given names. -/
def checkDefinition (isExpression : Text → Bool) (earlier : List Text) (d : SymbolDefinition) :
    Except TableFault Unit :=
  match nameProblem? d.name with
  | some problem => .error (.badName d.name problem)
  | none =>
    if d.name ∈ earlier then .error (.duplicate d.name)
    else (d.checkSource isExpression).mapError (.badSource d.name)

/-- Check definitions behind those with the given names. -/
def checkDefinitions (isExpression : Text → Bool) (earlier : List Text) :
    List SymbolDefinition → Except TableFault Unit
  | [] => .ok ()
  | d :: ds => do
    checkDefinition isExpression earlier d
    checkDefinitions isExpression (d.name :: earlier) ds

/-- The symbol at the end of a chain of aliases.  `ahead` holds the aliases that the chain has not
passed; each step passes one of them, and `fuel` counts them. -/
def followWithin (canonical : List Text) (name : Text) :
    Nat → List (Text × Text) → Text → Except TableFault Text
  | 0, _, target => if target ∈ canonical then .ok target else .error (.badTarget name target)
  | fuel + 1, ahead, target =>
    if target ∈ canonical then .ok target
    else
      match ahead.lookup target with
      | none => .error (.badTarget name target)
      | some next => followWithin canonical name fuel (ahead.filter fun a => a.1 ≠ target) next

/-- The symbol that an alias leads to, given the target of the alias. -/
def follow (canonical : List Text) (pairs : List (Text × Text)) (name target : Text) :
    Except TableFault Text :=
  followWithin canonical name pairs.length (pairs.filter fun a => a.1 ≠ name) target

/-- Alias pairs in which each alias that leads to another one leads where that one does.  Every
alias gets twice as far on its chain. -/
def leap (pairs : List (Text × Text)) : List (Text × Text) :=
  pairs.map fun a => (a.1, (pairs.lookup a.2).getD a.2)

/-- Leaps until every alias leads to a symbol, and `most` at most. -/
def leaps (canonical : List Text) : Nat → List (Text × Text) → List (Text × Text)
  | 0, pairs => pairs
  | most + 1, pairs =>
    if pairs.all fun a => a.2 ∈ canonical then pairs else leaps canonical most (leap pairs)

/-- The aliases after so many leaps that each one whose chain ends at a symbol leads there: `k`
leaps go `2 ^ k` steps, and no such chain has more steps than there are aliases.  Symbols take part
in no leap, so that a chain stops at the first one. -/
def landings (canonical : List Text) (pairs : List (Text × Text)) : List (Text × Text) :=
  leaps canonical (pairs.length.log2 + 1) (pairs.filter fun a => a.1 ∉ canonical)

theorem lookup_leap (pairs : List (Text × Text)) (name : Text) :
    (leap pairs).lookup name =
      (pairs.lookup name).map fun target => (pairs.lookup target).getD target := by
  have h : ∀ ps : List (Text × Text),
      (ps.map fun a => (a.1, (pairs.lookup a.2).getD a.2)).lookup name =
        (ps.lookup name).map fun target => (pairs.lookup target).getD target := by
    intro ps
    induction ps with
    | nil => rfl
    | cons a ps ih =>
      obtain ⟨key, target⟩ := a
      simp only [List.map_cons, List.lookup_cons]
      cases name == key
      · exact ih
      · rfl
  exact h pairs

/-- Check one alias and find its symbol: where it lands, if that is a symbol, and else by following
its chain, which says what is wrong. -/
def resolveAlias (canonical : List Text) (pairs landed : List (Text × Text)) (a : Text × Text) :
    Except TableFault (Text × Text) :=
  match nameProblem? a.1 with
  | some problem => .error (.badName a.1 problem)
  | none =>
    if a.1 ∈ canonical then .error (.duplicate a.1)
    else
      (fun target => (a.1, target)) <$>
        match (landed.lookup a.1).filter (· ∈ canonical) with
        | some target => .ok target
        | none => follow canonical pairs a.1 a.2

/-- The table of some definitions and aliases, given which texts are expressions. -/
def buildWith (isExpression : Text → Bool) (definitions : List SymbolDefinition)
    (pairs : List (Text × Text)) : Except TableFault SymbolTable := do
  checkDefinitions isExpression [] definitions
  let canonical := definitions.map (·.name)
  let aliases := distinctAliases pairs
  let resolved ← aliases.mapM (resolveAlias canonical aliases (landings canonical aliases))
  return ⟨definitions, resolved⟩

/-- The table of some definitions and aliases. -/
def build (definitions : List SymbolDefinition) (pairs : List (Text × Text)) :
    Except TableFault SymbolTable :=
  buildWith Expr.isExpression definitions pairs

/-- The table of the built-in symbols, with or without the aliases of the other letter case. -/
def builtin (withCase : Bool) : SymbolTable :=
  ⟨SymbolDefinition.builtin, builtinAliases ++ if withCase then caseAliases else []⟩

end SymbolTable

end DatePattern
