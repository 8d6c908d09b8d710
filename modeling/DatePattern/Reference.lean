/-
  Reference material: the symbols of a table, examples of them, and the symbols that a pattern
  uses.
-/
import DatePattern.Pattern.Tokenizers
import DatePattern.Session
import DatePattern.Text.Order

namespace DatePattern

open Text

/-! ## Symbols -/

/-- A symbol as it is described to users. -/
structure SymbolInfo where
  name : Text
  field : CalendarField
  description : Text
  /-- The other names of the symbol by code point. -/
  aliases : List Text
  emittable : Bool
  usesLocale : Bool
  deriving DecidableEq, Repr

/-- The symbols of a table in order. -/
def SymbolTable.describe (t : SymbolTable) : List SymbolInfo :=
  t.definitions.map fun d =>
    { name := d.name, field := d.field, description := d.description
      aliases := t.aliasesOf d.name, emittable := d.isEmittable, usesLocale := d.usesLocale }

/-! ## Examples -/

/-- The instant of the examples: Wednesday, 21 October 2015, 16:29. -/
def exampleInstant : Instant where
  date := ⟨2015, 10, 21, by decide, by decide, by decide⟩
  time := { TimeOfDay.midnight with
    hour := 16
    minute := 29
    hour_lt := by decide
    minute_lt := by decide }

/-- The names for which examples are given: the symbols in order, each with its aliases behind it
if they are asked for. -/
def SymbolTable.exampleNames (t : SymbolTable) (withAliases : Bool) : List Text :=
  t.canonicalNames.flatMap fun name => name :: if withAliases then t.aliasesOf name else []

/-- A name and the text of its value. -/
def SymbolTable.exampleRow (t : SymbolTable) (i : Instant) (x : LocaleContext) (name : Text) :
    Except UnknownSymbol (Text × Text) := do
  let f ← (Token.symbol name).format t i x
  return (name, f.text)

/-- The names of a table with the texts of their values. -/
def SymbolTable.exampleRows (t : SymbolTable) (i : Instant) (x : LocaleContext)
    (withAliases : Bool) : Except UnknownSymbol (List (Text × Text)) :=
  (t.exampleNames withAliases).mapM (t.exampleRow i x)

/-- The names of a table with the texts of their values, in the locale of a code or the default
one. -/
def Session.examples (s : Session) (db? : Option LocaleDatabase) (t : SymbolTable) (i : Instant)
    (locale : Option Text) (withAliases : Bool) :
    Except Fault (List (Text × Text)) × Session :=
  match s.context db? (s.locales.resolve locale) with
  | (.error fault, s) => (.error fault, s)
  | (.ok x, s) => ((t.exampleRows i x withAliases).mapError .unknownSymbol, s)

/-! ## Patterns -/

/-- The symbols that a pattern uses. -/
structure PatternInfo where
  pattern : Text
  /-- The symbols as written, each where it first occurs. -/
  symbols : List Text
  /-- The own names of the symbols by code point. -/
  canonical : List Text
  fields : List CalendarField
  requiresLocale : Bool
  deriving DecidableEq, Repr

/-- What inspecting a pattern can fail with. -/
inductive InspectFault where
  /-- The pattern cannot be read. -/
  | tokenizing (fault : Tokenizers.Fault)
  /-- A token names no symbol of the table. -/
  | unknown (symbol : UnknownSymbol)
  deriving DecidableEq, Repr

/-- What a pattern uses, given its tokens. -/
def SymbolTable.inspectTokens (t : SymbolTable) (pattern : Text) (tokens : List Token) :
    Except UnknownSymbol PatternInfo := do
  let symbols := distinct (Token.symbolNames tokens)
  let definitions ← symbols.mapM t.get
  return {
    pattern, symbols
    canonical := sort (distinct (definitions.map (·.name)))
    fields := CalendarField.all.filter fun f => definitions.any fun d => d.field = f
    requiresLocale := definitions.any (·.usesLocale) }

/-- What a pattern uses, read by a tokenizer that is kept or made for it. -/
def SymbolTable.inspect (t : SymbolTable) (s : Tokenizers) (pattern : Text) :
    Except InspectFault PatternInfo × Tokenizers :=
  match s.tokenize t.names pattern with
  | (.ok tokens, s) => ((t.inspectTokens pattern tokens).mapError .unknown, s)
  | (.error fault, s) => (.error (.tokenizing fault), s)

/-- Whether a pattern uses a symbol, by the name that is written or by its own. -/
def PatternInfo.uses (p : PatternInfo) (name : Text) : Bool :=
  p.symbols.contains name || p.canonical.contains name

end DatePattern
