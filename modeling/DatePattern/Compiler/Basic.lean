/-
  Compilers: one symbol table with its settings and its cache of tokenized patterns.

  A pattern is formatted, or emitted as a program, from the same tokens.  The locale is looked up
  anew each time.  Work done with a compiler can change its cache and the contexts that the
  process keeps, also where it fails; `fst_tokenize_uncached` says what tokens are without a cache.
-/
import DatePattern.Compiler.TokenCache
import DatePattern.Fault
import DatePattern.Formatting
import DatePattern.Locale.Store
import DatePattern.Pattern.Scan
import DatePattern.Program.Source

namespace DatePattern

open Text

/-- A symbol table with settings and a cache. -/
structure Compiler where
  table : SymbolTable
  config : Config
  /-- The cache, unless patterns are not kept. -/
  cache : Option TokenCache

namespace Compiler

/-- The compiler for a table, or for the built-in one, with some settings. -/
def make (table? : Option SymbolTable) (config : Config) : Except ConfigFault Compiler := do
  config.check
  return ⟨table?.getD (.builtin config.caseAliases), config, TokenCache.ofCapacity? config.cacheSize⟩

/-- The compiler for the built-in table, with or without the aliases of the other letter case. -/
def ofBuiltin (caseAliases : Bool) : Compiler :=
  ⟨.builtin caseAliases, { caseAliases }, TokenCache.ofCapacity? 256⟩

/-- The compiler that is made where nothing is chosen. -/
theorem make_default : make none {} = .ok (ofBuiltin false) := by
  rw [make, Config.check_default]
  rfl

/-- A short description of a compiler. -/
def summary (c : Compiler) : Text :=
  "PatternCompiler(table=".toList ++ c.table.summary ++ ", config=".toList ++ c.config.summary
    ++ [')']

/-! ## Tokens -/

/-- The tokens of a pattern, and the compiler with them in its cache. -/
def tokenize (c : Compiler) (pattern : Text) : List Token × Compiler :=
  match c.cache with
  | none => (DatePattern.tokenize c.table.names pattern, c)
  | some cache =>
    match cache.find pattern with
    | (some tokens, cache) => (tokens, { c with cache := some cache })
    | (none, cache) =>
      let tokens := DatePattern.tokenize c.table.names pattern
      (tokens, { c with cache := some (cache.put pattern tokens) })

/-- The compiler with an empty cache. -/
def clear (c : Compiler) : Compiler := { c with cache := c.cache.map TokenCache.clear }

/-- The counts of the cache, if there is one. -/
def statistics? (c : Compiler) : Option TokenCache.Statistics := c.cache.map TokenCache.statistics

theorem fst_tokenize_uncached {c : Compiler} (h : c.cache = none) (pattern : Text) :
    (c.tokenize pattern).1 = DatePattern.tokenize c.table.names pattern := by
  simp [tokenize, h]

theorem table_tokenize (c : Compiler) (pattern : Text) :
    (c.tokenize pattern).2.table = c.table := by
  unfold tokenize
  split
  · rfl
  · split <;> rfl

end Compiler

/-! ## Work -/

/-- What work with a compiler can change. -/
structure Workspace where
  compiler : Compiler
  locales : LocaleStore

/-- Work with a compiler, which may fail; what it has changed stays changed. -/
abbrev Work := ExceptT Fault (StateM Workspace)

namespace Work

/-- A result that is known, or a fault. -/
def lift {ε α : Type} (fault : ε → Fault) : Except ε α → Work α
  | .ok a => pure a
  | .error e => throw (fault e)

/-- The tokens of a pattern. -/
def tokenize (pattern : Text) : Work (List Token) :=
  modifyGet fun w =>
    let (tokens, compiler) := w.compiler.tokenize pattern
    (tokens, { w with compiler })

/-- The normal form of a locale code, or the default one if none is given. -/
def resolve (locale : Option Text) : Work Text := do
  return (← get).locales.resolve locale

/-- The context of a locale code. -/
def context (db? : Option LocaleDatabase) (code : Text) : Work LocaleContext := do
  let w ← get
  match w.locales.context? db? code with
  | none => throw (.noDatabase .contexts)
  | some (x, locales) =>
    set { w with locales }
    return x

/-- The locale that programs are emitted for: the one in effect, or without a database the code as
it is. -/
def effectiveLocale (db? : Option LocaleDatabase) (code : Text) : Work Text :=
  if db?.isNone then return code
  else do
    let x ← context db? code
    return x.identifier

/-- Tokens as text. -/
def formatTokens (tokens : List Token) (i : Instant) (x : LocaleContext) : Work Formatted := do
  let w ← get
  lift .unknownSymbol (Token.formatAll w.compiler.table i x tokens)

/-- Tokens as a program. -/
def emitTokens (db? : Option LocaleDatabase) (tokens : List Token) (code : Text) :
    Work Program := do
  let locale ← effectiveLocale db? code
  let c := (← get).compiler
  lift .ofEmit (Program.emit c.table locale c.config.functionName c.config.parameter tokens)

/-- A pattern as text. -/
def format (db? : Option LocaleDatabase) (pattern : Text) (given : GivenInstant)
    (locale : Option Text) : Work Formatted := do
  let i ← lift .instant given.toInstant
  let x ← context db? (← resolve locale)
  let tokens ← tokenize pattern
  formatTokens tokens i x

/-- A pattern as a program. -/
def emit (db? : Option LocaleDatabase) (pattern : Text) (locale : Option Text) : Work Program := do
  let tokens ← tokenize pattern
  emitTokens db? tokens (← resolve locale)

/-- A pattern as the source of a program. -/
def render (db? : Option LocaleDatabase) (pattern : Text) (locale : Option Text) : Work Text := do
  let p ← emit db? pattern locale
  return p.source

/-- A pattern as a function that can be called, and the program it comes from. -/
def compile (db? : Option LocaleDatabase) (pattern : Text) (locale : Option Text) :
    Work (Program × LoadedFunction) := do
  let p ← emit db? pattern locale
  let f ← lift .ofLoad (p.load db?)
  return (p, f)

/-- A pattern as text and as a program at once. -/
structure Preview where
  pattern : Text
  instant : Instant
  /-- The normal form of the locale code. -/
  locale : Text
  tokens : List Token
  output : Formatted
  program : Program
  deriving DecidableEq, Repr

/-- A pattern as text and as a program at once, for one instant and one locale. -/
def preview (db? : Option LocaleDatabase) (pattern : Text) (given : GivenInstant)
    (locale : Option Text) : Work Preview := do
  let instant ← lift .instant given.toInstant
  let code ← resolve locale
  let tokens ← tokenize pattern
  let x ← context db? code
  let output ← formatTokens tokens instant x
  let program ← emitTokens db? tokens code
  return { pattern, instant, locale := code, tokens, output, program }

/-- What becomes of a workspace. -/
def run {α : Type} (work : Work α) (w : Workspace) : Except Fault α × Workspace :=
  StateT.run (ExceptT.run work) w

end Work

end DatePattern
