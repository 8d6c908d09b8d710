/-
  Formatting: the text of a token sequence at an instant in a locale.

  Literal text stands for itself and a symbol for the text of its value.  Where a value cannot be
  had, other text takes its place and the fault is kept; only a symbol that the table lacks makes
  formatting fail.
-/
import DatePattern.Pattern.Token
import DatePattern.Symbol.Table

namespace DatePattern

/-- A text, and what went wrong while it was made. -/
structure Formatted where
  text : Text
  faults : List FormattingFault
  deriving DecidableEq, Repr

namespace Formatted

/-- A text without faults. -/
def ofText (t : Text) : Formatted := ⟨t, []⟩

/-- A value, or what takes its place. -/
def ofValue : Except FormattingFault SymbolValue → Formatted
  | .ok v => ofText v.shown
  | .error f => ⟨f.fallback, [f]⟩

/-- One text behind another. -/
def append (a b : Formatted) : Formatted := ⟨a.text ++ b.text, a.faults ++ b.faults⟩

theorem append_ofText_nil (a : Formatted) : a.append (ofText []) = a := by
  simp [append, ofText]

end Formatted

namespace Token

/-- One token at an instant in a locale. -/
def format (t : SymbolTable) (i : Instant) (x : LocaleContext) :
    Token → Except UnknownSymbol Formatted
  | .literal text => .ok (.ofText text)
  | .symbol name => do
    let d ← t.get name
    return .ofValue (d.evaluate i x)

/-- A token sequence at an instant in a locale. -/
def formatAll (t : SymbolTable) (i : Instant) (x : LocaleContext) :
    List Token → Except UnknownSymbol Formatted
  | [] => .ok (.ofText [])
  | token :: rest => do
    let a ← token.format t i x
    let b ← formatAll t i x rest
    return a.append b

theorem formatAll_nil (t : SymbolTable) (i : Instant) (x : LocaleContext) :
    formatAll t i x [] = .ok (.ofText []) := rfl

end Token

end DatePattern
