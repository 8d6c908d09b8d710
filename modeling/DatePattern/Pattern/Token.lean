/-
  Tokens of a date pattern: literal text and symbol occurrences.

  `Token.joinLiteral` puts literal text in front of a token sequence without ever leaving two
  literals side by side.  `Token.Handlers` is a table of what to do with each kind of token, in
  which a kind may be missing.
-/
import DatePattern.Text.CodePoints

namespace DatePattern

/-- The kinds of tokens. -/
inductive TokenKind where
  | literal
  | symbol
  deriving DecidableEq, Repr

namespace TokenKind

/-- Every kind. -/
def all : List TokenKind := [.literal, .symbol]

/-- The word for a kind. -/
def name : TokenKind → Text
  | .literal => "literal".toList
  | .symbol => "symbol".toList

/-- The name of the tokens of a kind in messages. -/
def typeName : TokenKind → Text
  | .literal => "LiteralToken".toList
  | .symbol => "SymbolToken".toList

/-- What is wrong with a token of a kind that holds no text. -/
def emptyMessage : TokenKind → Text
  | .literal => "LiteralToken text must not be empty".toList
  | .symbol => "SymbolToken name must not be empty".toList

/-- What is wrong with a table of handlers, called by its name, that lacks a kind. -/
def unhandledMessage (handlers : Text) (k : TokenKind) : Text :=
  handlers ++ " cannot visit ".toList ++ k.typeName

end TokenKind

/-- A part of a pattern. -/
inductive Token where
  /-- Text copied to the output as it stands. -/
  | literal (text : Text)
  /-- A symbol as written in the pattern, to be replaced by its value. -/
  | symbol (name : Text)
  deriving DecidableEq, Repr

namespace Token

/-- The kind of a token. -/
def kind : Token → TokenKind
  | .literal _ => .literal
  | .symbol _ => .symbol

/-- The text of a literal or the name of a symbol. -/
def text : Token → Text
  | .literal t => t
  | .symbol name => name

/-- Whether a token holds any text; only such tokens are well formed. -/
def IsWellFormed (t : Token) : Prop := t.text ≠ []

instance (t : Token) : Decidable t.IsWellFormed := inferInstanceAs (Decidable (t.text ≠ []))

/-- The token, unless it holds no text; then its kind is reported. -/
def check (t : Token) : Except TokenKind Token := if t.IsWellFormed then .ok t else .error t.kind

/-- The names of the symbols among the tokens, repeats kept. -/
def symbolNames (ts : List Token) : List Text :=
  ts.filterMap fun
    | .literal _ => none
    | .symbol name => some name

/-- Put literal text in front, joining it to a literal that comes first. -/
def joinLiteral (t : Text) : List Token → List Token
  | .literal u :: ts => .literal (t ++ u) :: ts
  | ts => .literal t :: ts

/-- The concatenation of the token texts. -/
def flatten (ts : List Token) : Text := ts.flatMap text

theorem flatten_cons (t : Token) (ts : List Token) : flatten (t :: ts) = t.text ++ flatten ts := rfl

theorem flatten_joinLiteral (t : Text) (ts : List Token) :
    flatten (joinLiteral t ts) = t ++ flatten ts := by
  cases ts with
  | nil => simp [joinLiteral, flatten, text]
  | cons u ts => cases u <;> simp [joinLiteral, flatten, text]

theorem mem_symbolNames {ts : List Token} {name : Text} :
    name ∈ symbolNames ts ↔ .symbol name ∈ ts := by
  rw [symbolNames, List.mem_filterMap]
  constructor
  · rintro ⟨t, ht, heq⟩
    cases t with
    | literal u => cases heq
    | symbol n =>
      cases heq
      exact ht
  · intro h
    exact ⟨_, h, rfl⟩

/-! ## Handlers -/

/-- What to do with each kind of token; a kind without an entry cannot be handled. -/
structure Handlers (α : Type) where
  literal? : Option (Text → α) := none
  symbol? : Option (Text → α) := none

/-- Why a set of handlers cannot have a name: it holds a null character. -/
def handlersNameFault? (name : Text) : Option Text :=
  if name.contains '\x00' then some "type name must not contain null characters".toList else none

/-- Handle one token; a kind without an entry is reported. -/
def Handlers.visit {α : Type} (h : Handlers α) : Token → Except TokenKind α
  | .literal t =>
    match h.literal? with
    | some f => .ok (f t)
    | none => .error .literal
  | .symbol name =>
    match h.symbol? with
    | some f => .ok (f name)
    | none => .error .symbol

/-- Handle every token in order; the first kind without an entry is reported. -/
def Handlers.walk {α : Type} (h : Handlers α) (ts : List Token) : Except TokenKind (List α) :=
  ts.mapM h.visit

end Token

end DatePattern
