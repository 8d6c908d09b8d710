/-
  Lexemes: an expression cut into words, numbers, strings and marks.

  Blanks separate lexemes and are dropped.  A word of the language that no expression here uses is
  refused, and so is a number that runs into a word.  Names are known by their normal form.
  Formatted strings are kept as written; what stands between their braces is cut in turn when they
  are read.
-/
import DatePattern.Symbol.Name
import DatePattern.Text.Decimal
import DatePattern.Text.Escape
import DatePattern.Text.NormalForm

namespace DatePattern

open Text

/-- The smallest parts of an expression. -/
inductive Lexeme where
  | name (x : Text)
  | ifWord
  | elseWord
  | orWord
  | inWord
  | number (n : Nat)
  | string (t : Text)
  /-- The inside of a formatted string, as written. -/
  | template (written : Text)
  /-- An operator, bracket or separator of one character. -/
  | mark (c : Char)
  /-- The operator of floor division. -/
  | floorDiv
  deriving DecidableEq, Repr

namespace Lexeme

/-- The marks that expressions use. -/
def marks : List Char := "+-%<=()[]\x7b\x7d,:.".toList

/-- A name, or one of the words that have a meaning of their own; only as they are written do these
words have it. -/
def ofWord? (word : Text) : Option Lexeme :=
  if word = "if".toList then some .ifWord
  else if word = "else".toList then some .elseWord
  else if word = "or".toList then some .orWord
  else if word = "in".toList then some .inWord
  else if word ∈ keywords then none
  else some (.name (normalized word))

/-- A number, which has no leading zeros. -/
def ofDigits? (digits : Text) : Option Lexeme :=
  match digits with
  | '0' :: _ :: _ => none
  | _ => (toNat? digits).map .number

/-- The inside of a string up to the quote that ends it; a backslash takes the next character
along. -/
def quotedBody? : Text → Option Text
  | [] => none
  | '"' :: _ => some []
  | '\\' :: c :: rest => (quotedBody? rest).map fun body => '\\' :: c :: body
  | c :: rest => if c = '\n' then none else (quotedBody? rest).map (c :: ·)

/-- Whether a number may end in front of a text. -/
def endsNumber : Text → Bool
  | [] => true
  | c :: _ => !isIdentifierContinuation c && c != '.'

/-- The lexeme at the head of a text, and how many characters it takes. -/
def first? : Text → Option (Lexeme × Nat)
  | [] => none
  | '"' :: rest => do
    let body ← quotedBody? rest
    let t ← readEscaped? body
    return (.string t, body.length + 2)
  | 'f' :: '"' :: rest => (quotedBody? rest).map fun body => (.template body, body.length + 3)
  | '/' :: '/' :: _ => some (.floorDiv, 2)
  | c :: rest =>
    if isIdentifierStart c then
      let word := c :: rest.takeWhile isIdentifierContinuation
      (ofWord? word).map fun l => (l, word.length)
    else if isAsciiDigit c then
      let digits := c :: rest.takeWhile isAsciiDigit
      if endsNumber ((c :: rest).drop digits.length) then
        (ofDigits? digits).map fun l => (l, digits.length)
      else none
    else if c ∈ marks then some (.mark c, 1)
    else none

/-- The lexemes of a text, of which the first `skip` characters belong to the lexeme just read. -/
def ofTextFrom? : Nat → Text → Option (List Lexeme)
  | _, [] => some []
  | skip + 1, _ :: rest => ofTextFrom? skip rest
  | 0, c :: rest =>
    if c = ' ' then ofTextFrom? 0 rest
    else
      match first? (c :: rest) with
      | none => none
      | some (l, n) => (ofTextFrom? (n - 1) rest).map (l :: ·)

/-- The lexemes of a text. -/
def ofText? (t : Text) : Option (List Lexeme) := ofTextFrom? 0 t

theorem ofTextFrom?_skip (skip : Nat) (t : Text) :
    ofTextFrom? skip t = ofTextFrom? 0 (t.drop skip) := by
  induction t generalizing skip with
  | nil => simp [ofTextFrom?]
  | cons c rest ih =>
    cases skip with
    | zero => rfl
    | succ skip => simpa [ofTextFrom?] using ih skip

end Lexeme

end DatePattern
