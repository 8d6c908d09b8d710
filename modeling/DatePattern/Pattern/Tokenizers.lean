/-
  Tokenizers that are kept for later patterns.

  Patterns can be read without a compiler, given nothing but the names.  The tokenizers made on the
  way are kept under the sets of their names, up to a number of them, and one that is kept is used
  again.  `mem_key` says that a key holds the names and nothing else.
-/
import DatePattern.Pattern.Tokenizer
import DatePattern.Recent

namespace DatePattern

open Text

/-- Tokenizers that have been made, under the sets of their names. -/
structure Tokenizers where
  kept : Recent (List Text) Tokenizer := .empty

namespace Tokenizers

/-- What reading a pattern without a compiler can fail with. -/
inductive Fault where
  /-- One of the names is empty. -/
  | emptyName
  | cursor (fault : Cursor.Fault)
  deriving DecidableEq, Repr

/-- The wording of a fault. -/
def Fault.message : Fault → Text
  | .emptyName => Alphabet.emptyNameMessage
  | .cursor fault => fault.message

/-- Before the first pattern. -/
def fresh : Tokenizers := {}

/-- How many tokenizers are kept. -/
def capacity : Nat := 32

/-- Names as a set: each once, by code point. -/
def key (names : List Text) : List Text := sort (distinct names)

/-- The tokenizer for some names, unless one of them is empty.  It becomes the most recent one. -/
def find (s : Tokenizers) (names : List Text) : Option Tokenizer × Tokenizers :=
  match s.kept.find? (key names) with
  | some t => (some t, ⟨s.kept.touch (key names)⟩)
  | none =>
    match Tokenizer.ofNames? names with
    | some t => (some t, ⟨s.kept.put capacity (key names) t⟩)
    | none => (none, s)

/-- The tokens of a pattern over some names. -/
def tokenize (s : Tokenizers) (names : List Text) (pattern : Text) :
    Except Fault (List Token) × Tokenizers :=
  match s.find names with
  | (some t, s) => ((t.tokenize pattern).mapError .cursor, s)
  | (none, s) => (.error .emptyName, s)

theorem mem_key {names : List Text} {n : Text} : n ∈ key names ↔ n ∈ names := by
  rw [key, mem_sort, mem_distinct]

end Tokenizers

end DatePattern
