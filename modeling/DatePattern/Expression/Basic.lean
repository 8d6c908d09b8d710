/-
  Expressions: what a symbol's source says about how its value is computed from an instant.

  The expressions are those that calendar fields need: numbers and strings, attributes, calls and
  subscripts, arithmetic, comparison and choice, tuples and dictionaries, and formatted strings.
-/
import DatePattern.Text.CodePoints

namespace DatePattern

/-- The operators with two operands. -/
inductive Operator where
  | add
  | sub
  | mod
  | floorDiv
  | less
  | isIn
  deriving DecidableEq, Repr

/-- An expression. -/
inductive Expr where
  | number (n : Nat)
  | text (t : Text)
  | name (x : Text)
  | attribute (e : Expr) (x : Text)
  /-- A call; an argument may be given by name. -/
  | call (callee : Expr) (arguments : List (Option Text × Expr))
  | index (e key : Expr)
  /-- The first characters of a text. -/
  | leading (e : Expr) (count : Nat)
  | binary (op : Operator) (a b : Expr)
  /-- The first operand, or the second one if the first counts as false. -/
  | orElse (a b : Expr)
  | conditional (test yes no : Expr)
  | tuple (elements : List Expr)
  /-- A dictionary with numbers as keys. -/
  | dictionary (entries : List (Nat × Expr))
  /-- A formatted string: the texts of the parts, one after the other. -/
  | joined (parts : List Expr)
  /-- A number filled with zeros up to a width. -/
  | padded (e : Expr) (width : Nat)

end DatePattern
