/-
  Reading expressions.

  Lexemes are read by precedence: a choice binds loosest, then `or`, comparison, sums and
  products, and attributes, calls and subscripts bind tightest.  `Expr.read?` takes a whole text
  or nothing.  Each step of the reader uses up fuel, of which a text gets more than it can need.
-/
import DatePattern.Expression.Basic
import DatePattern.Expression.Lexeme
import DatePattern.Template
import DatePattern.Text.Fields

namespace DatePattern

open Text

namespace Expr

/-- The rest behind a mark that has to come next. -/
def expect? (c : Char) : List Lexeme → Option (List Lexeme)
  | .mark d :: ls => if c = d then some ls else none
  | _ => none

mutual

/-- A choice, or anything that binds tighter. -/
def choice? (template? : Text → Option Expr) :
    Nat → List Lexeme → Option (Expr × List Lexeme)
  | 0, _ => none
  | fuel + 1, ls => do
    let (e, ls) ← alternative? template? fuel ls
    match ls with
    | .ifWord :: ls =>
      let (test, ls) ← alternative? template? fuel ls
      match ls with
      | .elseWord :: ls =>
        let (other, ls) ← choice? template? fuel ls
        return (.conditional test e other, ls)
      | _ => none
    | ls => return (e, ls)

/-- Operands of `or`. -/
def alternative? (template? : Text → Option Expr) :
    Nat → List Lexeme → Option (Expr × List Lexeme)
  | 0, _ => none
  | fuel + 1, ls => do
    let (a, ls) ← comparison? template? fuel ls
    match ls with
    | .orWord :: ls =>
      let (b, ls) ← alternative? template? fuel ls
      return (.orElse a b, ls)
    | ls => return (a, ls)

/-- At most one comparison. -/
def comparison? (template? : Text → Option Expr) :
    Nat → List Lexeme → Option (Expr × List Lexeme)
  | 0, _ => none
  | fuel + 1, ls => do
    let (a, ls) ← sum? template? fuel ls
    match ls with
    | .mark '<' :: ls =>
      let (b, ls) ← sum? template? fuel ls
      return (.binary .less a b, ls)
    | .inWord :: ls =>
      let (b, ls) ← sum? template? fuel ls
      return (.binary .isIn a b, ls)
    | ls => return (a, ls)

/-- Terms joined by plus and minus. -/
def sum? (template? : Text → Option Expr) :
    Nat → List Lexeme → Option (Expr × List Lexeme)
  | 0, _ => none
  | fuel + 1, ls => do
    let (a, ls) ← product? template? fuel ls
    moreTerms? template? fuel a ls

/-- Further terms behind a sum. -/
def moreTerms? (template? : Text → Option Expr) :
    Nat → Expr → List Lexeme → Option (Expr × List Lexeme)
  | 0, _, _ => none
  | fuel + 1, a, .mark '+' :: ls => do
    let (b, ls) ← product? template? fuel ls
    moreTerms? template? fuel (.binary .add a b) ls
  | fuel + 1, a, .mark '-' :: ls => do
    let (b, ls) ← product? template? fuel ls
    moreTerms? template? fuel (.binary .sub a b) ls
  | _ + 1, a, ls => some (a, ls)

/-- Factors joined by remainder and floor division. -/
def product? (template? : Text → Option Expr) :
    Nat → List Lexeme → Option (Expr × List Lexeme)
  | 0, _ => none
  | fuel + 1, ls => do
    let (a, ls) ← operand? template? fuel ls
    moreFactors? template? fuel a ls

/-- Further factors behind a product. -/
def moreFactors? (template? : Text → Option Expr) :
    Nat → Expr → List Lexeme → Option (Expr × List Lexeme)
  | 0, _, _ => none
  | fuel + 1, a, .mark '%' :: ls => do
    let (b, ls) ← operand? template? fuel ls
    moreFactors? template? fuel (.binary .mod a b) ls
  | fuel + 1, a, .floorDiv :: ls => do
    let (b, ls) ← operand? template? fuel ls
    moreFactors? template? fuel (.binary .floorDiv a b) ls
  | _ + 1, a, ls => some (a, ls)

/-- A name, number, string or bracketed expression, with what is attached to it. -/
def operand? (template? : Text → Option Expr) :
    Nat → List Lexeme → Option (Expr × List Lexeme)
  | fuel + 1, .name x :: ls => attached? template? fuel (.name x) ls
  | fuel + 1, .number n :: ls => attached? template? fuel (.number n) ls
  | fuel + 1, .string t :: ls => attached? template? fuel (.text t) ls
  | fuel + 1, .template written :: ls => do
    let e ← template? written
    attached? template? fuel e ls
  | fuel + 1, .mark '(' :: ls => do
    let (e, ls) ← choice? template? fuel ls
    match ls with
    | .mark ',' :: ls =>
      let (es, ls) ← elements? template? fuel ls
      attached? template? fuel (.tuple (e :: es)) ls
    | ls =>
      let ls ← expect? ')' ls
      attached? template? fuel e ls
  | fuel + 1, .mark '\x7b' :: ls => do
    let (entries, ls) ← entries? template? fuel ls
    attached? template? fuel (.dictionary entries) ls
  | _, _ => none

/-- Attributes, calls and subscripts behind an operand. -/
def attached? (template? : Text → Option Expr) :
    Nat → Expr → List Lexeme → Option (Expr × List Lexeme)
  | 0, _, _ => none
  | fuel + 1, e, .mark '.' :: .name x :: ls => attached? template? fuel (.attribute e x) ls
  | _ + 1, _, .mark '.' :: _ => none
  | fuel + 1, e, .mark '(' :: ls => do
    let (arguments, ls) ← arguments? template? fuel ls
    attached? template? fuel (.call e arguments) ls
  | fuel + 1, e, .mark '[' :: .mark ':' :: .number n :: ls => do
    let ls ← expect? ']' ls
    attached? template? fuel (.leading e n) ls
  | fuel + 1, e, .mark '[' :: ls => do
    let (key, ls) ← choice? template? fuel ls
    let ls ← expect? ']' ls
    attached? template? fuel (.index e key) ls
  | _ + 1, e, ls => some (e, ls)

/-- The elements of a tuple behind its first comma, and the bracket that ends it. -/
def elements? (template? : Text → Option Expr) :
    Nat → List Lexeme → Option (List Expr × List Lexeme)
  | 0, _ => none
  | _ + 1, .mark ')' :: ls => some ([], ls)
  | fuel + 1, ls => do
    let (e, ls) ← choice? template? fuel ls
    match ls with
    | .mark ',' :: ls =>
      let (es, ls) ← elements? template? fuel ls
      return (e :: es, ls)
    | ls =>
      let ls ← expect? ')' ls
      return ([e], ls)

/-- The arguments of a call, and the bracket that ends it. -/
def arguments? (template? : Text → Option Expr) :
    Nat → List Lexeme → Option (List (Option Text × Expr) × List Lexeme)
  | 0, _ => none
  | _ + 1, .mark ')' :: ls => some ([], ls)
  | fuel + 1, ls => do
    let (label, ls) := match ls with
      | .name x :: .mark '=' :: ls => (some x, ls)
      | ls => (none, ls)
    let (e, ls) ← choice? template? fuel ls
    match ls with
    | .mark ',' :: ls =>
      let (es, ls) ← arguments? template? fuel ls
      return ((label, e) :: es, ls)
    | ls =>
      let ls ← expect? ')' ls
      return ([(label, e)], ls)

/-- The entries of a dictionary, and the brace that ends it. -/
def entries? (template? : Text → Option Expr) :
    Nat → List Lexeme → Option (List (Nat × Expr) × List Lexeme)
  | fuel + 1, .number n :: .mark ':' :: ls => do
    let (e, ls) ← choice? template? fuel ls
    match ls with
    | .mark ',' :: ls =>
      let (es, ls) ← entries? template? fuel ls
      return ((n, e) :: es, ls)
    | ls =>
      let ls ← expect? '\x7d' ls
      return ([(n, e)], ls)
  | _, _ => none

end

/-- The expression that a whole lexeme sequence stands for. -/
def ofLexemes? (template? : Text → Option Expr) (ls : List Lexeme) : Option Expr :=
  match choice? template? (8 * (ls.length + 1)) ls with
  | some (e, []) => some e
  | _ => none

/-- The width in a format such as `02d`. -/
def padding? : Text → Option Nat
  | ['0', c, 'd'] => digit? c
  | _ => none

/-- The expression between the braces of a formatted string, which holds no strings itself, and
the format behind its colon. -/
def field? (written : Text) : Option Expr := do
  let ls ← Lexeme.ofText? (upTo ':' written)
  let e ← ofLexemes? (fun _ => none) ls
  match behind? ':' written with
  | none => return e
  | some format => (padding? format).map (.padded e)

/-- A part of a formatted string. -/
def part? : Segment → Option Expr
  | .literal t => some (.text t)
  | .substitution written => field? written

/-- A formatted string, from its inside. -/
def template? (written : Text) : Option Expr := do
  let segments ← Template.read? written
  let parts ← segments.mapM part?
  return .joined parts

/-- The expression that a text stands for. -/
def read? (t : Text) : Option Expr := do
  let ls ← Lexeme.ofText? t
  ofLexemes? template? ls

/-- Whether a text is an expression. -/
def isExpression (t : Text) : Bool := (read? t).isSome

end Expr

end DatePattern
