/-
  Templates: literal text with substitutions between braces, the inside of a formatted string.

  In the written form a literal brace is doubled, quotes, backslashes and unprintable characters
  are escaped, and a substitution stands between single braces.  `Template.read?` takes a written
  form apart again; text next to text comes back as one literal.
-/
import DatePattern.Text.Escape

namespace DatePattern

/-- A part of a template. -/
inductive Segment where
  /-- Text that stands for itself. -/
  | literal (text : Text)
  /-- What is to be put in, by name or as an expression. -/
  | substitution (name : Text)
  deriving DecidableEq, Repr

/-- A template is its segments in order. -/
abbrev Template := List Segment

namespace Template

open Text

/-- A literal character in the written form, where `printable` says which ones stand as
themselves. -/
def escapeCharWith (printable : Char → Bool) (c : Char) : Text :=
  if c = '{' then ['{', '{']
  else if c = '}' then ['}', '}']
  else Text.escapeCharWith printable c

/-- Literal text in the written form, where `printable` says what stands as itself. -/
def escapeWith (printable : Char → Bool) (t : Text) : Text := t.flatMap (escapeCharWith printable)

/-- Literal text in the written form. -/
def escape (t : Text) : Text := escapeWith isPrintable t

/-- The written form of a segment. -/
def written (printable : Char → Bool) : Segment → Text
  | .literal t => escapeWith printable t
  | .substitution name => '{' :: name ++ ['}']

/-- The written form of a template, where `printable` says what stands as itself. -/
def renderWith (printable : Char → Bool) (segments : Template) : Text :=
  segments.flatMap (written printable)

/-- The written form of a template. -/
def render (segments : Template) : Text := segments.renderWith isPrintable

/-- The template as a reader of the pattern sees it: texts and names, nothing escaped. -/
def echo (segments : Template) : Text :=
  segments.flatMap fun
    | .literal t => t
    | .substitution name => name

/-- The substituted names in order, repeats kept. -/
def names (segments : Template) : List Text :=
  segments.filterMap fun
    | .literal _ => none
    | .substitution name => some name

theorem renderWith_cons (printable : Char → Bool) (s : Segment) (segments : Template) :
    renderWith printable (s :: segments) = written printable s ++ renderWith printable segments :=
  rfl

/-! ## Reading -/

/-- Put a character in front, joining it to a literal that comes first. -/
def consChar (c : Char) : Template → Template
  | .literal t :: segments => .literal (c :: t) :: segments
  | segments => .literal [c] :: segments

/-- Read a written form; each of at most `fuel` steps reads a character or a substitution. -/
def readWithin? : Nat → Text → Option Template
  | _, [] => some []
  | 0, _ :: _ => none
  | fuel + 1, c :: rest =>
    if c = '{' then
      match rest with
      | '{' :: rest => (readWithin? fuel rest).map (consChar '{')
      | _ =>
        let name := rest.takeWhile (· ≠ '}')
        match rest.drop name.length with
        | _ :: rest => (readWithin? fuel rest).map (.substitution name :: ·)
        | [] => none
    else if c = '}' then
      match rest with
      | '}' :: rest => (readWithin? fuel rest).map (consChar '}')
      | _ => none
    else if c = '\\' then
      (takeEscape? rest).bind fun (d, rest) => (readWithin? fuel rest).map (consChar d)
    else if c = '"' then none
    else (readWithin? fuel rest).map (consChar c)

/-- The template with the given written form; none for a brace, quote or escape out of place. -/
def read? (t : Text) : Option Template := readWithin? t.length t

end Template

end DatePattern
