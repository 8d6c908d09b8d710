/-
  Reading the source text of a program.

  The source is taken apart at its line feeds, and each line by the rules of the language that it is
  written in: a string ends at the first double quote that no backslash takes along, a description
  at the first three of them in a row, and what stands in them is read as escaped text.  The text in
  front of the first line that defines a function is import lines with two empty lines behind them.

  `readSource?` is made for what `source` writes; it refuses most other texts.
-/
import DatePattern.Expression.Lexeme
import DatePattern.Program.Source

namespace DatePattern

open Text

namespace Text

/-- The text behind a given beginning. -/
def after? (front t : Text) : Option Text :=
  if front.isPrefixOf t then some (t.drop front.length) else none

/-- The text up to the first three double quotes in a row of which no backslash takes one along. -/
def tripleBody? : Text → Option Text
  | [] => none
  | '\\' :: c :: rest => (tripleBody? rest).map fun body => '\\' :: c :: body
  | '"' :: '"' :: '"' :: _ => some []
  | c :: rest => (tripleBody? rest).map (c :: ·)

theorem after?_append (front t : Text) : after? front (front ++ t) = some t := by
  have hfront : front.isPrefixOf (front ++ t) = true :=
    List.isPrefixOf_iff_prefix.mpr (List.prefix_append front t)
  rw [after?, if_pos hfront, List.drop_left]

end Text

namespace Program

/-- What begins the line that defines a function. -/
def definitionWord : Text := "def ".toList

/-- The name of the function, the name of the instant and the locale on the line that defines the
function. -/
def readHead? (line : Text) : Option (Text × Text × Text) := do
  let rest ← after? definitionWord line
  let inside ← behind? '(' rest
  let default ← behind? ',' inside
  let quote ← after? (" ".toList ++ localeParameter ++ "=\"".toList) default
  let body ← Lexeme.quotedBody? quote
  let locale ← readEscaped? body
  if quote.drop body.length = "\"):".toList then some (upTo '(' rest, upTo ',' inside, locale)
  else none

/-- The description on its line. -/
def readDescription? (line : Text) : Option Text := do
  let rest ← after? (indent ++ "\"\"\"".toList) line
  let body ← tripleBody? rest
  if rest.drop body.length = "\"\"\"".toList then readEscaped? body else none

/-- The declaration on a line. -/
def readStatement? (line : Text) : Option Declaration := do
  let rest ← after? indent line
  let name := upTo ' ' rest
  let source ← after? (name ++ " = ".toList) rest
  return ⟨name, source⟩

/-- The template on the line that returns it. -/
def readReturn? (line : Text) : Option Template := do
  let rest ← after? (indent ++ "return f\"".toList) line
  let body ← Lexeme.quotedBody? rest
  if rest.drop body.length = ['"'] then Template.read? body else none

/-- The import lines in front of a function, without the two empty lines behind them. -/
def readImports? (front : List Text) : Option (List Text) :=
  match front.reverse with
  | [] => some []
  | [] :: [] :: lines => some lines.reverse
  | _ => none

/-- The program with the given lines, of which the last is empty. -/
def readLines? (lines : List Text) : Option Program := do
  let front := lines.takeWhile fun line => !definitionWord.isPrefixOf line
  let imports ← readImports? front
  match lines.drop front.length with
  | head :: description :: rest =>
    let (functionName, parameter, locale) ← readHead? head
    match rest.reverse with
    | [] :: last :: statements =>
      let declarations ← statements.reverse.mapM readStatement?
      let segments ← readReturn? last
      let p : Program := { declarations, segments, imports, locale, functionName, parameter }
      if readDescription? description = some p.description then some p else none
    | _ => none
  | _ => none

/-- The program with the given source. -/
def readSource? (source : Text) : Option Program := readLines? (fields '\n' source)

end Program

end DatePattern
