/-
  The source text of an emitted program.

  The import lines with two empty lines behind them, if there are any; the head of the function
  with the locale as a default; its description; one line per declaration; and the template that
  it returns.  Each line ends with a line feed.
-/
import DatePattern.Program.Basic

namespace DatePattern.Program

open Text

/-- The space in front of the lines of a function. -/
def indent : Text := "    ".toList

/-- The lines in front of the function. -/
def importLines (p : Program) : List Text :=
  if p.imports.isEmpty then [] else p.imports ++ [[], []]

/-- The line that names the function and its parameters. -/
def headLine (p : Program) : Text :=
  "def ".toList ++ p.functionName ++ "(".toList ++ p.parameter ++ ", ".toList ++ localeParameter
    ++ "=\"".toList ++ escape p.locale ++ "\"):".toList

/-- The line that holds the description. -/
def descriptionLine (p : Program) : Text :=
  indent ++ "\"\"\"Format a datetime as ``".toList ++ escape p.echo ++ "``.\"\"\"".toList

/-- The line that returns the template. -/
def returnLine (p : Program) : Text :=
  indent ++ "return f\"".toList ++ p.template ++ "\"".toList

/-- The lines of the source. -/
def lines (p : Program) : List Text :=
  p.importLines ++ [p.headLine, p.descriptionLine] ++ p.statements.map (indent ++ ·)
    ++ [p.returnLine]

/-- Lines as text. -/
def joinLines (ls : List Text) : Text := ls.flatMap (· ++ ['\n'])

/-- The source text. -/
def source (p : Program) : Text := joinLines p.lines

/-- How many lines a text ends: at each line feed and carriage return, but once where a line feed
follows a carriage return. -/
def lineEnds : Text → Nat
  | [] => 0
  | '\r' :: '\n' :: rest => lineEnds rest + 1
  | c :: rest => if c = '\n' ∨ c = '\r' then lineEnds rest + 1 else lineEnds rest

/-- The line on which the head of the function stands, counted from one.  What stands in front of
it may take more than one line each. -/
def headLineNumber (p : Program) : Nat := lineEnds (joinLines p.importLines) + 1

end DatePattern.Program
