/-
  Texts quoted for messages.

  A quoted text stands between apostrophes, or between double quotes if it holds an apostrophe and
  no double quote; the quote itself, backslashes, line feeds, carriage returns and tabs stand
  behind a backslash, other unprintable characters are given by number.
-/
import DatePattern.Text.Escape

namespace DatePattern.Text

/-- The apostrophe, the first choice of quote. -/
def apostrophe : Char := Char.ofNat 39

/-- The quote that a text is put between. -/
def quoteFor (t : Text) : Char :=
  if t.contains apostrophe && !t.contains '"' then '"' else apostrophe

/-- A character between two given quotes. -/
def quotedChar (quote c : Char) : Text :=
  if c = quote ∨ c = '\\' then ['\\', c]
  else if c = '\n' then ['\\', 'n']
  else if c = '\r' then ['\\', 'r']
  else if c = '\t' then ['\\', 't']
  else if isPrintable c then [c]
  else numericEscape c

/-- A text quoted for a message. -/
def quoted (t : Text) : Text :=
  let quote := quoteFor t
  quote :: t.flatMap (quotedChar quote) ++ [quote]

/-- A name between apostrophes, as it stands. -/
def named (t : Text) : Text := apostrophe :: t ++ [apostrophe]

end DatePattern.Text
