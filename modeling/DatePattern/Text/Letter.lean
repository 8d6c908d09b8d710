/-
  Letters: which characters are letters, their case, and which texts are identifiers.

  `isIdentifier` follows the Unicode identifier rule: a letter, letter number, underscore or
  listed character first, then also marks, decimal digits and connecting punctuation.  The lemmas
  at the end pin the classes on ASCII.
-/
import DatePattern.Text.Grapheme.Tables
import DatePattern.Text.Letter.Case
import DatePattern.Text.Letter.Tables

namespace DatePattern.Text

/-- Whether a character is an ASCII letter. -/
def isAsciiLetter (c : Char) : Bool :=
  ('a' ≤ c && c ≤ 'z') || ('A' ≤ c && c ≤ 'Z')

/-- Whether a character is an ASCII digit. -/
def isAsciiDigit (c : Char) : Bool := '0' ≤ c && c ≤ '9'

/-- Whether a character is a letter of any script. -/
def isLetter (c : Char) : Bool := Letter.letters.contains c.toNat

/-- Whether a character is a digit of any script. -/
def isDigit (c : Char) : Bool :=
  Letter.decimalDigits.contains c.toNat || Letter.otherDigits.contains c.toNat

/-! ## Identifiers -/

/-- Whether a character may begin an identifier: in ASCII a letter or the underscore. -/
def isIdentifierStart (c : Char) : Bool :=
  if c.toNat < 0x80 then isAsciiLetter c || c == '_'
  else
    (Letter.letters.contains c.toNat || Letter.letterNumbers.contains c.toNat
      || Letter.otherStarts.contains c.toNat) && !Letter.excludedStarts.contains c.toNat

/-- Whether a character may continue an identifier: in ASCII also a digit. -/
def isIdentifierContinuation (c : Char) : Bool :=
  if c.toNat < 0x80 then isAsciiLetter c || c == '_' || isAsciiDigit c
  else
    isIdentifierStart c
      || (Grapheme.attachedMarks.contains c.toNat && !Letter.enclosingMarks.contains c.toNat)
      || Grapheme.spacingMarks.contains c.toNat || Letter.decimalDigits.contains c.toNat
      || Letter.connectors.contains c.toNat || Letter.otherContinuations.contains c.toNat

/-- Whether a text is an identifier. -/
def isIdentifier : Text → Bool
  | [] => false
  | c :: rest => isIdentifierStart c && rest.all isIdentifierContinuation

/-! ## Case -/

/-- The character with a given number; the numbers here come from the case tables. -/
def ofNumber (n : Nat) : Char := Char.ofNat n

/-- The small form of a letter; one capital becomes a letter with a mark. -/
def lowerChar (c : Char) : Text :=
  if c.toNat = 0x130 then ['i', ofNumber 0x307] else [ofNumber (Letter.moved Letter.lowering c.toNat)]

/-- The capital form of a letter. -/
def upperChar (c : Char) : Text :=
  match Letter.expansions.lookup c.toNat with
  | some ns => ns.map ofNumber
  | none => [ofNumber (Letter.moved Letter.raising c.toNat)]

/-- The form of a letter at the beginning of a word. -/
def titleChar (c : Char) : Text :=
  match Letter.titleExpansions.lookup c.toNat with
  | some ns => ns.map ofNumber
  | none =>
    if Letter.titling.any fun r => r.contains c.toNat then
      [ofNumber (Letter.moved Letter.titling c.toNat)]
    else upperChar c

/-- Whether a character is a small, capital or title letter. -/
def isCased (c : Char) : Bool :=
  lowerChar c != [c] || upperChar c != [c] || Letter.fixedCase.contains c.toNat

/-- Whether case is read through a character, as if it were not there. -/
def isCaseIgnorable (c : Char) : Bool :=
  Grapheme.attachedMarks.contains c.toNat || Letter.ignorable.contains c.toNat

/-- Whether a cased letter comes next, behind characters that case is read through. -/
def startsCased : Text → Bool
  | [] => false
  | c :: rest => if isCaseIgnorable c then startsCased rest else isCased c

/-- Whether a text ends with a cased letter, in front of characters that case is read through, if
its last character is the given one and the text before that one ends so or not. -/
def endsCased (before : Bool) (c : Char) : Bool := if isCaseIgnorable c then before else isCased c

/-- The small form of a letter in its place: the capital sigma has a form of its own at the end of
a word.  `before` says whether the text in front of it ends cased. -/
def lowerAt (before : Bool) (c : Char) (rest : Text) : Text :=
  if c = 'Σ' ∧ before ∧ !startsCased rest then ['ς'] else lowerChar c

/-- A text in small letters, read behind a text that ends cased or not. -/
def lowerFrom (before : Bool) : Text → Text
  | [] => []
  | c :: rest => lowerAt before c rest ++ lowerFrom (endsCased before c) rest

/-- The text in small letters. -/
def lower (t : Text) : Text := lowerFrom false t

/-- The text in capital letters. -/
def upper (t : Text) : Text := t.flatMap upperChar

/-- A text with words that begin with a capital letter, read behind a text that ends cased or not;
`inWord` says whether its last character is cased. -/
def titleFrom (before inWord : Bool) : Text → Text
  | [] => []
  | c :: rest =>
    (if inWord then lowerAt before c rest else titleChar c)
      ++ titleFrom (endsCased before c) (isCased c) rest

/-- The text with a capital first letter and small letters behind it. -/
def capitalized (t : Text) : Text := titleFrom false false t

end DatePattern.Text
