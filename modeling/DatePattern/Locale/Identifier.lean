/-
  Locale identifiers taken apart: language, script, territory, variant and modifier.

  `Identifier.read` cuts a code at underscores and gives each part its usual case;
  `Identifier.written` puts the parts together again.  A code that cannot be taken apart is
  malformed, for one of three reasons.
-/
import DatePattern.Text.Letter
import DatePattern.Text.Quotation
import DatePattern.Text.Fields

namespace DatePattern

open Text

/-- Why a code is no locale identifier. -/
inductive MalformedLocale where
  /-- The code is empty. -/
  | empty
  /-- The language holds something else than letters. -/
  | language (text : Text)
  /-- A part of the code is none of script, territory and variant. -/
  | parts (text : Text)
  deriving DecidableEq, Repr

/-- The wording of a reason. -/
def MalformedLocale.message : MalformedLocale → Text
  | .empty =>
    "Empty locale identifier value: ''\n\nIf you didn't explicitly pass an empty value to a ".toList
      ++ "Babel function, this could be caused by there being no suitable locale environment ".toList
      ++ "variables for the API you tried to use.".toList
  | .language t => "expected only letters, got ".toList ++ quoted t
  | .parts t => quoted t ++ " is not a valid locale identifier".toList

/-- The parts of a locale identifier. -/
structure LocaleIdentifier where
  language : Text
  script : Option Text := none
  territory : Option Text := none
  variant : Option Text := none
  modifier : Option Text := none
  deriving DecidableEq, Repr

namespace LocaleIdentifier

/-- Whether a part consists of letters. -/
def isAlphabetic (t : Text) : Bool := !t.isEmpty && t.all isLetter

/-- Whether a part consists of digits. -/
def isNumeric (t : Text) : Bool := !t.isEmpty && t.all isDigit

/-- A script has four letters. -/
def takeScript : List Text → Option Text × List Text
  | [] => (none, [])
  | part :: rest =>
    if part.length = 4 ∧ isAlphabetic part then (some (capitalized part), rest)
    else (none, part :: rest)

/-- A territory has two letters or three digits. -/
def takeTerritory : List Text → Option Text × List Text
  | [] => (none, [])
  | part :: rest =>
    if part.length = 2 ∧ isAlphabetic part then (some (upper part), rest)
    else if part.length = 3 ∧ isNumeric part then (some part, rest)
    else (none, part :: rest)

/-- Whether a part has the form of a variant: four characters beginning with a digit, or more of
them beginning with a letter. -/
def isVariant : Text → Bool
  | [] => false
  | c :: rest =>
    (rest.length == 3 && isDigit c) || (4 ≤ rest.length && isLetter c)

/-- A variant is the last part. -/
def takeVariant : List Text → Option Text × List Text
  | [part] => if isVariant part then (some (upper part), []) else (none, [part])
  | parts => (none, parts)

/-- The parts of a code. -/
def read (code : Text) : Except MalformedLocale LocaleIdentifier :=
  if code.isEmpty then .error .empty
  else
    let body := upTo '.' (upTo '@' code)
    let modifier := (behind? '@' code).bind fun m => if m.isEmpty then none else some m
    match fields '_' body with
    | [] => .error .empty
    | first :: rest =>
      let language := lower first
      if !isAlphabetic language then .error (.language language)
      else
        let (script, rest) := takeScript rest
        let (territory, rest) := takeTerritory rest
        let (variant, rest) := takeVariant rest
        if rest.isEmpty then .ok { language, script, territory, variant, modifier }
        else .error (.parts body)

/-- The parts joined by underscores, and the modifier behind its sign. -/
def written (i : LocaleIdentifier) : Text :=
  List.intercalate ['_']
      (i.language :: i.script.toList ++ i.territory.toList ++ i.variant.toList)
    ++ ((i.modifier.map fun m => '@' :: m).getD [])

end LocaleIdentifier

end DatePattern
