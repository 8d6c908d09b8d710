/-
  Diagnostics laid out for people and for tools.

  A layout is either the detailed form with indented lines for the symbol and the hint, the one
  line form, or a JSON object.  A style may cut long content; the detailed form cuts hints only.
  Several diagnostics stand apart by a blank line.
-/
import DatePattern.Diagnostic.Basic
import DatePattern.Text.Json

namespace DatePattern

open Text

namespace Report

/-- The layouts of a diagnostic. -/
inductive Layout where
  /-- A headline, then indented lines for the symbol and the hint. -/
  | detailed
  /-- One line with the code and the message. -/
  | brief
  /-- A JSON object. -/
  | json
  deriving DecidableEq, Repr

/-- The layouts in order of preference. -/
def Layout.all : List Layout := [.detailed, .brief, .json]

/-- The name of a layout in settings. -/
def Layout.name : Layout → Text
  | .detailed => "rust".toList
  | .brief => "simple".toList
  | .json => "json".toList

/-- How diagnostics are laid out. -/
structure Style where
  layout : Layout := .detailed
  /-- Whether long content is cut. -/
  sanitize : Bool := false
  /-- How much content is kept; below zero, how much is cut from the end. -/
  limit : Int := 100
  deriving DecidableEq, Repr

/-- The characters kept of a text: those before the limit, which counts from the end below
zero. -/
def keep (limit : Int) (t : Text) : Text :=
  t.take (if limit < 0 then limit + t.length else limit).toNat

/-- Cut a text that is longer than the limit, if the style cuts at all. -/
def Style.cut (s : Style) (t : Text) : Text :=
  if s.sanitize ∧ s.limit < t.length then keep s.limit t ++ "...".toList else t

theorem Style.cut_of_not_sanitize {s : Style} (h : s.sanitize = false) (t : Text) :
    s.cut t = t := by
  simp [Style.cut, h]

theorem Style.cut_of_short {s : Style} {t : Text} (h : (t.length : Int) ≤ s.limit) :
    s.cut t = t := by
  simp [Style.cut, Int.not_lt.mpr h]

/-- A field of a diagnostic that is given and not empty. -/
def shown? : Option Text → Option Text
  | some [] => none
  | field => field

/-- The detailed form, line by line. -/
def detailedLines (s : Style) (d : Diagnostic) : List Text :=
  (d.severity.name ++ '[' :: d.code.name ++ "]: ".toList ++ d.message)
    :: ((shown? d.symbol).map fun symbol => "  = symbol: ".toList ++ symbol).toList
    ++ ((shown? d.hint).map fun hint => "  = help: ".toList ++ s.cut hint).toList

/-- The one line form. -/
def brief (s : Style) (d : Diagnostic) : Text := d.code.name ++ ": ".toList ++ s.cut d.message

/-- The members of the JSON object, in order. -/
def members (s : Style) (d : Diagnostic) : List (Text × Json.Scalar) :=
  [("code".toList, .text d.code.name),
   ("code_value".toList, .number d.code.value),
   ("message".toList, .text (s.cut d.message)),
   ("severity".toList, .text d.severity.name)]
    ++ ((shown? d.symbol).map fun symbol => ("symbol".toList, .text symbol)).toList
    ++ ((shown? d.hint).map fun hint => ("hint".toList, .text (s.cut hint))).toList

/-- A diagnostic in a style. -/
def render (s : Style) (d : Diagnostic) : Text :=
  match s.layout with
  | .detailed => List.intercalate ['\n'] (detailedLines s d)
  | .brief => brief s d
  | .json => Json.object (members s d)

/-- Several diagnostics in a style, with a blank line between each two. -/
def renderAll (s : Style) (ds : List Diagnostic) : Text :=
  List.intercalate ['\n', '\n'] (ds.map (render s))

end Report

/-- A diagnostic in the detailed form, uncut. -/
def Diagnostic.describe (d : Diagnostic) : Text := Report.render {} d

end DatePattern
