/-
  Texts, and sets of code points.

  A text is a list of Unicode scalar values: every length, position and slice in the library
  counts these.  Lone surrogates are no scalar values, so texts with them are not among the texts
  here; where they are let through, each is a cluster of its own, as a control character is.  A set
  of code points is a list of inclusive ranges, which is how the standard publishes character
  classes; `CodePoints.contains_iff` says what membership means.
-/

namespace DatePattern

/-- A text is the sequence of its Unicode scalar values.  What is said of all texts is said of those
without lone surrogates. -/
abbrev Text := List Char

namespace Text

/-- Texts that are compared as equal are equal. -/
instance lawfulBEq : LawfulBEq Text := inferInstance

/-- A set of code points, written as inclusive ranges. -/
abbrev CodePoints := List (Nat × Nat)

/-- Whether some range of the set holds the code point. -/
def CodePoints.contains (s : CodePoints) (cp : Nat) : Bool :=
  s.any fun r => r.1 ≤ cp && cp ≤ r.2

theorem CodePoints.contains_iff {s : CodePoints} {cp : Nat} :
    s.contains cp = true ↔ ∃ r ∈ s, r.1 ≤ cp ∧ cp ≤ r.2 := by
  simp [CodePoints.contains]

end Text

end DatePattern
