/-
  ASCII letters and digits by number, and what the characters of identifiers are told from.
-/
import DatePattern.Text.Fields
import DatePattern.Text.Letter

namespace DatePattern.Text

theorem isAsciiLetter_iff {c : Char} : isAsciiLetter c = true ↔
    (97 ≤ c.toNat ∧ c.toNat ≤ 122) ∨ (65 ≤ c.toNat ∧ c.toNat ≤ 90) := by
  simp only [isAsciiLetter, Bool.or_eq_true, Bool.and_eq_true, decide_eq_true_eq, Char.le_def,
    UInt32.le_iff_toNat_le]
  exact Iff.rfl

theorem isAsciiDigit_iff {c : Char} : isAsciiDigit c = true ↔ 48 ≤ c.toNat ∧ c.toNat ≤ 57 := by
  simp only [isAsciiDigit, Bool.and_eq_true, decide_eq_true_eq, Char.le_def,
    UInt32.le_iff_toNat_le]
  exact Iff.rfl

/-- A letter, digit or underscore of ASCII. -/
def isWordChar (c : Char) : Bool := isAsciiLetter c || c == '_' || isAsciiDigit c

theorem isWordChar_iff {c : Char} : isWordChar c = true ↔
    ((97 ≤ c.toNat ∧ c.toNat ≤ 122) ∨ (65 ≤ c.toNat ∧ c.toNat ≤ 90)) ∨ c.toNat = 95 ∨
      (48 ≤ c.toNat ∧ c.toNat ≤ 57) := by
  have hline : c = '_' ↔ c.toNat = 95 :=
    ⟨fun h => by rw [h]; rfl, fun h => Char.toNat_inj.mp h⟩
  rw [isWordChar, Bool.or_eq_true, Bool.or_eq_true, isAsciiLetter_iff, isAsciiDigit_iff,
    beq_iff_eq, hline, or_assoc]

theorem isWordChar_of_isAsciiLetter {c : Char} (h : isAsciiLetter c = true) :
    isWordChar c = true := by
  rw [isWordChar, h]
  rfl

/-- A character that is told from all of these by its number. -/
theorem ne_of_isWordChar {c d : Char} (h : isWordChar c = true) (hd : isWordChar d = false) :
    c ≠ d := by
  rintro rfl
  rw [h] at hd
  cases hd

theorem not_isLineBreak_of_isWordChar {c : Char} (h : isWordChar c = true) :
    isLineBreak c = false := by
  have hc := isWordChar_iff.mp h
  cases hl : isLineBreak c with
  | false => rfl
  | true =>
    obtain ⟨r, hr, hrange⟩ := CodePoints.contains_iff.mp hl
    simp only [List.mem_cons, List.not_mem_nil, or_false] at hr
    rcases hr with rfl | rfl | rfl | rfl <;> omega

/-! ## Identifiers -/

theorem isIdentifierContinuation_of_isIdentifierStart {c : Char}
    (h : isIdentifierStart c = true) : isIdentifierContinuation c = true := by
  unfold isIdentifierContinuation
  split
  · rename_i hsmall
    rw [isIdentifierStart, if_pos hsmall] at h
    rw [h]
    rfl
  · simp [h]

theorem isIdentifierContinuation_of_isWordChar {c : Char} (h : isWordChar c = true) :
    isIdentifierContinuation c = true := by
  have hc := isWordChar_iff.mp h
  rw [isIdentifierContinuation, if_pos (by omega)]
  exact h

/-- A character that is told from those of words by being none of them. -/
theorem ne_of_isIdentifierContinuation {c d : Char} (h : isIdentifierContinuation c = true)
    (hd : isIdentifierContinuation d = false) : c ≠ d := by
  rintro rfl
  rw [h] at hd
  cases hd

theorem not_isLineBreak_of_isIdentifierContinuation {c : Char}
    (h : isIdentifierContinuation c = true) : isLineBreak c = false := by
  by_cases hsmall : c.toNat < 0x80
  · rw [isIdentifierContinuation, if_pos hsmall] at h
    exact not_isLineBreak_of_isWordChar h
  cases hl : isLineBreak c with
  | false => rfl
  | true =>
    obtain ⟨r, hr, hrange⟩ := CodePoints.contains_iff.mp hl
    have hbreak : c.toNat = 0x85 ∨ c.toNat = 0x2028 ∨ c.toNat = 0x2029 := by
      simp only [List.mem_cons, List.not_mem_nil, or_false] at hr
      rcases hr with rfl | rfl | rfl | rfl <;> omega
    have hnone : isIdentifierContinuation '\x85' = false ∧
        isIdentifierContinuation '\u2028' = false ∧
        isIdentifierContinuation '\u2029' = false := by decide +kernel
    rcases hbreak with heq | heq | heq
    · exact absurd (Char.toNat_inj.mp heq) (ne_of_isIdentifierContinuation h hnone.1)
    · exact absurd (Char.toNat_inj.mp heq) (ne_of_isIdentifierContinuation h hnone.2.1)
    · exact absurd (Char.toNat_inj.mp heq) (ne_of_isIdentifierContinuation h hnone.2.2)

end DatePattern.Text
