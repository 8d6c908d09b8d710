/-
  Decimal numerals: how integers are written, with and without a minimum width.

  `zeroFilled_of_long` says that padding leaves a numeral alone that is wide enough already, and
  `length_ofNat_le` that a number below ten thousand has four digits at most.
-/
import DatePattern.Text.CodePoints

namespace DatePattern.Text

/-- The decimal numeral of a natural number, without leading zeros. -/
def ofNat (n : Nat) : Text := Nat.toDigits 10 n

/-- The decimal numeral of an integer, with a minus sign below zero. -/
def ofInt : Int → Text
  | .ofNat n => ofNat n
  | .negSucc n => '-' :: ofNat (n + 1)

/-- A text filled on the left with zeros up to a width. -/
def zeroFilled (width : Nat) (t : Text) : Text :=
  List.replicate (width - t.length) '0' ++ t

/-- A natural number filled with zeros up to a width. -/
def zeroPadded (width n : Nat) : Text := zeroFilled width (ofNat n)

/-- An integer filled with zeros up to a width; the minus sign counts and stays in front. -/
def zeroPaddedInt (width : Nat) : Int → Text
  | .ofNat n => zeroPadded width n
  | .negSucc n => '-' :: zeroPadded (width - 1) (n + 1)

theorem zeroFilled_of_long {width : Nat} {t : Text} (h : width ≤ t.length) :
    zeroFilled width t = t := by
  simp [zeroFilled, Nat.sub_eq_zero_of_le h]

theorem zeroPaddedInt_natCast (width n : Nat) : zeroPaddedInt width n = zeroPadded width n := rfl

theorem ofInt_natCast (n : Nat) : ofInt n = ofNat n := rfl

/-! ## Digits -/

/-- A digit more than the number without its last digit has. -/
theorem length_ofNat_le_succ (n : Nat) : (ofNat n).length ≤ (ofNat (n / 10)).length + 1 := by
  by_cases h : n < 10
  · rw [ofNat, Nat.toDigits_of_lt_base h]
    simp
  · rw [ofNat, Nat.toDigits_of_base_le (by decide) (Nat.le_of_not_lt h)]
    simp [ofNat]

theorem length_ofNat_le {n : Nat} (h : n < 10000) : (ofNat n).length ≤ 4 := by
  have hlast : (ofNat (n / 10 / 10 / 10)).length = 1 := by
    rw [ofNat, Nat.toDigits_of_lt_base (by omega)]
    rfl
  have h₁ := length_ofNat_le_succ n
  have h₂ := length_ofNat_le_succ (n / 10)
  have h₃ := length_ofNat_le_succ (n / 10 / 10)
  omega

/-! ## Reading numerals -/

/-- The value of an ASCII digit. -/
def digit? (c : Char) : Option Nat :=
  if '0' ≤ c ∧ c ≤ '9' then some (c.toNat - '0'.toNat) else none

/-- The value of a run of digits, most significant first, on top of the digits read before. -/
def digitsFrom? (n : Nat) : Text → Option Nat
  | [] => some n
  | c :: rest => (digit? c).bind fun d => digitsFrom? (10 * n + d) rest

/-- The value of a numeral; at least one digit and nothing else. -/
def toNat? : Text → Option Nat
  | [] => none
  | t => digitsFrom? 0 t

/-- The value of exactly `k` leading digits, and the rest of the text. -/
def takeDigits? (k : Nat) (t : Text) : Option (Nat × Text) :=
  if k ≤ t.length then (toNat? (t.take k)).map fun n => (n, t.drop k) else none

end DatePattern.Text
