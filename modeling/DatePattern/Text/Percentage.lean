/-
  Percentages with two decimals.

  The share of a part in a whole is taken to 53 binary digits, multiplied by a hundred to 53 binary
  digits again, and written with two decimals.  Each rounding is to nearest, and a half goes to the
  even neighbour.
-/
import DatePattern.Text.Decimal

namespace DatePattern.Text

/-- The whole number nearest to a quotient; a half goes to the even neighbour. -/
def roundDiv (n d : Nat) : Nat :=
  let q := n / d
  let r := n % d
  if 2 * r < d then q
  else if d < 2 * r then q + 1
  else if q % 2 = 0 then q
  else q + 1

/-- A number that is a whole significand over a power of two. -/
structure Dyadic where
  significand : Nat
  scale : Nat
  deriving DecidableEq, Repr

/-- A positive quotient of at most some dozens to 53 binary digits. -/
def Dyadic.ofQuotient (n d : Nat) : Dyadic :=
  let rough := 52 + d.log2 - n.log2
  let scale := if n <<< rough < d <<< 52 then rough + 1 else rough
  ⟨roundDiv (n <<< scale) d, scale⟩

/-- The hundredths of a percentage: how many of ten thousand parts of the whole. -/
def hundredths (part whole : Nat) : Nat :=
  if part = 0 ∨ whole = 0 then 0
  else
    let share := Dyadic.ofQuotient part whole
    let percent := Dyadic.ofQuotient (share.significand * 100) (1 <<< share.scale)
    roundDiv (percent.significand * 100) (1 <<< percent.scale)

/-- The share of a part in a whole in percent, with two decimals. -/
def percentage (part whole : Nat) : Text :=
  let h := hundredths part whole
  ofNat (h / 100) ++ '.' :: zeroPadded 2 (h % 100)

end DatePattern.Text
