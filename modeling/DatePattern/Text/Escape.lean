/-
  Backslash escapes of double-quoted text.

  `escape` writes a text as the inside of a double-quoted string: a quote or backslash behind a
  backslash, an unprintable character by its number, all else as it stands.  `readEscaped?` reads
  such a text back.  Escaping works character by character (`escape_append`).
-/
import DatePattern.Text.Printable

namespace DatePattern.Text

/-! ## Writing -/

/-- The lower-case hexadecimal digit of a number below sixteen. -/
def hexDigit (n : Nat) : Char :=
  if n < 10 then Char.ofNat ('0'.toNat + n) else Char.ofNat ('a'.toNat + (n - 10))

/-- The last `width` hexadecimal digits of a number. -/
def hexDigits : Nat → Nat → Text
  | 0, _ => []
  | width + 1, n => hexDigits width (n / 16) ++ [hexDigit (n % 16)]

/-- A character by its number, in the shortest of the forms with two, four and eight digits. -/
def numericEscape (c : Char) : Text :=
  if c.toNat ≤ 0xFF then '\\' :: 'x' :: hexDigits 2 c.toNat
  else if c.toNat ≤ 0xFFFF then '\\' :: 'u' :: hexDigits 4 c.toNat
  else '\\' :: 'U' :: hexDigits 8 c.toNat

/-- A character inside a double-quoted string, where `printable` says which ones stand as
themselves. -/
def escapeCharWith (printable : Char → Bool) (c : Char) : Text :=
  if c = '\\' then ['\\', '\\']
  else if c = '"' then ['\\', '"']
  else if printable c then [c]
  else numericEscape c

/-- A character inside a double-quoted string. -/
def escapeChar (c : Char) : Text := escapeCharWith isPrintable c

/-- A text as the inside of a double-quoted string. -/
def escape (t : Text) : Text := t.flatMap escapeChar

theorem escape_cons (c : Char) (t : Text) : escape (c :: t) = escapeChar c ++ escape t := rfl

theorem escape_append (s t : Text) : escape (s ++ t) = escape s ++ escape t := by
  simp [escape]

theorem length_hexDigits (width n : Nat) : (hexDigits width n).length = width := by
  induction width generalizing n with
  | zero => rfl
  | succ width ih => simp [hexDigits, ih]

/-! ## Reading -/

/-- The value of a lower-case hexadecimal digit. -/
def hexValue? (c : Char) : Option Nat :=
  if '0' ≤ c ∧ c ≤ '9' then some (c.toNat - '0'.toNat)
  else if 'a' ≤ c ∧ c ≤ 'f' then some (c.toNat - 'a'.toNat + 10)
  else none

/-- The value of exactly `width` hexadecimal digits on top of those read before, and the rest. -/
def takeHex? : Nat → Nat → Text → Option (Nat × Text)
  | 0, n, t => some (n, t)
  | _ + 1, _, [] => none
  | width + 1, n, c :: rest => (hexValue? c).bind fun d => takeHex? width (16 * n + d) rest

/-- The character of a number, unless the number is a surrogate or too large. -/
def scalar? (n : Nat) : Option Char :=
  if n.isValidChar then some (Char.ofNat n) else none

/-- A character given by `width` hexadecimal digits, and the rest. -/
def takeScalar? (width : Nat) (t : Text) : Option (Char × Text) := do
  let (n, rest) ← takeHex? width 0 t
  let c ← scalar? n
  return (c, rest)

/-- The character that an escape stands for, read behind its backslash, and the rest. -/
def takeEscape? : Text → Option (Char × Text)
  | '\\' :: rest => some ('\\', rest)
  | '"' :: rest => some ('"', rest)
  | 'x' :: rest => takeScalar? 2 rest
  | 'u' :: rest => takeScalar? 4 rest
  | 'U' :: rest => takeScalar? 8 rest
  | _ => none

/-- Read the inside of a double-quoted string; each of at most `fuel` steps reads one character. -/
def readEscapedWithin? : Nat → Text → Option Text
  | _, [] => some []
  | 0, _ :: _ => none
  | fuel + 1, c :: rest =>
    if c = '\\' then
      (takeEscape? rest).bind fun (d, rest) => (readEscapedWithin? fuel rest).map (d :: ·)
    else if c = '"' then none
    else (readEscapedWithin? fuel rest).map (c :: ·)

/-- The text whose escaped form is given; none for a bare quote or an unknown escape. -/
def readEscaped? (t : Text) : Option Text := readEscapedWithin? t.length t

end DatePattern.Text
