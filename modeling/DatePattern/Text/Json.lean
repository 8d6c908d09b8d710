/-
  Flat JSON objects, written and read.

  A string escapes quotes, backslashes and the characters below the space, and writes all else as
  it stands.  An object lists its members in order, with a blank behind each comma and colon.

  `readObject?` reads any JSON object of strings and natural numbers: with space between its parts,
  with every escape, and with characters given by surrogate pairs.  It refuses what JSON refuses,
  such as a control character that stands for itself in a string, and values of other kinds.
-/
import DatePattern.Text.Decimal
import DatePattern.Text.Escape

namespace DatePattern.Text.Json

/-- A value that is no container. -/
inductive Scalar where
  | text (t : Text)
  | number (n : Nat)
  deriving DecidableEq, Repr

/-! ## Writing -/

/-- A character inside a string. -/
def stringChar (c : Char) : Text :=
  if c = '"' then ['\\', '"']
  else if c = '\\' then ['\\', '\\']
  else if c = '\n' then ['\\', 'n']
  else if c = '\r' then ['\\', 'r']
  else if c = '\t' then ['\\', 't']
  else if c.toNat = 0xC then ['\\', 'f']
  else if c.toNat = 0x8 then ['\\', 'b']
  else if c.toNat < 0x20 then '\\' :: 'u' :: hexDigits 4 c.toNat
  else [c]

/-- A string. -/
def string (t : Text) : Text := '"' :: t.flatMap stringChar ++ ['"']

/-- The written form of a value. -/
def Scalar.written : Scalar → Text
  | .text t => string t
  | .number n => ofNat n

/-- A member of an object. -/
def member (m : Text × Scalar) : Text := string m.1 ++ ':' :: ' ' :: m.2.written

/-- An object with the members in order. -/
def object (ms : List (Text × Scalar)) : Text :=
  '{' :: List.intercalate [',', ' '] (ms.map member) ++ ['}']

/-! ## Reading -/

/-- The characters that may stand between the parts of an object. -/
def spaces : List Char := [' ', '\t', '\n', '\r']

/-- The text behind the space in front of it. -/
def skipSpace (t : Text) : Text := t.dropWhile fun c => spaces.contains c

/-- The number given by four hexadecimal digits of either case, and the rest. -/
def takeUnit? (t : Text) : Option (Nat × Text) :=
  (takeHex? 4 0 ((t.take 4).map Char.toLower)).map fun (n, _) => (n, t.drop 4)

/-- The second half of a character that is given by a surrogate pair, and the rest. -/
def takeTrail? : Text → Option (Nat × Text)
  | '\\' :: 'u' :: rest =>
    (takeUnit? rest).filter fun (n, _) => decide (0xDC00 ≤ n ∧ n < 0xE000)
  | _ => none

/-- A character given by number, or by the two numbers of a surrogate pair, read behind the mark in
front of the first one. -/
def takeNumbered? (t : Text) : Option (Char × Text) :=
  (takeUnit? t).bind fun (n, rest) =>
    if 0xD800 ≤ n ∧ n < 0xDC00 then
      (takeTrail? rest).bind fun (m, rest) =>
        (scalar? (0x10000 + 0x400 * (n - 0xD800) + (m - 0xDC00))).map fun c => (c, rest)
    else (scalar? n).map fun c => (c, rest)

/-- The character that an escape stands for, read behind its backslash, and the rest. -/
def takeEscape? : Text → Option (Char × Text)
  | '"' :: rest => some ('"', rest)
  | '\\' :: rest => some ('\\', rest)
  | '/' :: rest => some ('/', rest)
  | 'n' :: rest => some ('\n', rest)
  | 'r' :: rest => some ('\r', rest)
  | 't' :: rest => some ('\t', rest)
  | 'f' :: rest => some (Char.ofNat 0xC, rest)
  | 'b' :: rest => some (Char.ofNat 0x8, rest)
  | 'u' :: rest => takeNumbered? rest
  | _ => none

/-- A character inside a string, and the rest. -/
def takeChar? : Text → Option (Char × Text)
  | [] => none
  | c :: rest =>
    if c = '\\' then takeEscape? rest
    else if c = '"' ∨ c.toNat < 0x20 then none
    else some (c, rest)

/-- The characters of a string up to its closing quote, and the rest behind the quote; each of at
most `fuel` steps reads one character. -/
def takeStringTail? : Nat → Text → Option (Text × Text)
  | 0, _ => none
  | _ + 1, '"' :: rest => some ([], rest)
  | fuel + 1, t =>
    (takeChar? t).bind fun (c, rest) =>
      (takeStringTail? fuel rest).map fun (s, rest) => (c :: s, rest)

/-- A string at the head of a text, and the rest. -/
def takeString? : Text → Option (Text × Text)
  | '"' :: rest => takeStringTail? rest.length rest
  | _ => none

/-- A natural number at the head of a text, without leading zeros, and the rest. -/
def takeNumber? (t : Text) : Option (Nat × Text) :=
  let digits := t.takeWhile fun c => (digit? c).isSome
  ((toNat? digits).filter fun n => decide (ofNat n = digits)).map fun n =>
    (n, t.drop digits.length)

/-- A value at the head of a text, and the rest. -/
def takeValue? (t : Text) : Option (Scalar × Text) :=
  match t with
  | '"' :: _ => (takeString? t).map fun (s, rest) => (.text s, rest)
  | _ => (takeNumber? t).map fun (n, rest) => (.number n, rest)

/-- A member at the head of a text, and the rest behind the space that follows it. -/
def takeMember? (t : Text) : Option ((Text × Scalar) × Text) :=
  (takeString? t).bind fun (name, rest) =>
    match skipSpace rest with
    | ':' :: rest =>
      (takeValue? (skipSpace rest)).map fun (value, rest) => ((name, value), skipSpace rest)
    | _ => none

/-- The members of an object up to its closing brace, behind which there is only space; each of at
most `fuel` steps reads one member. -/
def readMembers? : Nat → Text → Option (List (Text × Scalar))
  | 0, _ => none
  | fuel + 1, t =>
    (takeMember? t).bind fun (m, rest) =>
      match rest with
      | '}' :: rest => if skipSpace rest = [] then some [m] else none
      | ',' :: rest => (readMembers? fuel (skipSpace rest)).map (m :: ·)
      | _ => none

/-- The members of the object that is the whole text, in order. -/
def readObject? (t : Text) : Option (List (Text × Scalar)) :=
  match skipSpace t with
  | '{' :: rest =>
    match skipSpace rest with
    | '}' :: rest => if skipSpace rest = [] then some [] else none
    | rest => readMembers? rest.length rest
  | _ => none

example : readObject? "\x7b \"a\" : \"\\u00E9\\/\\ud83d\\ude00\", \"b\":12 \x7d\n".toList =
    some [(['a'], .text ['é', '/', '😀']), (['b'], .number 12)] := by decide

end DatePattern.Text.Json
