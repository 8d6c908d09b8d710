/-
  Cutting texts at a separator, and trimming blanks from their ends.

  `fields_ne_nil` says that cutting yields at least one field.  `trim` removes the Unicode blanks
  from both ends: a text that neither begins nor ends with a blank is its own trimming.
-/
import DatePattern.Text.CodePoints

namespace DatePattern.Text

/-- The pieces of a text between the occurrences of a separator. -/
def fields (separator : Char) : Text → List Text
  | [] => [[]]
  | c :: rest =>
    if c = separator then [] :: fields separator rest
    else
      match fields separator rest with
      | [] => [[c]]
      | field :: others => (c :: field) :: others

/-- The pieces of a text between its blank lines: two line feeds next to each other, found from the
left. -/
def paragraphs : Text → List Text
  | [] => [[]]
  | '\n' :: '\n' :: rest => [] :: paragraphs rest
  | c :: rest =>
    match paragraphs rest with
    | [] => [[c]]
    | piece :: others => (c :: piece) :: others

/-- The text up to the first occurrence of a character, or all of it. -/
def upTo (stop : Char) (t : Text) : Text := t.takeWhile (· ≠ stop)

/-- The text behind the first occurrence of a character, if it occurs. -/
def behind? (mark : Char) (t : Text) : Option Text :=
  match t.dropWhile (· ≠ mark) with
  | [] => none
  | _ :: rest => some rest

theorem fields_ne_nil (separator : Char) (t : Text) : fields separator t ≠ [] := by
  cases t with
  | nil => simp [fields]
  | cons c rest =>
    simp only [fields]
    split
    · simp
    · split <;> simp

/-! ## Blanks -/

/-- The characters with the Unicode property White_Space, and the four information separators
U+001C to U+001F. -/
def blanks : CodePoints :=
  [(0x9, 0xD), (0x1C, 0x20), (0x85, 0x85), (0xA0, 0xA0), (0x1680, 0x1680), (0x2000, 0x200A),
   (0x2028, 0x2029), (0x202F, 0x202F), (0x205F, 0x205F), (0x3000, 0x3000)]

/-- Whether a character is a blank. -/
def isBlank (c : Char) : Bool := blanks.contains c.toNat

/-- The text without the blanks at its beginning. -/
def trimStart (t : Text) : Text := t.dropWhile isBlank

/-- The text without the blanks at its end. -/
def trimEnd (t : Text) : Text := (t.reverse.dropWhile isBlank).reverse

/-- The text without the blanks at both ends. -/
def trim (t : Text) : Text := trimEnd (trimStart t)

/-! ## Positions -/

/-- The characters that end a line. -/
def isLineBreak (c : Char) : Bool :=
  CodePoints.contains
    [(0xA, 0xD), (0x1C, 0x1E), (0x85, 0x85), (0x2028, 0x2029)] c.toNat

/-- The line and column reached behind a text that begins at the given ones; a carriage return
and a line feed end one line together. -/
def positionFrom (line column : Nat) : Text → Nat × Nat
  | [] => (line, column)
  | '\r' :: '\n' :: rest => positionFrom (line + 1) 1 rest
  | c :: rest =>
    if isLineBreak c then positionFrom (line + 1) 1 rest else positionFrom line (column + 1) rest

/-- The line and column, counted from one, of the character that follows a text. -/
def positionAfter (t : Text) : Nat × Nat := positionFrom 1 1 t

end DatePattern.Text
