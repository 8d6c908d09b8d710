/-
  Placeholder texts: `$name` and `$` with a braced name stand for a bound text, `$$` for a dollar
  sign.

  Names are ASCII identifiers; the longest one counts.  `substitute_of_no_dollar` says that a text
  without a dollar sign stands for itself.  Of several faults the leftmost decides.
-/
import DatePattern.Text.Fields
import DatePattern.Text.Letter

namespace DatePattern.Text

/-- What can be wrong with a placeholder text. -/
inductive PlaceholderFault where
  /-- A name that nothing is bound to. -/
  | unbound (name : Text)
  /-- A dollar sign that begins no placeholder, at a line and column counted from one. -/
  | malformed (line column : Nat)
  deriving DecidableEq, Repr

/-- What follows a dollar sign. -/
inductive Placeholder where
  /-- A second dollar sign. -/
  | dollar
  /-- A name to be looked up. -/
  | name (name : Text)
  deriving DecidableEq, Repr

/-- Whether a character may begin a placeholder's name. -/
def beginsName (c : Char) : Bool := isAsciiLetter c || c == '_'

/-- Whether a character may continue a placeholder's name. -/
def continuesName (c : Char) : Bool := beginsName c || isAsciiDigit c

/-- The placeholder behind a dollar sign, and how many characters it takes. -/
def placeholder? : Text → Option (Placeholder × Nat)
  | '$' :: _ => some (.dollar, 1)
  | '{' :: rest =>
    let name := rest.takeWhile continuesName
    match name, rest.drop name.length with
    | c :: _, '}' :: _ => if beginsName c then some (.name name, name.length + 2) else none
    | _, _ => none
  | c :: rest =>
    if beginsName c then
      let name := c :: rest.takeWhile continuesName
      some (.name name, name.length)
    else none
  | [] => none

/-- Substitute in the rest of a text.  `done` holds the characters already passed, last first,
and the next `skip` characters belong to the placeholder just read. -/
def substituteFrom (bindings : List (Text × Text)) (done : Text) :
    Nat → Text → Except PlaceholderFault Text
  | _, [] => .ok []
  | skip + 1, c :: rest => substituteFrom bindings (c :: done) skip rest
  | 0, c :: rest =>
    if c = '$' then
      match placeholder? rest with
      | none =>
        let (line, column) := positionAfter done.reverse
        .error (.malformed line column)
      | some (.dollar, n) => ('$' :: ·) <$> substituteFrom bindings (c :: done) n rest
      | some (.name name, n) =>
        match bindings.lookup name with
        | none => .error (.unbound name)
        | some t => (t ++ ·) <$> substituteFrom bindings (c :: done) n rest
    else (c :: ·) <$> substituteFrom bindings (c :: done) 0 rest

/-- The text with every placeholder replaced by what is bound to its name. -/
def substitute (bindings : List (Text × Text)) (t : Text) : Except PlaceholderFault Text :=
  substituteFrom bindings [] 0 t

theorem substituteFrom_of_no_dollar (bindings : List (Text × Text)) (done t : Text)
    (h : '$' ∉ t) : substituteFrom bindings done 0 t = .ok t := by
  induction t generalizing done with
  | nil => rfl
  | cons c t ih =>
    have hc : c ≠ '$' := fun e => h (e ▸ List.mem_cons_self)
    have ht : '$' ∉ t := fun e => h (List.mem_cons_of_mem _ e)
    rw [substituteFrom, if_neg hc, ih _ ht]
    rfl

theorem substitute_of_no_dollar (bindings : List (Text × Text)) {t : Text} (h : '$' ∉ t) :
    substitute bindings t = .ok t :=
  substituteFrom_of_no_dollar bindings [] t h

end DatePattern.Text
