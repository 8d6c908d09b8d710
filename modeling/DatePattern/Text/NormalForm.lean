/-
  Normalization form KC, under which names that differ only in the way they are written are equal.

  A text is taken apart into its compatibility decomposition, runs of marks are sorted by their
  combining classes, and what composes is put together again.  `normalized_of_small` says that a
  text without characters from U+00A0 on is its own normal form.
-/
import DatePattern.Text.Escape
import DatePattern.Text.Fields
import DatePattern.Text.NormalForm.Tables

namespace DatePattern.Text

namespace NormalForm

/-! ## Reading the tables -/

/-- What a table says about the code points of a range. -/
structure Entry where
  first : Nat
  last : Nat
  numbers : List Nat
  deriving DecidableEq, Repr

/-- The value of a hexadecimal numeral. -/
def number (t : Text) : Nat := t.foldl (fun n c => 16 * n + (hexValue? c).getD 0) 0

/-- The entry that a text describes. -/
def Entry.read (t : Text) : Entry :=
  let range := upTo '=' t
  { first := number (upTo '-' range)
    last := number ((behind? '-' range).getD range)
    numbers := (fields '.' ((behind? '=' t).getD [])).map number }

/-- The entries of a table. -/
def entries (rows : List String) : List Entry :=
  rows.flatMap fun row => (fields ' ' row.toList).map Entry.read

/-- Whether an entry is about a code point. -/
def Entry.holds (e : Entry) (cp : Nat) : Bool := e.first ≤ cp && cp ≤ e.last

/-- The decompositions of code points. -/
def decompositions : List Entry := entries decompositionRows

/-- The combining classes of code points. -/
def classes : List Entry := entries classRows

/-- The compositions, by their second code point. -/
def compositions : List Entry := entries compositionRows

/-! ## Taking apart -/

/-- The characters of which a character consists.  Syllables of Hangul are left whole, because
their parts would only come together again. -/
def decompose (c : Char) : Text :=
  if c.toNat < 0xA0 then [c]
  else
    match decompositions.find? fun e => e.holds c.toNat with
    | some e => e.numbers.map fun n => Char.ofNat (n + (c.toNat - e.first))
    | none => [c]

/-! ## Sorting marks -/

/-- The combining class of a character, which is zero for all but marks. -/
def combiningClass (c : Char) : Nat :=
  if c.toNat < 0x300 then 0
  else
    match classes.find? fun e => e.holds c.toNat with
    | some e => e.numbers.headD 0
    | none => 0

/-- Put a character in front of a text, behind the marks there that have a smaller class. -/
def place (c : Char) : Text → Text
  | [] => [c]
  | d :: rest =>
    if 0 < combiningClass d ∧ combiningClass d < combiningClass c then d :: place c rest
    else c :: d :: rest

/-- The text with each run of marks sorted by class; marks of one class keep their order. -/
def reorder (t : Text) : Text := t.foldr place []

/-! ## Putting together -/

/-- The syllable that two parts of Hangul compose to: an initial and a vowel, or a syllable without
a final and a final. -/
def syllable? (a b : Nat) : Option Nat :=
  if 0x1100 ≤ a ∧ a ≤ 0x1112 ∧ 0x1161 ≤ b ∧ b ≤ 0x1175 then
    some (0xAC00 + ((a - 0x1100) * 21 + (b - 0x1161)) * 28)
  else if 0xAC00 ≤ a ∧ a ≤ 0xD7A3 ∧ (a - 0xAC00) % 28 = 0 ∧ 0x11A8 ≤ b ∧ b ≤ 0x11C2 then
    some (a + (b - 0x11A7))
  else none

/-- The second of two neighbours in a list of pairs whose first is the given one. -/
def partner? (a : Nat) : List Nat → Option Nat
  | x :: y :: rest => if x = a then some y else partner? a rest
  | _ => none

/-- The code point that two others compose to. -/
def composite? (a b : Nat) : Option Nat :=
  if b < 0x300 then none
  else
    match syllable? a b with
    | some s => some s
    | none => compositions.findSome? fun e => if e.first = b then partner? a e.numbers else none

/-- Whether a character is cut off from the one before a run of marks, given last mark first. -/
def isBlocked (marks : Text) (c : Char) : Bool :=
  match marks with
  | [] => false
  | m :: _ => combiningClass c ≤ combiningClass m

/-- A text put together, behind a character and a run of marks, given last mark first. -/
def composeFrom (c : Char) (marks : Text) : Text → Text
  | [] => c :: marks.reverse
  | d :: rest =>
    match if isBlocked marks d then none else composite? c.toNat d.toNat with
    | some n => composeFrom (Char.ofNat n) marks rest
    | none =>
      if combiningClass d = 0 then c :: marks.reverse ++ composeFrom d [] rest
      else composeFrom c (d :: marks) rest

/-- The text with what composes put together. -/
def compose : Text → Text
  | [] => []
  | c :: rest => composeFrom c [] rest

end NormalForm

open NormalForm

/-- The text in normalization form KC. -/
def normalized (t : Text) : Text := compose (reorder (t.flatMap decompose))

/-! ## Small characters -/

namespace NormalForm

theorem decompose_of_small {c : Char} (h : c.toNat < 0xA0) : decompose c = [c] := by
  simp [decompose, h]

theorem combiningClass_of_small {c : Char} (h : c.toNat < 0xA0) : combiningClass c = 0 := by
  simp [combiningClass, show c.toNat < 0x300 by omega]

theorem flatMap_decompose_of_small {t : Text} (h : ∀ c ∈ t, c.toNat < 0xA0) :
    t.flatMap decompose = t := by
  induction t with
  | nil => rfl
  | cons c t ih =>
    simp [decompose_of_small (h c List.mem_cons_self),
      ih fun d hd => h d (List.mem_cons_of_mem _ hd)]

theorem place_of_class_zero {c : Char} (h : combiningClass c = 0) (t : Text) :
    place c t = c :: t := by
  cases t with
  | nil => rfl
  | cons d t => simp [place, h]

theorem reorder_of_small {t : Text} (h : ∀ c ∈ t, c.toNat < 0xA0) : reorder t = t := by
  induction t with
  | nil => rfl
  | cons c t ih =>
    have ht := ih fun d hd => h d (List.mem_cons_of_mem _ hd)
    rw [reorder] at ht
    rw [reorder, List.foldr_cons, ht,
      place_of_class_zero (combiningClass_of_small (h c List.mem_cons_self))]

theorem composeFrom_of_small {c : Char} {t : Text} (h : ∀ d ∈ t, d.toNat < 0xA0) :
    composeFrom c [] t = c :: t := by
  induction t generalizing c with
  | nil => rfl
  | cons d t ih =>
    have hd := h d List.mem_cons_self
    have hc : composite? c.toNat d.toNat = none := by
      simp [composite?, show d.toNat < 0x300 by omega]
    simp [composeFrom, isBlocked, hc, combiningClass_of_small hd,
      ih fun e he => h e (List.mem_cons_of_mem _ he)]

end NormalForm

theorem normalized_of_small {t : Text} (h : ∀ c ∈ t, c.toNat < 0xA0) : normalized t = t := by
  rw [normalized, flatMap_decompose_of_small h, reorder_of_small h]
  cases t with
  | nil => rfl
  | cons c t => exact composeFrom_of_small fun d hd => h d (List.mem_cons_of_mem _ hd)

end DatePattern.Text
