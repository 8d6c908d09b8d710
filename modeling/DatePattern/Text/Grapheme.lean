/-
  Grapheme clusters: a text cut into user-perceived characters.

  Boundaries follow the extended grapheme cluster rules on these break properties: a carriage
  return and a line feed stay together and other controls stand alone; Hangul syllables, combining
  marks, pictographs joined by a zero width joiner, and pairs of regional indicators are not cut.

  * `flatten_graphemes`: the clusters are the text, nothing is lost or added.
  * `ne_nil_of_mem_graphemes`: no cluster is empty.
-/
import DatePattern.Text.Grapheme.Tables

namespace DatePattern.Text

/-- The classes of characters that the boundary rules distinguish. -/
inductive BreakProperty where
  | carriageReturn
  | lineFeed
  | control
  | extend
  | joiner
  | regionalIndicator
  | spacingMark
  | leadingJamo
  | vowelJamo
  | trailingJamo
  | openSyllable
  | closedSyllable
  | pictograph
  | other
  deriving DecidableEq, Repr

/-- The class of a Hangul jamo or syllable. -/
def hangulProperty? (cp : Nat) : Option BreakProperty :=
  if CodePoints.contains [(0x1100, 0x115F), (0xA960, 0xA97C)] cp then some .leadingJamo
  else if CodePoints.contains [(0x1160, 0x11A7), (0xD7B0, 0xD7C6)] cp then some .vowelJamo
  else if CodePoints.contains [(0x11A8, 0x11FF), (0xD7CB, 0xD7FB)] cp then some .trailingJamo
  else if 0xAC00 ≤ cp ∧ cp ≤ 0xD7A3 then
    if (cp - 0xAC00) % 28 = 0 then some .openSyllable else some .closedSyllable
  else none

/-- Characters that extend a cluster without being marks: the zero width non-joiner, the emoji
modifiers and the tag characters. -/
def extenders : CodePoints := [(0x200C, 0x200C), (0x1F3FB, 0x1F3FF), (0xE0020, 0xE007F)]

/-- The class of a character. -/
def breakProperty (c : Char) : BreakProperty :=
  let cp := c.toNat
  if c = '\r' then .carriageReturn
  else if c = '\n' then .lineFeed
  else if 0x20 ≤ cp ∧ cp ≤ 0x7E then .other
  else if cp = 0x200D then .joiner
  else if 0x1F1E6 ≤ cp ∧ cp ≤ 0x1F1FF then .regionalIndicator
  else if extenders.contains cp then .extend
  else if Grapheme.attachedMarks.contains cp then .extend
  else if Grapheme.spacingMarks.contains cp then .spacingMark
  else if Grapheme.standaloneControls.contains cp then .control
  else
    match hangulProperty? cp with
    | some p => p
    | none => if Grapheme.pictographs.contains cp then .pictograph else .other

namespace BreakProperty

/-- The properties of characters that stand alone. -/
def isControl : BreakProperty → Bool
  | .carriageReturn | .lineFeed | .control => true
  | _ => false

/-- The properties of characters that join the cluster before them. -/
def attaches : BreakProperty → Bool
  | .extend | .joiner | .spacingMark => true
  | _ => false

/-- Whether a Hangul character continues the syllable that one with the first property began. -/
def continuesSyllable : BreakProperty → BreakProperty → Bool
  | .leadingJamo, .leadingJamo => true
  | .leadingJamo, .vowelJamo => true
  | .leadingJamo, .openSyllable => true
  | .leadingJamo, .closedSyllable => true
  | .openSyllable, .vowelJamo => true
  | .openSyllable, .trailingJamo => true
  | .vowelJamo, .vowelJamo => true
  | .vowelJamo, .trailingJamo => true
  | .closedSyllable, .trailingJamo => true
  | .trailingJamo, .trailingJamo => true
  | _, _ => false

end BreakProperty

/-! ## Boundaries -/

/-- What the text before a candidate boundary says about it. -/
structure BreakContext where
  /-- The property of the last character. -/
  previous : BreakProperty
  /-- Whether the text ends in a pictograph, any extending characters, and then any joiners. -/
  inPictograph : Bool
  /-- How many regional indicators the text ends in. -/
  indicators : Nat
  deriving DecidableEq, Repr

namespace BreakContext

/-- The context behind the first character of a text. -/
def start (p : BreakProperty) : BreakContext where
  previous := p
  inPictograph := p = .pictograph
  indicators := if p = .regionalIndicator then 1 else 0

/-- The context behind one more character. -/
def next (x : BreakContext) (p : BreakProperty) : BreakContext where
  previous := p
  inPictograph :=
    match p with
    | .pictograph => true
    | .extend => x.inPictograph && x.previous ≠ .joiner
    | .joiner => x.inPictograph
    | _ => false
  indicators := if p = .regionalIndicator then x.indicators + 1 else 0

/-- Whether a cluster ends before a character with the given property. -/
def breaksBefore (x : BreakContext) (p : BreakProperty) : Bool :=
  if x.previous = .carriageReturn ∧ p = .lineFeed then false
  else if x.previous.isControl || p.isControl then true
  else if x.previous.continuesSyllable p then false
  else if p.attaches then false
  else if (x.inPictograph && x.previous = .joiner) ∧ p = .pictograph then false
  else if x.previous = .regionalIndicator ∧ p = .regionalIndicator then x.indicators % 2 = 0
  else true

end BreakContext

/-! ## Clusters -/

/-- Cut the rest of a text: what still belongs to the cluster begun, and the clusters after it. -/
def clustersFrom (x : BreakContext) : Text → Text × List Text
  | [] => ([], [])
  | c :: rest =>
    let p := breakProperty c
    let (head, others) := clustersFrom (x.next p) rest
    if x.breaksBefore p then ([], (c :: head) :: others) else (c :: head, others)

/-- The grapheme clusters of a text, in order. -/
def graphemes : Text → List Text
  | [] => []
  | c :: rest =>
    let (head, others) := clustersFrom (.start (breakProperty c)) rest
    (c :: head) :: others

theorem flatten_clustersFrom (x : BreakContext) (t : Text) :
    (clustersFrom x t).1 ++ (clustersFrom x t).2.flatten = t := by
  induction t generalizing x with
  | nil => rfl
  | cons c t ih =>
    have h := ih (x.next (breakProperty c))
    simp only [clustersFrom]
    split <;> simp [h]

theorem flatten_graphemes (t : Text) : (graphemes t).flatten = t := by
  cases t with
  | nil => rfl
  | cons c t =>
    have h := flatten_clustersFrom (.start (breakProperty c)) t
    simp [graphemes, h]

theorem ne_nil_of_mem_clustersFrom {x : BreakContext} {t u : Text}
    (h : u ∈ (clustersFrom x t).2) : u ≠ [] := by
  induction t generalizing x with
  | nil => simp [clustersFrom] at h
  | cons c t ih =>
    simp only [clustersFrom] at h
    split at h
    · rcases List.mem_cons.mp h with rfl | h
      · simp
      · exact ih h
    · exact ih h

theorem ne_nil_of_mem_graphemes {t u : Text} (h : u ∈ graphemes t) : u ≠ [] := by
  cases t with
  | nil => simp [graphemes] at h
  | cons c t =>
    rcases List.mem_cons.mp h with rfl | h
    · simp
    · exact ne_nil_of_mem_clustersFrom h

end DatePattern.Text
