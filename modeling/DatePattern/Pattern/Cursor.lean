/-
  A cursor over the clusters of a text.

  Positions count clusters and may be stepped back below the first one; a position below zero
  counts from the end.  Moving yields a new cursor and stops at the end of the text.

  A cursor that has never been stepped back is known by the clusters that remain before it
  (`Cursor.remaining`): `peek_eq`, `startsWith_iff` and `remaining_advance` say what reading and
  moving come to.
-/
import DatePattern.Diagnostic.Basic
import DatePattern.Text.Grapheme

namespace DatePattern

open Text

/-- A position in a sequence of clusters. -/
structure Cursor where
  clusters : List Text
  position : Int
  deriving DecidableEq, Repr

/-- What can be wrong with reading at a cursor. -/
inductive Cursor.Fault where
  /-- The cursor stands behind the last cluster. -/
  | atEnd (position : Int)
  /-- The position lies further below zero than there are clusters. -/
  | outOfRange
  /-- The position lies below every number of 64 bits. -/
  | tooFar
  deriving DecidableEq, Repr

/-- The wording of a fault. -/
def Cursor.Fault.message : Cursor.Fault → Text
  | .atEnd position => (Diagnostic.unexpectedEnd position).message
  | .outOfRange => "tuple index out of range".toList
  | .tooFar => "cannot fit 'int' into an index-sized integer".toList

namespace Cursor

/-- The cursor at the beginning of a text. -/
def ofText (t : Text) : Cursor := ⟨graphemes t, 0⟩

/-- How many clusters there are. -/
def size (c : Cursor) : Int := c.clusters.length

/-- Whether every cluster has been passed. -/
def isAtEnd (c : Cursor) : Bool := c.size ≤ c.position

/-- The least signed number of 64 bits. -/
def leastIndex : Int := -0x8000000000000000

/-- The cluster at a position before the end, counted from the end below zero. -/
def clusterAt (c : Cursor) (position : Int) : Except Fault Text :=
  let index := if position < 0 then position + c.size else position
  if position < leastIndex then .error .tooFar
  else if index < 0 then .error .outOfRange
  else
    match c.clusters[index.toNat]? with
    | some cluster => .ok cluster
    | none => .error .outOfRange

/-- The cluster at the cursor. -/
def current (c : Cursor) : Except Fault Text :=
  if c.isAtEnd then .error (.atEnd c.position) else c.clusterAt c.position

/-- The cluster some way ahead of the cursor, if the text reaches that far. -/
def peek (c : Cursor) (offset : Int) : Except Fault (Option Text) :=
  if c.size ≤ c.position + offset then .ok none
  else some <$> c.clusterAt (c.position + offset)

/-- The clusters from one position up to another; a bound below zero counts from the end, and
bounds outside the text are moved to its ends. -/
def between (c : Cursor) (first last : Int) : List Text :=
  let clamp (i : Int) : Nat := min (if i < 0 then i + c.size else i).toNat c.clusters.length
  (c.clusters.take (clamp last)).drop (clamp first)

/-- Whether the clusters from the cursor on begin with the given ones. -/
def startsWith (c : Cursor) (word : List Text) : Bool :=
  let last := c.position + word.length
  decide (last ≤ c.size) && c.between c.position last == word

/-- The cursor moved by some clusters, but not past the end. -/
def advance (c : Cursor) (count : Int) : Cursor :=
  { c with position := min (c.position + count) c.size }

theorem position_advance_le (c : Cursor) (count : Int) : (c.advance count).position ≤ c.size :=
  Int.min_le_right _ _

/-! ## Within the text -/

/-- The clusters from the cursor on. -/
def remaining (c : Cursor) : List Text := c.clusters.drop c.position.toNat

/-- The cursor stands before a cluster or at the end. -/
structure IsInside (c : Cursor) : Prop where
  nonneg : 0 ≤ c.position
  le_size : c.position ≤ c.size

variable {c : Cursor}

theorem isInside_ofText (t : Text) : (ofText t).IsInside :=
  ⟨Int.le_refl 0, Int.natCast_nonneg _⟩

theorem IsInside.advance (h : c.IsInside) (k : Nat) : (c.advance k).IsInside := by
  have hsize : (0 : Int) ≤ c.size := Int.natCast_nonneg _
  have hposition := h.nonneg
  refine ⟨?_, position_advance_le c k⟩
  simp only [Cursor.advance]
  omega

theorem remaining_ofText (t : Text) : (ofText t).remaining = graphemes t := rfl

theorem remaining_advance (h : c.IsInside) (k : Nat) :
    (c.advance k).remaining = c.remaining.drop k := by
  have hposition := h.nonneg
  simp only [remaining, Cursor.advance, size, List.drop_drop]
  by_cases hend : c.position + k ≤ c.clusters.length
  · rw [Int.min_eq_left hend]
    congr 1
    omega
  · rw [List.drop_eq_nil_of_le (by omega), List.drop_eq_nil_of_le (by omega)]

theorem length_remaining (h : c.IsInside) : c.position + c.remaining.length = c.size := by
  have hposition := h.nonneg
  have hsize := h.le_size
  simp only [remaining, size, List.length_drop] at hsize ⊢
  omega

theorem isAtEnd_iff (h : c.IsInside) : c.isAtEnd = true ↔ c.remaining = [] := by
  have hlength := length_remaining h
  rw [isAtEnd, decide_eq_true_iff, ← List.length_eq_zero_iff]
  omega

theorem clusterAt_eq (h : c.IsInside) {k : Nat} {cluster : Text}
    (hk : c.remaining[k]? = some cluster) : c.clusterAt (c.position + k) = .ok cluster := by
  have hposition := h.nonneg
  have hindex : ¬c.position + k < 0 := by omega
  have hleast : ¬c.position + k < leastIndex := by
    have : leastIndex ≤ 0 := by decide
    omega
  have htoNat : (c.position + k).toNat = c.position.toNat + k := by omega
  rw [remaining, List.getElem?_drop] at hk
  simp only [clusterAt, if_neg hindex, if_neg hleast, htoNat, hk]

theorem peek_eq (h : c.IsInside) (k : Nat) : c.peek k = .ok c.remaining[k]? := by
  have hlength := length_remaining h
  unfold peek
  cases hk : c.remaining[k]? with
  | none =>
    have hle : c.remaining.length ≤ k := List.getElem?_eq_none_iff.mp hk
    rw [if_pos (by omega)]
  | some cluster =>
    obtain ⟨hlt, -⟩ := List.getElem?_eq_some_iff.mp hk
    rw [if_neg (by omega), clusterAt_eq h hk]
    rfl

theorem current_eq (h : c.IsInside) {cluster : Text} {rest : List Text}
    (hr : c.remaining = cluster :: rest) : c.current = .ok cluster := by
  have hend : ¬c.isAtEnd = true := by
    rw [isAtEnd_iff h, hr]
    exact List.cons_ne_nil cluster rest
  have hfirst : c.remaining[0]? = some cluster := by
    rw [hr]
    rfl
  rw [current, if_neg hend]
  simpa using clusterAt_eq h hfirst

theorem startsWith_iff (h : c.IsInside) (word : List Text) :
    c.startsWith word = true ↔ word <+: c.remaining := by
  have hposition := h.nonneg
  have hlength := length_remaining h
  have hsize : c.size = c.clusters.length := rfl
  simp only [startsWith, Bool.and_eq_true, decide_eq_true_eq, beq_iff_eq]
  have hbetween : c.position + word.length ≤ c.size →
      c.between c.position (c.position + word.length) = c.remaining.take word.length := by
    intro hle
    have hfirst : ¬c.position < 0 := by omega
    have hlast : ¬c.position + word.length < 0 := by omega
    simp only [between, if_neg hfirst, if_neg hlast]
    rw [Nat.min_eq_left (by omega), Nat.min_eq_left (by omega), List.drop_take, remaining]
    congr 1
    omega
  rw [List.prefix_iff_eq_take]
  constructor
  · rintro ⟨hle, heq⟩
    rw [← hbetween hle, heq]
  · intro heq
    have hle : word.length ≤ c.remaining.length := by
      have := congrArg List.length heq
      rw [List.length_take] at this
      omega
    have hin : c.position + word.length ≤ c.size := by omega
    exact ⟨hin, by rw [hbetween hin, ← heq]⟩

end Cursor

end DatePattern
