/-
  Tokenizers: symbol names made ready for scanning, and the loop that scans.

  The words of the names are kept by their first cluster, the longest first, so that the first one
  that the pattern goes on with is the longest.  The loop moves a cursor over the pattern.  Literal
  clusters wait until a symbol or the end of the pattern comes, and then become one token.

  * `Alphabet.lookup_index`: the words kept under a cluster.
  * `Alphabet.pairwise_ranked`: the longer ones come first.
-/
import DatePattern.Pattern.Cursor
import DatePattern.Pattern.Scan
import DatePattern.Text.Order

namespace DatePattern

open Text

namespace Alphabet

/-- The order of words by code point, cluster by cluster. -/
def compareWords : List Text → List Text → Ordering :=
  List.compareLex (List.compareLex (compareOn Char.toNat))

/-- Whether a word may stand before another one: the one with more clusters does, and of two equally
long ones that which comes first by code point. -/
def ranks (w v : List Text) : Bool :=
  if w.length = v.length then (compareWords w v).isLE else decide (v.length < w.length)

/-- The words that begin with a cluster, the longest first. -/
def ranked (a : Alphabet) (first : Text) : List (List Text) :=
  (a.filter fun w => w.head? = some first).mergeSort ranks

/-- The words by their first cluster. -/
def index (a : Alphabet) : List (Text × List (List Text)) :=
  (distinct (a.filterMap List.head?)).map fun first => (first, a.ranked first)

instance : Std.TransCmp compareWords :=
  inferInstanceAs (Std.TransCmp (List.compareLex (List.compareLex (compareOn Char.toNat))))

theorem compareWords_total (w v : List Text) :
    (compareWords w v).isLE = true ∨ (compareWords v w).isLE = true := by
  have hswap : compareWords v w = (compareWords w v).swap := Std.OrientedCmp.eq_swap
  rw [hswap]
  cases compareWords w v <;> decide

theorem ranks_total (w v : List Text) : (ranks w v || ranks v w) = true := by
  rw [Bool.or_eq_true]
  unfold ranks
  by_cases h : w.length = v.length
  · rw [if_pos h, if_pos h.symm]
    exact compareWords_total w v
  · simp only [h, Ne.symm h, if_false, decide_eq_true_eq]
    omega

theorem length_le_of_ranks {w v : List Text} (h : ranks w v = true) : v.length ≤ w.length := by
  unfold ranks at h
  split at h
  · omega
  · rw [decide_eq_true_eq] at h
    omega

theorem ranks_trans (u v w : List Text) (huv : ranks u v = true) (hvw : ranks v w = true) :
    ranks u w = true := by
  have h₁ := length_le_of_ranks huv
  have h₂ := length_le_of_ranks hvw
  unfold ranks at huv hvw ⊢
  by_cases h : u.length = w.length
  · have huv' : u.length = v.length := by omega
    have hvw' : v.length = w.length := by omega
    rw [if_pos huv'] at huv
    rw [if_pos hvw'] at hvw
    rw [if_pos h]
    exact Std.TransCmp.isLE_trans huv hvw
  · rw [if_neg h, decide_eq_true_eq]
    omega

theorem mem_ranked {a : Alphabet} {first : Text} {w : List Text} :
    w ∈ a.ranked first ↔ w ∈ a ∧ w.head? = some first := by
  rw [ranked, List.mem_mergeSort, List.mem_filter, decide_eq_true_eq]

theorem pairwise_ranked (a : Alphabet) (first : Text) :
    (a.ranked first).Pairwise fun w v => v.length ≤ w.length :=
  (List.pairwise_mergeSort ranks_trans ranks_total _).imp length_le_of_ranks

theorem lookup_index (a : Alphabet) (first : Text) :
    (a.index.lookup first).getD [] = a.ranked first := by
  rw [index, lookup_map_mk]
  split
  · rfl
  · rename_i hfirst
    have hnone : a.filter (fun w => w.head? = some first) = [] := by
      rw [List.filter_eq_nil_iff]
      intro w hw hhead
      rw [decide_eq_true_eq] at hhead
      exact hfirst (mem_distinct.mpr (List.mem_filterMap.mpr ⟨w, hw, hhead⟩))
    rw [ranked, hnone, List.mergeSort_nil, Option.getD_none]

end Alphabet

/-- Symbol names made ready for scanning. -/
structure Tokenizer where
  /-- The names, each once. -/
  names : List Text
  /-- The words of the names by first cluster, the longest first. -/
  candidates : List (Text × List (List Text))
  names_ne_nil : ∀ n ∈ names, n ≠ []
  candidates_eq : candidates = (Alphabet.ofNames names).index

namespace Tokenizer

/-- The tokenizer for some names, unless one of them is empty. -/
def ofNames? (names : List Text) : Option Tokenizer :=
  if h : ∀ n ∈ names, n ≠ [] then
    some ⟨distinct names, (Alphabet.ofNames (distinct names)).index,
      fun n hn => h n (mem_distinct.mp hn), rfl⟩
  else none

/-- The longest word at the cursor, if any is there. -/
def longestMatch? (t : Tokenizer) (c : Cursor) : Except Cursor.Fault (Option (List Text)) := do
  let first ← c.current
  return ((t.candidates.lookup first).getD []).find? c.startsWith

/-- How far the loop has come. -/
structure Progress where
  cursor : Cursor
  /-- The literal clusters behind the last token. -/
  pending : List Text := []
  tokens : List Token := []
  deriving DecidableEq, Repr

namespace Progress

/-- The loop before the first cluster of a pattern. -/
def start (pattern : Text) : Progress := { cursor := .ofText pattern }

/-- The tokens, with one for the pending clusters if there are any. -/
def settled (s : Progress) : List Token :=
  if s.pending.isEmpty then s.tokens else s.tokens ++ [.literal s.pending.flatten]

/-- Take a literal cluster and move on. -/
def addLiteral (s : Progress) (cluster : Text) (count : Nat) : Progress :=
  { s with pending := s.pending ++ [cluster], cursor := s.cursor.advance count }

/-- Take the word of a symbol and move behind it. -/
def addSymbol (s : Progress) (word : List Text) : Progress :=
  { cursor := s.cursor.advance word.length, tokens := s.settled ++ [.symbol word.flatten] }

end Progress

/-- One step of the loop. -/
def step (t : Tokenizer) (s : Progress) : Except Cursor.Fault Progress := do
  let cluster ← s.cursor.current
  if cluster = escapeCluster then
    match ← s.cursor.peek 1 with
    | none => return s.addLiteral cluster 1
    | some escaped => return s.addLiteral escaped 2
  else
    match ← t.longestMatch? s.cursor with
    | none => return s.addLiteral cluster 1
    | some word => return s.addSymbol word

/-- The loop until the cursor is at the end, but for so many steps at most. -/
def runFor (t : Tokenizer) : Nat → Progress → Except Cursor.Fault Progress
  | 0, s => .ok s
  | most + 1, s =>
    if s.cursor.isAtEnd then .ok s
    else do
      let s ← t.step s
      t.runFor most s

/-- The tokens of a pattern.  One step for each cluster is enough. -/
def tokenize (t : Tokenizer) (pattern : Text) : Except Cursor.Fault (List Token) :=
  Progress.settled <$> t.runFor (graphemes pattern).length (.start pattern)

theorem ofNames?_eq_none_iff {names : List Text} : ofNames? names = none ↔ [] ∈ names := by
  unfold ofNames?
  split
  · rename_i h
    simpa using fun hmem => h [] hmem rfl
  · rename_i h
    simpa using h

end Tokenizer

end DatePattern
