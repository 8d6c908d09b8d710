/-
  What a scan reads, step by step.

  Each step of a scan reads one piece of a pattern: an escape with the cluster behind it, an escape
  at the end, the word of a symbol, or any other cluster.  Pieces say more than tokens, which do not
  tell an escaped cluster from one that is literal by itself.

  * `scan_eq_merged`: the tokens are those of the pieces with each run of literals made one.
  * `Tokenizer.runFor_eq_foldl_read`: the loop of a tokenizer reads these pieces, one in each step.
-/
import DatePattern.Proofs.Tokenizing

namespace DatePattern

open Text

/-- What one step of a scan reads. -/
inductive Piece where
  /-- An escape at the end, which is literal. -/
  | dangling
  /-- An escape and the cluster behind it, which is literal. -/
  | escaped (cluster : Text)
  /-- The word of a symbol. -/
  | symbol (word : List Text)
  /-- A cluster that is literal by itself. -/
  | literal (cluster : Text)
  deriving DecidableEq, Repr

namespace Piece

/-- The clusters of a piece. -/
def clusters : Piece → List Text
  | dangling => [escapeCluster]
  | escaped cluster => [escapeCluster, cluster]
  | symbol word => word
  | literal cluster => [cluster]

/-- The token of a piece. -/
def token : Piece → Token
  | dangling => .literal escapeCluster
  | escaped cluster => .literal cluster
  | symbol word => .symbol word.flatten
  | literal cluster => .literal cluster

end Piece

/-- The pieces that a scan reads, where the first `skip` clusters belong to the piece just read. -/
def scanPieces (a : Alphabet) : Nat → List Text → List Piece
  | _, [] => []
  | skip + 1, _ :: rest => scanPieces a skip rest
  | 0, cluster :: rest =>
    if cluster = escapeCluster then
      match rest with
      | [] => [.dangling]
      | next :: _ => .escaped next :: scanPieces a 1 rest
    else
      match a.longestMatch? (cluster :: rest) with
      | none => .literal cluster :: scanPieces a 0 rest
      | some word => .symbol word :: scanPieces a (word.length - 1) rest

/-- The pieces of a pattern over some symbol names. -/
def pieces (names : List Text) (pattern : Text) : List Piece :=
  scanPieces (Alphabet.ofNames names) 0 (graphemes pattern)

/-! ## One step -/

theorem scanPieces_nil (a : Alphabet) : scanPieces a 0 [] = [] := by
  simp [scanPieces]

theorem scanPieces_skip (a : Alphabet) (k : Nat) (clusters : List Text) :
    scanPieces a k clusters = scanPieces a 0 (clusters.drop k) := by
  induction clusters generalizing k with
  | nil => simp [scanPieces]
  | cons c rest ih =>
    cases k with
    | zero => rfl
    | succ k => simpa [scanPieces] using ih k

theorem scanPieces_dangling (a : Alphabet) : scanPieces a 0 [escapeCluster] = [.dangling] := by
  simp [scanPieces]

theorem scanPieces_escape (a : Alphabet) (next : Text) (rest : List Text) :
    scanPieces a 0 (escapeCluster :: next :: rest) = .escaped next :: scanPieces a 0 rest := by
  simp only [scanPieces, if_true]

section Steps

variable {a : Alphabet} {cluster : Text} {word rest : List Text} (hc : cluster ≠ escapeCluster)
include hc

theorem scanPieces_literal (h : a.longestMatch? (cluster :: rest) = none) :
    scanPieces a 0 (cluster :: rest) = .literal cluster :: scanPieces a 0 rest := by
  simp only [scanPieces, if_neg hc, h]

theorem scanPieces_symbol
    (h : a.longestMatch? (cluster :: word ++ rest) = some (cluster :: word)) :
    scanPieces a 0 (cluster :: word ++ rest) =
      .symbol (cluster :: word) :: scanPieces a 0 rest := by
  have hskip : scanPieces a ((cluster :: word).length - 1) (word ++ rest) =
      scanPieces a 0 rest := by
    rw [scanPieces_skip, List.length_cons, Nat.add_sub_cancel, List.drop_left]
  rw [List.cons_append] at h ⊢
  simp only [scanPieces, if_neg hc, h]
  rw [hskip]

end Steps

/-- A property of the clusters left and the pieces read from them holds of every scan if each kind
of piece keeps it. -/
theorem scanPieces_induction {a : Alphabet} {P : List Text → List Piece → Prop} (hnil : P [] [])
    (hdangling : P [escapeCluster] [.dangling])
    (hescape : ∀ next rest, P rest (scanPieces a 0 rest) →
      P (escapeCluster :: next :: rest) (.escaped next :: scanPieces a 0 rest))
    (hliteral : ∀ cluster rest, cluster ≠ escapeCluster →
      a.longestMatch? (cluster :: rest) = none → P rest (scanPieces a 0 rest) →
      P (cluster :: rest) (.literal cluster :: scanPieces a 0 rest))
    (hsymbol : ∀ cluster word rest, cluster ≠ escapeCluster →
      a.longestMatch? (cluster :: word ++ rest) = some (cluster :: word) →
      P rest (scanPieces a 0 rest) →
      P (cluster :: word ++ rest) (.symbol (cluster :: word) :: scanPieces a 0 rest))
    (clusters : List Text) : P clusters (scanPieces a 0 clusters) := by
  refine scan_induction (a := a) (P := fun clusters _ => P clusters (scanPieces a 0 clusters))
    ?nil ?dangling ?escape ?literal ?symbol clusters
  case nil =>
    rw [scanPieces_nil]
    exact hnil
  case dangling =>
    rw [scanPieces_dangling]
    exact hdangling
  case escape =>
    intro next rest ih
    rw [scanPieces_escape]
    exact hescape next rest ih
  case literal =>
    intro cluster rest hc hmatch ih
    rw [scanPieces_literal hc hmatch]
    exact hliteral cluster rest hc hmatch ih
  case symbol =>
    intro cluster word rest hc hmatch ih
    rw [scanPieces_symbol hc hmatch]
    exact hsymbol cluster word rest hc hmatch ih

/-! ## Clusters and tokens -/

theorem Token.merged_cons_literal (u : Text) (ts : List Token) :
    merged (.literal u :: ts) = joinLiteral u (merged ts) := rfl

theorem Token.merged_cons_symbol (name : Text) (ts : List Token) :
    merged (.symbol name :: ts) = .symbol name :: merged ts := rfl

/-- A scan gives the tokens of its pieces. -/
theorem scan_eq_merged (a : Alphabet) (clusters : List Text) :
    scan a 0 clusters = Token.merged ((scanPieces a 0 clusters).map Piece.token) := by
  refine scanPieces_induction (a := a)
    (P := fun clusters ps => scan a 0 clusters = Token.merged (ps.map Piece.token))
    (scan_nil a) (scan_dangling a) ?escape ?literal ?symbol clusters
  case escape =>
    intro next rest ih
    rw [scan_escape, ih]
    rfl
  case literal =>
    intro cluster rest hc hmatch ih
    rw [scan_literal hc hmatch, ih]
    rfl
  case symbol =>
    intro cluster word rest hc hmatch ih
    rw [scan_symbol hc hmatch, ih]
    rfl

theorem tokenize_eq_merged_pieces (names : List Text) (pattern : Text) :
    tokenize names pattern = Token.merged ((pieces names pattern).map Piece.token) :=
  scan_eq_merged _ _

/-! ## The alphabet -/

/-- Two alphabets with the same longest matches on the way read the same pieces. -/
theorem scanPieces_congr {a b : Alphabet} {clusters : List Text}
    (h : ∀ us, us <:+ clusters → b.longestMatch? us = a.longestMatch? us) :
    scanPieces b 0 clusters = scanPieces a 0 clusters := by
  revert h
  refine scanPieces_induction (a := a) (P := fun clusters ps =>
    (∀ us, us <:+ clusters → b.longestMatch? us = a.longestMatch? us) →
      scanPieces b 0 clusters = ps) ?nil ?dangling ?escape ?literal ?symbol clusters
  case nil => exact fun _ => scanPieces_nil b
  case dangling => exact fun _ => scanPieces_dangling b
  case escape =>
    intro next rest ih h
    have hrest : rest <:+ escapeCluster :: next :: rest :=
      (List.suffix_cons _ _).trans (List.suffix_cons _ _)
    rw [scanPieces_escape, ih fun us hus => h us (hus.trans hrest)]
  case literal =>
    intro cluster rest hc hmatch ih h
    rw [← h _ List.suffix_rfl] at hmatch
    rw [scanPieces_literal hc hmatch, ih fun us hus => h us (hus.trans (List.suffix_cons _ _))]
  case symbol =>
    intro cluster word rest hc hmatch ih h
    rw [← h _ List.suffix_rfl] at hmatch
    rw [scanPieces_symbol hc hmatch, ih fun us hus => h us (hus.trans (List.suffix_append _ _))]

/-- Names matter neither in their order nor in how often they are given. -/
theorem pieces_congr {names names' : List Text} (h : ∀ n, n ∈ names' ↔ n ∈ names)
    (pattern : Text) : pieces names' pattern = pieces names pattern := by
  refine scanPieces_congr fun us _ => Alphabet.longestMatch?_congr (fun w => ?_) us
  simp only [Alphabet.ofNames, List.mem_map]
  exact exists_congr fun n => and_congr_left fun _ => h n

/-! ## The loop -/

namespace Tokenizer

variable {t : Tokenizer} {s : Progress}

/-- The progress behind one more piece. -/
def Progress.read (s : Progress) : Piece → Progress
  | .dangling => s.addLiteral escapeCluster 1
  | .escaped cluster => s.addLiteral cluster 2
  | .symbol word => s.addSymbol word
  | .literal cluster => s.addLiteral cluster 1

theorem Progress.cursor_read (s : Progress) (piece : Piece) :
    (s.read piece).cursor = s.cursor.advance piece.clusters.length := by
  cases piece <;> rfl

/-- A step before the end reads the first of the pieces that remain, and leaves the others. -/
theorem exists_step_read (h : s.cursor.IsInside) (hne : s.cursor.remaining ≠ []) :
    ∃ piece, t.step s = .ok (s.read piece) ∧ piece.clusters ≠ [] ∧
      scanPieces (.ofNames t.names) 0 s.cursor.remaining =
        piece :: scanPieces (.ofNames t.names) 0
          (s.cursor.remaining.drop piece.clusters.length) := by
  obtain ⟨cluster, rest, hr⟩ := List.exists_cons_of_ne_nil hne
  by_cases hc : cluster = escapeCluster
  · subst hc
    cases rest with
    | nil =>
      refine ⟨.dangling, step_dangling h hr, List.cons_ne_nil _ _, ?_⟩
      rw [hr, scanPieces_dangling]
      rfl
    | cons next rest =>
      refine ⟨.escaped next, step_escape h hr, List.cons_ne_nil _ _, ?_⟩
      rw [hr, scanPieces_escape]
      rfl
  · cases hmatch : (Alphabet.ofNames t.names).longestMatch? (cluster :: rest) with
    | none =>
      refine ⟨.literal cluster, step_literal h hr hc hmatch, List.cons_ne_nil _ _, ?_⟩
      rw [hr, scanPieces_literal hc hmatch]
      rfl
    | some word =>
      obtain ⟨-, hword, behind, hbehind⟩ := Alphabet.longestMatch?_some hmatch
      refine ⟨.symbol word, step_symbol h hr hc hmatch, hword, ?_⟩
      obtain ⟨first, others, rfl⟩ := List.exists_cons_of_ne_nil hword
      have hfirst : first = cluster := (List.cons.inj hbehind).1
      rw [← hbehind] at hmatch
      rw [hr, ← hbehind, scanPieces_symbol (hfirst ▸ hc) hmatch, Piece.clusters, List.drop_left]

/-- As many steps as clusters remain read all pieces that remain. -/
theorem runFor_read {most : Nat} (h : s.cursor.IsInside)
    (hmost : s.cursor.remaining.length ≤ most) :
    t.runFor most s =
      .ok ((scanPieces (.ofNames t.names) 0 s.cursor.remaining).foldl Progress.read s) := by
  induction most generalizing s with
  | zero =>
    have hnil : s.cursor.remaining = [] := List.length_eq_zero_iff.mp (Nat.le_zero.mp hmost)
    rw [hnil, scanPieces_nil]
    rfl
  | succ most ih =>
    unfold runFor
    by_cases hend : s.cursor.isAtEnd = true
    · rw [if_pos hend, (Cursor.isAtEnd_iff h).mp hend, scanPieces_nil]
      rfl
    · rw [if_neg hend]
      have hne : s.cursor.remaining ≠ [] := mt (Cursor.isAtEnd_iff h).mpr hend
      obtain ⟨piece, hstep, hpiece, hpieces⟩ := exists_step_read (t := t) h hne
      have hremaining : (s.read piece).cursor.remaining =
          s.cursor.remaining.drop piece.clusters.length := by
        rw [Progress.cursor_read, Cursor.remaining_advance h]
      have hinside : (s.read piece).cursor.IsInside := by
        rw [Progress.cursor_read]
        exact h.advance _
      have hshorter : (s.read piece).cursor.remaining.length ≤ most := by
        have hlength := List.length_pos_of_ne_nil hpiece
        rw [hremaining, List.length_drop]
        omega
      rw [hpieces, List.foldl_cons, hstep, ← hremaining]
      exact ih hinside hshorter

/-- The loop over a pattern reads its pieces, one in each step. -/
theorem runFor_eq_foldl_read {names : List Text} (hmem : ∀ n, n ∈ t.names ↔ n ∈ names)
    (pattern : Text) :
    t.runFor (graphemes pattern).length (.start pattern) =
      .ok ((pieces names pattern).foldl Progress.read (.start pattern)) := by
  have hremaining : (Progress.start pattern).cursor.remaining = graphemes pattern :=
    Cursor.remaining_ofText pattern
  have hrun := runFor_read (t := t) (s := .start pattern) (Cursor.isInside_ofText pattern)
    (Nat.le_of_eq (congrArg List.length hremaining))
  rw [hremaining] at hrun
  rw [← pieces_congr hmem]
  exact hrun

end Tokenizer

end DatePattern
