/-
  Reading a pattern as tokens.

  The pattern is scanned cluster by cluster.  The escape makes the next cluster literal, or is
  literal itself at the end; otherwise the longest symbol name that matches here is a symbol; any
  other cluster is literal.  Adjacent literal clusters form one token.

  Every text is a pattern.  `longestMatch?_some` says what a match is.
-/
import DatePattern.Pattern.Token
import DatePattern.Text.Grapheme

namespace DatePattern

open Text

/-- The cluster that makes the next one literal. -/
def escapeCluster : Text := ['\\']

/-- Symbol names cut into clusters. -/
abbrev Alphabet := List (List Text)

namespace Alphabet

/-- What is wrong with symbol names of which one is empty. -/
def emptyNameMessage : Text := "Symbol names must not be empty".toList

/-- The alphabet of some symbol names. -/
def ofNames (names : List Text) : Alphabet := names.map graphemes

/-- Of a candidate and a further word, the one with more clusters; the candidate in a tie. -/
def longer (candidate : Option (List Text)) (word : List Text) : Option (List Text) :=
  match candidate with
  | none => some word
  | some w => if w.length < word.length then some word else some w

/-- The words that the clusters begin with. -/
def matching (a : Alphabet) (clusters : List Text) : List (List Text) :=
  a.filter fun w => !w.isEmpty && w.isPrefixOf clusters

/-- The longest word that the clusters begin with. -/
def longestMatch? (a : Alphabet) (clusters : List Text) : Option (List Text) :=
  (a.matching clusters).foldl longer none

theorem foldl_longer_mem {ws : List (List Text)} {start : Option (List Text)} {w : List Text}
    (h : ws.foldl longer start = some w) : w ∈ ws ∨ start = some w := by
  induction ws generalizing start with
  | nil => exact Or.inr h
  | cons v ws ih =>
    rcases ih h with h | h
    · exact Or.inl (List.mem_cons_of_mem _ h)
    · cases start with
      | none =>
        simp only [longer, Option.some.injEq] at h
        exact Or.inl (h ▸ List.mem_cons_self)
      | some u =>
        simp only [longer] at h
        split at h
        · exact Or.inl (Option.some.inj h ▸ List.mem_cons_self)
        · exact Or.inr h

theorem longestMatch?_some {a : Alphabet} {clusters w : List Text}
    (h : a.longestMatch? clusters = some w) : w ∈ a ∧ w ≠ [] ∧ w <+: clusters := by
  rcases foldl_longer_mem h with h | h
  · simpa [matching, and_assoc] using h
  · cases h

end Alphabet

/-- Scan the clusters of a pattern, of which the first `skip` belong to the token just read. -/
def scan (a : Alphabet) : Nat → List Text → List Token
  | _, [] => []
  | skip + 1, _ :: rest => scan a skip rest
  | 0, cluster :: rest =>
    if cluster = escapeCluster then
      match rest with
      | [] => [.literal cluster]
      | next :: _ => Token.joinLiteral next (scan a 1 rest)
    else
      match a.longestMatch? (cluster :: rest) with
      | none => Token.joinLiteral cluster (scan a 0 rest)
      | some word => .symbol word.flatten :: scan a (word.length - 1) rest

/-- The tokens of a pattern over some symbol names. -/
def tokenize (names : List Text) (pattern : Text) : List Token :=
  scan (Alphabet.ofNames names) 0 (graphemes pattern)

theorem scan_skip (a : Alphabet) (k : Nat) (clusters : List Text) :
    scan a k clusters = scan a 0 (clusters.drop k) := by
  induction clusters generalizing k with
  | nil => simp [scan]
  | cons c rest ih =>
    cases k with
    | zero => rfl
    | succ k => simpa [scan] using ih k

/-! ## Removing escapes -/

/-- Drop each escape that has a cluster behind it and keep that cluster.  `kept` says that the
next cluster was escaped. -/
def unescapeClusters (kept : Bool) : List Text → List Text
  | [] => []
  | cluster :: rest =>
    if cluster = escapeCluster ∧ kept = false ∧ rest ≠ [] then unescapeClusters true rest
    else cluster :: unescapeClusters false rest

/-- The text of a pattern without its escapes. -/
def unescape (pattern : Text) : Text := (unescapeClusters false (graphemes pattern)).flatten

end DatePattern
