/-
  Separators: clusters that are no escape and that no name holds.

  Reading looks ahead, in escapes, in longest matches and in the clusters themselves, but never past
  a separator.  A word cannot reach over it, it is literal where it stands, and an escape in front
  of it takes it only if nothing else was left to take.  So a pattern is read part by part, with the
  literals joined that meet at the separator.

  * `scanPieces_append_separator`: the pieces of clusters with a separator between them.
  * `Token.merged_append_literal_merged`: joining literals before or after putting tokens together.
  * `Tokenizer.tokenize_separated`: the tokens of a pattern in which a separator stands.
-/
import DatePattern.Proofs.Pieces

namespace DatePattern

open Text

/-! ## Matches in front of a separator -/

namespace Alphabet

variable {a : Alphabet} {s : Text}

/-- Clusters that begin with the same words have the same longest match. -/
theorem longestMatch?_congr_prefix {us vs : List Text} (h : ∀ w ∈ a, w <+: us ↔ w <+: vs) :
    a.longestMatch? us = a.longestMatch? vs := by
  have hmatching : a.matching us = a.matching vs := by
    refine List.filter_congr fun w hw => ?_
    rw [Bool.eq_iff_iff]
    simp [h w hw]
  rw [longestMatch?, longestMatch?, hmatching]

/-- A word without the separator does not reach over it. -/
theorem prefix_append_separator_iff {w : List Text} (hs : s ∉ w) (us vs : List Text) :
    w <+: us ++ s :: vs ↔ w <+: us := by
  refine ⟨fun h => ?_, fun h => h.trans (List.prefix_append _ _)⟩
  rcases List.prefix_or_prefix_of_prefix h (List.prefix_append us (s :: vs)) with hw | ⟨k, rfl⟩
  · exact hw
  · cases k with
    | nil => exact (List.append_nil us).symm ▸ List.prefix_rfl
    | cons u k =>
      have hu : u = s := (List.cons_prefix_cons.mp ((List.prefix_append_right_inj us).mp h)).1
      rw [hu] at hs
      exact absurd (List.mem_append_right us List.mem_cons_self) hs

variable (hs : ∀ w ∈ a, s ∉ w)
include hs

theorem longestMatch?_append_separator (us vs : List Text) :
    a.longestMatch? (us ++ s :: vs) = a.longestMatch? us :=
  longestMatch?_congr_prefix fun w hw => prefix_append_separator_iff (hs w hw) us vs

/-- No word begins at the separator. -/
theorem longestMatch?_separator (vs : List Text) : a.longestMatch? (s :: vs) = none := by
  rw [longestMatch?_eq_none_iff]
  intro w hw hne hpre
  obtain ⟨u, w, rfl⟩ := List.exists_cons_of_ne_nil hne
  rw [(List.cons_prefix_cons.mp hpre).1] at hw
  exact hs _ hw List.mem_cons_self

end Alphabet

/-! ## Pieces -/

/-- In front of a separator and behind it pieces are read as if it were the end. -/
theorem scanPieces_append_separator {a : Alphabet} {s : Text} (hescape : s ≠ escapeCluster)
    (hs : ∀ w ∈ a, s ∉ w) {us : List Text} (hus : .dangling ∉ scanPieces a 0 us)
    (vs : List Text) :
    scanPieces a 0 (us ++ s :: vs) = scanPieces a 0 us ++ .literal s :: scanPieces a 0 vs := by
  revert hus
  refine scanPieces_induction (a := a) (P := fun us ps => .dangling ∉ ps →
    scanPieces a 0 (us ++ s :: vs) = ps ++ .literal s :: scanPieces a 0 vs)
    ?nil ?dangling ?escape ?literal ?symbol us
  case nil =>
    exact fun _ => scanPieces_literal hescape (Alphabet.longestMatch?_separator hs vs)
  case dangling => exact fun hus => absurd List.mem_cons_self hus
  case escape =>
    intro next rest ih hus
    have hrest := ih fun h => hus (List.mem_cons_of_mem _ h)
    rw [List.cons_append, List.cons_append, scanPieces_escape, hrest]
    rfl
  case literal =>
    intro cluster rest hc hmatch ih hus
    have hrest := ih fun h => hus (List.mem_cons_of_mem _ h)
    rw [← Alphabet.longestMatch?_append_separator hs _ vs, List.cons_append] at hmatch
    rw [List.cons_append, scanPieces_literal hc hmatch, hrest]
    rfl
  case symbol =>
    intro cluster word rest hc hmatch ih hus
    have hrest := ih fun h => hus (List.mem_cons_of_mem _ h)
    rw [← Alphabet.longestMatch?_append_separator hs _ vs, List.append_assoc] at hmatch
    rw [List.append_assoc, scanPieces_symbol hc hmatch, hrest]
    rfl

/-! ## Tokens put together -/

namespace Token

theorem joinLiteral_append (u v : Text) (ts : List Token) :
    joinLiteral (u ++ v) ts = joinLiteral u (joinLiteral v ts) := by
  cases ts with
  | nil => rfl
  | cons t ts => cases t <;> simp [joinLiteral]

theorem merged_joinLiteral_append (u : Text) (ts us : List Token) :
    merged (joinLiteral u ts ++ us) = joinLiteral u (merged (ts ++ us)) := by
  cases ts with
  | nil => rfl
  | cons t ts =>
    cases t with
    | literal v => exact joinLiteral_append u v _
    | symbol name => rfl

theorem merged_append_congr {us vs : List Token} (h : merged us = merged vs) (ts : List Token) :
    merged (ts ++ us) = merged (ts ++ vs) := by
  induction ts with
  | nil => exact h
  | cons t ts ih =>
    cases t with
    | literal u =>
      rw [List.cons_append, List.cons_append, merged_cons_literal, merged_cons_literal, ih]
    | symbol name =>
      rw [List.cons_append, List.cons_append, merged_cons_symbol, merged_cons_symbol, ih]

theorem merged_merged_append (ts us : List Token) :
    merged (merged ts ++ us) = merged (ts ++ us) := by
  induction ts with
  | nil => rfl
  | cons t ts ih =>
    cases t with
    | literal u =>
      rw [merged_cons_literal, merged_joinLiteral_append, ih, List.cons_append,
        merged_cons_literal]
    | symbol name =>
      rw [merged_cons_symbol, List.cons_append, merged_cons_symbol, ih, List.cons_append,
        merged_cons_symbol]

theorem merged_merged (ts : List Token) : merged (merged ts) = merged ts := by
  have h := merged_merged_append ts []
  rwa [List.append_nil, List.append_nil] at h

/-- It makes no difference whether literals are joined before tokens are put together. -/
theorem merged_append_literal_merged (ts : List Token) (u : Text) (us : List Token) :
    merged (merged ts ++ .literal u :: merged us) = merged (ts ++ .literal u :: us) := by
  have hbehind : merged (.literal u :: merged us) = merged (.literal u :: us) := by
    rw [merged_cons_literal, merged_merged, merged_cons_literal]
  rw [merged_merged_append]
  exact merged_append_congr hbehind ts

end Token

/-! ## Patterns -/

/-- A separator that is one plain character is a cluster of its own, unless a mark follows. -/
theorem graphemes_append_separator {s : Char} (hs : breakProperty s = .other) (p : Text) {q : Text}
    (hq : ∀ c ∈ q.head?, (breakProperty c).attaches = false) :
    graphemes (p ++ s :: q) = graphemes p ++ [s] :: graphemes q := by
  have hbehind : Breaks [s] q := by
    cases q with
    | nil => trivial
    | cons c q => exact (breaks_of_other hs c q).mpr (hq c rfl)
  rw [graphemes_append (breaks_other p hs q), ← List.singleton_append, graphemes_append hbehind]
  rfl

theorem tokenize_append_separator {names : List Text} {s : Char} (hs : breakProperty s = .other)
    (hescape : s ≠ '\\') (hfree : ∀ n ∈ names, [s] ∉ graphemes n) {p q : Text}
    (hp : .dangling ∉ pieces names p) (hq : ∀ c ∈ q.head?, (breakProperty c).attaches = false) :
    tokenize names (p ++ s :: q) =
      Token.merged (tokenize names p ++ .literal [s] :: tokenize names q) := by
  have hcluster : [s] ≠ escapeCluster := fun h => hescape (List.cons.inj h).1
  have hwords : ∀ w ∈ Alphabet.ofNames names, [s] ∉ w := by
    intro w hw
    obtain ⟨n, hn, rfl⟩ := List.mem_map.mp hw
    exact hfree n hn
  have hpieces : pieces names (p ++ s :: q) =
      pieces names p ++ .literal [s] :: pieces names q := by
    rw [pieces, graphemes_append_separator hs p hq]
    exact scanPieces_append_separator hcluster hwords hp _
  simp only [tokenize_eq_merged_pieces]
  rw [hpieces, List.map_append, List.map_cons, Token.merged_append_literal_merged]
  rfl

namespace Tokenizer

/-- In front of a separator and behind it a pattern is read as if it stood alone, unless an escape
in front of it has nothing else to take or a mark behind it joins it.  The literals that meet there
are joined. -/
theorem tokenize_separated {names : List Text} (hnames : ∀ n ∈ names, n ≠ []) {s : Char}
    (hs : breakProperty s = .other) (hescape : s ≠ '\\') (hfree : ∀ n ∈ names, [s] ∉ graphemes n)
    {p q : Text} (hp : .dangling ∉ pieces names p)
    (hq : ∀ c ∈ q.head?, (breakProperty c).attaches = false) :
    ∃ t, ofNames? names = some t ∧
      t.runFor (graphemes p).length (.start p) =
        .ok ((pieces names p).foldl Progress.read (.start p)) ∧
      t.tokenize p = .ok (DatePattern.tokenize names p) ∧
      t.tokenize q = .ok (DatePattern.tokenize names q) ∧
      t.tokenize (p ++ s :: q) = .ok (Token.merged
        (DatePattern.tokenize names p ++ .literal [s] :: DatePattern.tokenize names q)) := by
  obtain ⟨t, ht, hmem⟩ := exists_ofNames? hnames
  have htokens : ∀ r, t.tokenize r = .ok (DatePattern.tokenize names r) := fun r =>
    (exists_runFor_of_names hmem r).2
  refine ⟨t, ht, runFor_eq_foldl_read hmem p, htokens p, htokens q, ?_⟩
  rw [htokens, tokenize_append_separator hs hescape hfree hp hq]

/-- An escaped symbol and an escaped escape in front, a symbol and an escape at the end behind. -/
theorem tokenize_separated_hyphen :
    ((∀ n ∈ [['d'], ['d', 'd']], n ≠ []) ∧ breakProperty '-' = .other ∧ '-' ≠ '\\' ∧
      (∀ n ∈ [['d'], ['d', 'd']], ['-'] ∉ graphemes n) ∧
      .dangling ∉ pieces [['d'], ['d', 'd']] ['d', '\\', 'd', '\\', '\\'] ∧
      ∀ c ∈ ['d', '\\'].head?, (breakProperty c).attaches = false) ∧
    ∃ t, ofNames? [['d'], ['d', 'd']] = some t ∧
      t.tokenize (['d', '\\', 'd', '\\', '\\'] ++ '-' :: ['d', '\\']) =
        .ok [.symbol ['d'], .literal ['d', '\\', '-'], .symbol ['d'], .literal ['\\']] := by
  have hnames : ∀ n ∈ [['d'], ['d', 'd']], n ≠ [] := by simp
  have hs : breakProperty '-' = .other := by decide
  have hfree : ∀ n ∈ [['d'], ['d', 'd']], ['-'] ∉ graphemes n := by decide +kernel
  have hp : .dangling ∉ pieces [['d'], ['d', 'd']] ['d', '\\', 'd', '\\', '\\'] := by
    decide +kernel
  have hq : ∀ c ∈ ['d', '\\'].head?, (breakProperty c).attaches = false := by
    intro c hc
    cases hc
    decide
  obtain ⟨t, ht, -, -, -, htokens⟩ := tokenize_separated hnames hs (by decide) hfree hp hq
  refine ⟨⟨hnames, hs, by decide, hfree, hp, hq⟩, t, ht, htokens.trans (congrArg Except.ok ?_)⟩
  decide +kernel

end Tokenizer

end DatePattern
