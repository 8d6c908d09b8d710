/-
  Writing tokens undoes reading them.

  The escapes of a written literal stand in front of clusters of plain names, which no neighbour
  can join, so the written form is cut where the tokens were (`graphemes_write`).  Scanning these
  clusters gives back a literal as it was, and takes from a run of symbols what the longest names
  are, which only the letters of the run decide (`prefix_runText`).

  * `tokenize_write`: a sequence that patterns are read as is read from its written form.
  * `tokenize_write_tokenize`: so a pattern and the written form of its tokens are read alike.
  * `exists_tokenize_eq_iff`: which token sequences patterns are read as, exactly.
-/
import DatePattern.Proofs.TableBuilding
import DatePattern.Proofs.TokenImage

namespace DatePattern

open Text

namespace Token

/-! ## The clusters of the written form -/

/-- What a literal cluster is written as, cluster by cluster. -/
def writtenCluster (reserved : List Text) (cluster : Text) : List Text :=
  if cluster ∈ reserved then [escapeCluster, cluster] else [cluster]

/-- What a token is written as, cluster by cluster. -/
def writtenClusters (reserved : List Text) : Token → List Text
  | .literal t => (graphemes t).flatMap (writtenCluster reserved)
  | .symbol name => singles name

theorem flatten_writtenCluster (reserved : List Text) (cluster : Text) :
    (writtenCluster reserved cluster).flatten = writeCluster reserved cluster := by
  unfold writtenCluster writeCluster
  split <;> simp

theorem flatten_writtenClusters (reserved : List Text) (t : Token) :
    (t.writtenClusters reserved).flatten = t.written reserved := by
  cases t with
  | literal t =>
    simp only [writtenClusters, written]
    induction graphemes t with
    | nil => rfl
    | cons u us ih =>
      rw [List.flatMap_cons, List.flatten_append, flatten_writtenCluster, ih, List.flatMap_cons]
  | symbol name => exact flatten_singles name

theorem flatten_writtenClusters_all (names : List Text) (ts : List Token) :
    (ts.flatMap (writtenClusters (reserved names))).flatten = write names ts := by
  induction ts with
  | nil => rfl
  | cons t ts ih =>
    rw [List.flatMap_cons, List.flatten_append, flatten_writtenClusters, ih, write_cons]

/-- The clusters that literals escape, where the names are plain: single characters that no
neighbour joins. -/
def IsPlainSet (reserved : List Text) : Prop :=
  ∀ u ∈ reserved, ∃ c, u = [c] ∧ breakProperty c = .other

variable {names : List Text}

theorem isPlainSet_reserved (hn : ∀ n ∈ names, IsPlainName n) : IsPlainSet (reserved names) := by
  intro u hu
  rcases mem_reserved.mp hu with rfl | ⟨n, hm, hu⟩
  · exact ⟨'\\', rfl, breakProperty_backslash⟩
  · rw [(hn n hm).graphemes_eq] at hu
    obtain ⟨c, hc, rfl⟩ := mem_singles.mp hu
    exact ⟨c, rfl, (hn n hm).other c hc⟩

theorem singleton_mem_reserved (hn : ∀ n ∈ names, IsPlainName n) {n : Text} (hm : n ∈ names)
    {c : Char} (hc : c ∈ n) : [c] ∈ reserved names := by
  refine mem_reserved.mpr (Or.inr ⟨n, hm, ?_⟩)
  rw [(hn n hm).graphemes_eq]
  exact mem_singles.mpr ⟨c, hc, rfl⟩

theorem isCluster_writtenClusters {reserved : List Text} {t : Token} {u : Text}
    (h : u ∈ t.writtenClusters reserved) : IsCluster u := by
  cases t with
  | literal t =>
    obtain ⟨v, hv, hu⟩ := List.mem_flatMap.mp h
    have hcluster := isCluster_of_mem_graphemes hv
    unfold writtenCluster at hu
    split at hu
    · rcases List.mem_cons.mp hu with rfl | hu
      · exact isCluster_singleton _
      · rwa [List.mem_singleton.mp hu]
    · rwa [List.mem_singleton.mp hu]
  | symbol name =>
    obtain ⟨c, -, rfl⟩ := mem_singles.mp h
    exact isCluster_singleton c

/-! ## Where the written form is cut -/

/-- Escapes are cut off on both sides, and so is what follows the literal. -/
theorem isChain_written_literal {reserved : List Text} (hr : IsPlainSet reserved)
    {rest : List Text} (hrest : rest.IsChain Breaks)
    (hfirst : ∀ u v vs, rest = v :: vs → Breaks u v) (u : Text) (us : List Text)
    (h : (u :: us).IsChain Breaks) :
    (u :: (us.flatMap (writtenCluster reserved) ++ rest)).IsChain Breaks := by
  induction us generalizing u with
  | nil =>
    cases rest with
    | nil => exact List.IsChain.singleton u
    | cons v vs => exact List.isChain_cons_cons.mpr ⟨hfirst u v vs rfl, hrest⟩
  | cons v us ih =>
    obtain ⟨huv, hus⟩ := List.isChain_cons_cons.mp h
    have hlater := ih v hus
    rw [List.flatMap_cons, List.append_assoc]
    by_cases hv : v ∈ reserved
    · obtain ⟨c, rfl, hc⟩ := hr v hv
      simp only [writtenCluster, if_pos hv, List.cons_append, List.nil_append]
      exact List.isChain_cons_cons.mpr ⟨breaks_other u breakProperty_backslash [],
        List.isChain_cons_cons.mpr ⟨breaks_other escapeCluster hc [], hlater⟩⟩
    · simp only [writtenCluster, if_neg hv, List.cons_append, List.nil_append]
      exact List.isChain_cons_cons.mpr ⟨huv, hlater⟩

/-- Behind a plain name a boundary falls before whatever does not begin with a mark. -/
theorem isChain_written_symbol {name : Text} (h : ∀ c ∈ name, breakProperty c = .other)
    {rest : List Text} (hrest : rest.IsChain Breaks) (hfresh : FreshHead rest) :
    (singles name ++ rest).IsChain Breaks ∧ FreshHead (singles name ++ rest) := by
  induction name with
  | nil => exact ⟨hrest, hfresh⟩
  | cons c name ih =>
    obtain ⟨hchain, hhead⟩ := ih fun d hd => h d (List.mem_cons_of_mem c hd)
    have hc : breakProperty c = .other := h c List.mem_cons_self
    refine ⟨?_, fun d u us heq => ?_⟩
    · change ([c] :: (singles name ++ rest)).IsChain Breaks
      cases hvs : singles name ++ rest with
      | nil => exact List.IsChain.singleton [c]
      | cons v vs =>
        rw [hvs] at hchain hhead
        refine List.isChain_cons_cons.mpr ⟨?_, hchain⟩
        cases v with
        | nil => trivial
        | cons d v => exact (breaks_of_other hc d v).mpr (hhead d v vs rfl)
    · have hd : c = d := (List.cons.inj (List.cons.inj heq).1).1
      rw [← hd]
      exact not_attaches_of_other hc

theorem freshHead_writtenClusters (reserved : List Text) {c : Char}
    (hc : (breakProperty c).attaches = false) (t : Text) (rest : List Text) :
    FreshHead ((Token.literal (c :: t)).writtenClusters reserved ++ rest) := by
  intro d u us heq
  simp only [writtenClusters, graphemes, List.flatMap_cons, writtenCluster] at heq
  split at heq
  · have hd : '\\' = d := (List.cons.inj (List.cons.inj heq).1).1
    rw [← hd]
    exact not_attaches_of_other breakProperty_backslash
  · have hd : c = d := (List.cons.inj (List.cons.inj heq).1).1
    rwa [← hd]

theorem isChain_writtenClusters (hn : ∀ n ∈ names, IsPlainName n) {ts : List Token}
    (h : IsImage names ts) :
    (ts.flatMap (writtenClusters (reserved names))).IsChain Breaks := by
  induction ts with
  | nil => exact List.IsChain.nil
  | cons t ts ih =>
    have hrest := ih h.tail
    rw [List.flatMap_cons]
    cases t with
    | literal t =>
      -- the clusters of the literal are cut behind the empty text too
      have hstart : ([] :: graphemes t).IsChain Breaks := by
        have hchain := isChain_graphemes t
        cases hg : graphemes t with
        | nil => exact List.IsChain.singleton _
        | cons u us =>
          rw [hg] at hchain
          exact List.isChain_cons_cons.mpr ⟨trivial, hchain⟩
      refine (isChain_written_literal (isPlainSet_reserved hn) hrest ?_ [] _ hstart).tail
      intro u v vs heq
      cases ts with
      | nil => cases heq
      | cons s ts =>
        cases s with
        | literal s => exact absurd List.suffix_rfl (h.not_adjacent t s ts)
        | symbol name =>
          have hname := hn name (h.symbol_mem name (by simp))
          obtain ⟨c, n, rfl⟩ := hname.exists_cons
          have hv : [c] = v := (List.cons.inj heq).1
          rw [← hv]
          exact breaks_other u (hname.other c List.mem_cons_self) []
    | symbol name =>
      have hname := hn name (h.symbol_mem name List.mem_cons_self)
      refine (isChain_written_symbol hname.other hrest ?_).1
      cases ts with
      | nil =>
        intro c u us heq
        cases heq
      | cons s ts =>
        rw [List.flatMap_cons]
        cases s with
        | literal s =>
          have hs : s ≠ [] := h.literal_ne_nil s (by simp)
          obtain ⟨c, s, rfl⟩ := List.exists_cons_of_ne_nil hs
          exact freshHead_writtenClusters _ (h.not_attaches name c s ts List.suffix_rfl) s _
        | symbol m =>
          have hm := hn m (h.symbol_mem m (by simp))
          obtain ⟨c, m, rfl⟩ := hm.exists_cons
          intro d u us heq
          have hd : c = d := (List.cons.inj (List.cons.inj heq).1).1
          rw [← hd]
          exact not_attaches_of_other (hm.other c List.mem_cons_self)

/-- The written form is cut where its tokens are. -/
theorem graphemes_write (hn : ∀ n ∈ names, IsPlainName n) {ts : List Token}
    (h : IsImage names ts) :
    graphemes (write names ts) = ts.flatMap (writtenClusters (reserved names)) := by
  rw [← flatten_writtenClusters_all]
  refine graphemes_flatten (fun u hu => ?_) (isChain_writtenClusters hn h)
  obtain ⟨t, -, hu⟩ := List.mem_flatMap.mp hu
  exact isCluster_writtenClusters hu

/-! ## Scanning the written form -/

/-- Names match in symbols only: a literal begins with an escape or with a cluster of no name. -/
theorem prefix_runText {reserved : List Text} {m : Text}
    (hm : ∀ c ∈ m, [c] ∈ reserved ∧ [c] ≠ escapeCluster) {ts : List Token}
    (hne : ∀ t, .literal t ∈ ts → t ≠ [])
    (h : singles m <+: ts.flatMap (writtenClusters reserved)) : m <+: runText ts := by
  induction ts generalizing m with
  | nil =>
    have hlen := h.length_le
    rw [length_singles] at hlen
    rw [List.eq_nil_of_length_eq_zero (Nat.le_zero.mp hlen)]
    exact List.nil_prefix
  | cons t ts ih =>
    rw [List.flatMap_cons] at h
    cases t with
    | literal t =>
      cases m with
      | nil => exact List.nil_prefix
      | cons c m =>
        obtain ⟨hc, hesc⟩ := hm c List.mem_cons_self
        obtain ⟨d, t, rfl⟩ := List.exists_cons_of_ne_nil (hne t List.mem_cons_self)
        obtain ⟨left, hleft⟩ := h
        simp only [writtenClusters, graphemes, List.flatMap_cons, writtenCluster] at hleft
        split at hleft
        · exact absurd (List.cons.inj hleft).1 hesc
        · rename_i hd
          rw [← (List.cons.inj hleft).1] at hd
          exact absurd hc hd
    | symbol name =>
      have hne' : ∀ t, .literal t ∈ ts → t ≠ [] := fun t ht => hne t (List.mem_cons_of_mem _ ht)
      rcases List.prefix_or_prefix_of_prefix h (List.prefix_append _ _) with hpre | hpre
      · exact (singles_prefix_iff.mp hpre).trans (List.prefix_append _ _)
      · obtain ⟨k, rfl⟩ := singles_prefix_iff.mp hpre
        rw [singles_append] at h
        have hk := (List.prefix_append_right_inj _).mp h
        exact (List.prefix_append_right_inj _).mpr
          (ih (fun c hc => hm c (List.mem_append_right _ hc)) hne' hk)

theorem prefix_runText_of_mem (hn : ∀ n ∈ names, IsPlainName n) {m : Text} (hm : m ∈ names)
    {ts : List Token} (h : IsImage names ts)
    (hpre : singles m <+: ts.flatMap (writtenClusters (reserved names))) : m <+: runText ts :=
  prefix_runText (fun _ hc => ⟨singleton_mem_reserved hn hm hc, (hn m hm).singleton_ne_escape hc⟩)
    h.literal_ne_nil hpre

theorem ne_escapeCluster_of_not_mem_reserved {u : Text} (hu : u ∉ reserved names) :
    u ≠ escapeCluster := by
  rintro rfl
  exact hu (mem_reserved.mpr (Or.inl rfl))

/-- No name begins with a cluster that is not reserved. -/
theorem longestMatch?_of_not_mem_reserved (hn : ∀ n ∈ names, IsPlainName n) {u : Text}
    (hu : u ∉ reserved names) (rest : List Text) :
    (Alphabet.ofNames names).longestMatch? (u :: rest) = none := by
  rw [Alphabet.longestMatch?_eq_none_iff]
  intro w hw _ hpre
  obtain ⟨m, hm, rfl⟩ := (mem_ofNames_of_plain hn).mp hw
  obtain ⟨c, m, rfl⟩ := (hn m hm).exists_cons
  have hcu : [c] = u := (List.cons_prefix_cons.mp hpre).1
  rw [← hcu] at hu
  exact hu (singleton_mem_reserved hn hm List.mem_cons_self)

/-- The clusters of a literal are joined to what is read behind them. -/
theorem scan_written_literal (hn : ∀ n ∈ names, IsPlainName n) (us rest : List Text) :
    scan (Alphabet.ofNames names) 0
        (us.flatMap (writtenCluster (reserved names)) ++ rest) =
      us.foldr joinLiteral (scan (Alphabet.ofNames names) 0 rest) := by
  induction us with
  | nil => rfl
  | cons u us ih =>
    rw [List.flatMap_cons, List.append_assoc, List.foldr_cons, ← ih]
    by_cases hu : u ∈ reserved names
    · simp only [writtenCluster, if_pos hu, List.cons_append, List.nil_append]
      exact scan_escape _ u _
    · simp only [writtenCluster, if_neg hu, List.cons_append, List.nil_append]
      exact scan_literal (ne_escapeCluster_of_not_mem_reserved hu)
        (longestMatch?_of_not_mem_reserved hn hu _)

/-- Of what a sequence is written as, the first symbol is taken whole and nothing more. -/
theorem longestMatch?_written_symbol (hn : ∀ n ∈ names, IsPlainName n) {name : Text}
    {ts : List Token} (h : IsImage names (.symbol name :: ts)) :
    (Alphabet.ofNames names).longestMatch?
        (singles name ++ ts.flatMap (writtenClusters (reserved names))) = some (singles name) := by
  refine (longestMatch?_plain hn).mpr
    ⟨name, h.symbol_mem name List.mem_cons_self, rfl, List.prefix_append _ _, ?_⟩
  intro m hm hpre
  exact h.longest name ts List.suffix_rfl m hm (prefix_runText_of_mem hn hm h hpre)

theorem scan_writtenClusters (hn : ∀ n ∈ names, IsPlainName n) {ts : List Token}
    (h : IsImage names ts) :
    scan (Alphabet.ofNames names) 0 (ts.flatMap (writtenClusters (reserved names))) = ts := by
  induction ts with
  | nil => exact scan_nil _
  | cons t ts ih =>
    have hrest := ih h.tail
    cases t with
    | literal t =>
      have ht : t ≠ [] := h.literal_ne_nil t List.mem_cons_self
      have hts : ¬StartsLiteral ts := by
        rintro ⟨s, rest, rfl⟩
        exact h.not_adjacent t s rest List.suffix_rfl
      have hg : graphemes t ≠ [] := by
        intro hnil
        have hflat := flatten_graphemes t
        rw [hnil] at hflat
        exact ht hflat.symm
      have hscan := scan_written_literal hn (graphemes t)
        (ts.flatMap (writtenClusters (reserved names)))
      rw [hrest, foldr_joinLiteral hg hts, flatten_graphemes] at hscan
      exact hscan
    | symbol name =>
      have hname := hn name (h.symbol_mem name List.mem_cons_self)
      have hmatch := longestMatch?_written_symbol hn h
      obtain ⟨c, n, rfl⟩ := hname.exists_cons
      have hscan := scan_symbol (hname.singleton_ne_escape List.mem_cons_self) hmatch
      rw [hrest] at hscan
      refine hscan.trans ?_
      congr 2
      exact flatten_singles (c :: n)

/-- A sequence that patterns are read as is read from its written form. -/
theorem tokenize_write (hn : ∀ n ∈ names, IsPlainName n) {ts : List Token}
    (h : IsImage names ts) : tokenize names (write names ts) = ts := by
  unfold tokenize
  rw [graphemes_write hn h]
  exact scan_writtenClusters hn h

end Token

/-! ## Patterns and token sequences -/

/-- Reading, writing and reading again gives the same tokens, so that patterns with the same tokens
are those written alike.  The names of all tables are plain. -/
theorem tokenize_write_tokenize {names : List Text} (hn : ∀ n ∈ names, IsPlainName n) :
    (∀ p, tokenize names (Token.write names (tokenize names p)) = tokenize names p) ∧
    (∀ p q, tokenize names p = tokenize names q ↔
      Token.write names (tokenize names p) = Token.write names (tokenize names q)) ∧
    (∀ p, Token.write names (tokenize names (Token.write names (tokenize names p))) =
      Token.write names (tokenize names p)) ∧
    (∀ table : SymbolTable, (∃ ds pairs, SymbolTable.build ds pairs = .ok table) ∨
        (∃ withCase, table = SymbolTable.builtin withCase) →
      ∀ n ∈ table.names, IsPlainName n) := by
  have hback : ∀ p, tokenize names (Token.write names (tokenize names p)) = tokenize names p :=
    fun p => Token.tokenize_write hn (isImage_tokenize hn p)
  refine ⟨hback, fun p q => ⟨fun h => by rw [h], fun h => ?_⟩, fun p => by rw [hback], ?_⟩
  · rw [← hback p, h, hback q]
  · rintro table (⟨ds, pairs, h⟩ | ⟨withCase, rfl⟩)
    · exact SymbolTable.isPlainName_of_build h
    · exact SymbolTable.isPlainName_builtin withCase

/-- A backslash with a mark on it is no escape, neither in the pattern nor as written. -/
theorem tokenize_write_tokenize_day :
    IsPlainName "d".toList ∧
      tokenize ["d".toList] (Token.write ["d".toList] (tokenize ["d".toList] "\\d\\\u0301d".toList)) =
        tokenize ["d".toList] "\\d\\\u0301d".toList :=
  have hday : ∀ n ∈ ["d".toList], IsPlainName n := by
    intro n hn
    rw [List.mem_singleton.mp hn]
    exact isPlainName_of_letters (by decide) (List.all_eq_true.mp (by decide))
  ⟨hday _ List.mem_cons_self, (tokenize_write_tokenize hday).1 _⟩

/-- The token sequences that patterns are read as. -/
theorem exists_tokenize_eq_iff {names : List Text} (hn : ∀ n ∈ names, IsPlainName n)
    (ts : List Token) : (∃ p, tokenize names p = ts) ↔ Token.IsImage names ts := by
  constructor
  · rintro ⟨p, rfl⟩
    exact isImage_tokenize hn p
  · intro h
    exact ⟨Token.write names ts, Token.tokenize_write hn h⟩

theorem exists_tokenize_eq_iff_day :
    IsPlainName "d".toList ∧ IsPlainName "dd".toList ∧
      ((∃ p, tokenize ["d".toList, "dd".toList] p = [.symbol "dd".toList, .symbol "d".toList]) ↔
        Token.IsImage ["d".toList, "dd".toList] [.symbol "dd".toList, .symbol "d".toList]) :=
  have hd : IsPlainName "d".toList :=
    isPlainName_of_letters (by decide) (List.all_eq_true.mp (by decide))
  have hdd : IsPlainName "dd".toList :=
    isPlainName_of_letters (by decide) (List.all_eq_true.mp (by decide))
  have hn : ∀ n ∈ ["d".toList, "dd".toList], IsPlainName n := by
    intro n hn
    rcases List.mem_cons.mp hn with rfl | hn
    · exact hd
    · rw [List.mem_singleton.mp hn]
      exact hdd
  ⟨hd, hdd, exists_tokenize_eq_iff hn _⟩

end DatePattern
