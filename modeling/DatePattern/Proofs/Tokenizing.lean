/-
  Tokenizers read a pattern by its longest matches.

  The rules of reading are `Reads`, which knows names only by membership: nothing in it depends on
  their order or on repeats.  The loop of a tokenizer keeps `Progress.total`, the tokens that it has
  together with those of the clusters that remain, and every step passes a cluster, so one step for
  each cluster takes it to the end without ever reading there.

  * `Tokenizer.longestMatch?_eq`: the first candidate that the pattern goes on with is the longest.
  * `Tokenizer.exists_step`: what one step keeps.
  * `Tokenizer.exists_runFor`: what the loop comes to.
  * `Tokenizer.tokenize_eq_merged`: a tokenizer gives what the rules say.
-/
import DatePattern.Pattern.Tokenizer
import DatePattern.Proofs.Scanning

namespace DatePattern

open Text

/-! ## The rules -/

/-- Which tokens the clusters of a pattern are read as, with one for each literal cluster. -/
inductive Reads (names : List Text) : List Text → List Token → Prop
  | done : Reads names [] []
  /-- An escape at the end is literal. -/
  | dangling : Reads names [escapeCluster] [.literal escapeCluster]
  /-- A cluster behind an escape is literal. -/
  | escaped {next : Text} {rest : List Text} {ts : List Token} (h : Reads names rest ts) :
    Reads names (escapeCluster :: next :: rest) (.literal next :: ts)
  /-- The longest name that the clusters begin with is a symbol. -/
  | symbol {name : Text} {rest : List Text} {ts : List Token} (hname : name ∈ names)
    (hstart : (graphemes name).head? ≠ some escapeCluster)
    (hlongest : ∀ other ∈ names, graphemes other <+: graphemes name ++ rest →
      (graphemes other).length ≤ (graphemes name).length)
    (h : Reads names rest ts) : Reads names (graphemes name ++ rest) (.symbol name :: ts)
  /-- Any other cluster is literal. -/
  | literal {cluster : Text} {rest : List Text} {ts : List Token} (hc : cluster ≠ escapeCluster)
    (hnone : ∀ name ∈ names, ¬graphemes name <+: cluster :: rest) (h : Reads names rest ts) :
    Reads names (cluster :: rest) (.literal cluster :: ts)

/-- Tokens with each run of literals made one. -/
def Token.merged (ts : List Token) : List Token :=
  ts.foldr (fun
    | .literal u => joinLiteral u
    | .symbol name => (.symbol name :: ·)) []

example : Token.merged [.literal ['a'], .literal ['b'], .symbol ['d'], .literal ['c']] =
    [.literal ['a', 'b'], .symbol ['d'], .literal ['c']] := by decide

section Rules

variable {names : List Text} (hnames : ∀ n ∈ names, n ≠ [])

include hnames

theorem graphemes_ne_nil_of_mem {n : Text} (hn : n ∈ names) : graphemes n ≠ [] := by
  intro h
  have hflatten := flatten_graphemes n
  rw [h] at hflatten
  exact hnames n hn hflatten.symm

/-- The scan gives what the rules say. -/
theorem Reads.scan_eq {clusters : List Text} {ts : List Token} (h : Reads names clusters ts) :
    scan (.ofNames names) 0 clusters = Token.merged ts := by
  induction h with
  | done => exact scan_nil _
  | dangling => exact scan_dangling _
  | @escaped next rest ts _ ih =>
    rw [scan_escape, ih]
    rfl
  | @symbol name rest ts hname hstart hlongest _ ih =>
    have hword := graphemes_ne_nil_of_mem hnames hname
    obtain ⟨first, word, heq⟩ := List.exists_cons_of_ne_nil hword
    have hmatch : (Alphabet.ofNames names).longestMatch? (graphemes name ++ rest) =
        some (graphemes name) := by
      rw [Alphabet.longestMatch?_eq_some_iff]
      refine ⟨List.mem_map_of_mem hname, hword, List.prefix_append _ _, fun v hv _ hpre => ?_⟩
      obtain ⟨other, hother, rfl⟩ := List.mem_map.mp hv
      exact hlongest other hother hpre
    have hfirst : first ≠ escapeCluster := by
      rintro rfl
      exact hstart (by rw [heq, List.head?_cons])
    rw [heq] at hmatch ⊢
    rw [scan_symbol hfirst hmatch, ih, ← heq, flatten_graphemes]
    rfl
  | @literal cluster rest ts hc hnone _ ih =>
    have hmatch : (Alphabet.ofNames names).longestMatch? (cluster :: rest) = none := by
      rw [Alphabet.longestMatch?_eq_none_iff]
      intro w hw _
      obtain ⟨name, hname, rfl⟩ := List.mem_map.mp hw
      exact hnone name hname
    rw [scan_literal hc hmatch, ih]
    rfl

/-- Any clusters can be read. -/
theorem exists_reads (clusters : List Text) : ∃ ts, Reads names clusters ts := by
  refine scan_induction (a := .ofNames names) (P := fun clusters _ => ∃ ts, Reads names clusters ts)
    ⟨_, .done⟩ ⟨_, .dangling⟩ ?escape ?literal ?symbol clusters
  case escape =>
    rintro next rest ⟨ts, h⟩
    exact ⟨_, .escaped h⟩
  case literal =>
    rintro cluster rest hc hmatch ⟨ts, h⟩
    refine ⟨_, .literal hc (fun name hname => ?_) h⟩
    exact Alphabet.longestMatch?_eq_none_iff.mp hmatch _ (List.mem_map_of_mem hname)
      (graphemes_ne_nil_of_mem hnames hname)
  case symbol =>
    rintro cluster word rest hc hmatch ⟨ts, h⟩
    obtain ⟨hmem, -, -, hlongest⟩ := Alphabet.longestMatch?_eq_some_iff.mp hmatch
    obtain ⟨name, hname, heq⟩ := List.mem_map.mp hmem
    rw [← heq] at hlongest ⊢
    refine ⟨_, .symbol hname ?_ (fun other hother hpre => ?_) h⟩
    · rw [heq, List.head?_cons]
      exact fun e => hc (Option.some.inj e)
    · exact hlongest _ (List.mem_map_of_mem hother) (graphemes_ne_nil_of_mem hnames hother) hpre

end Rules

/-! ## The order of names -/

theorem Alphabet.longestMatch?_congr {a b : Alphabet} (h : ∀ w, w ∈ a ↔ w ∈ b)
    (clusters : List Text) : a.longestMatch? clusters = b.longestMatch? clusters := by
  cases hmatch : b.longestMatch? clusters with
  | none =>
    rw [longestMatch?_eq_none_iff] at hmatch ⊢
    exact fun w hw => hmatch w ((h w).mp hw)
  | some w =>
    rw [longestMatch?_eq_some_iff] at hmatch ⊢
    obtain ⟨hw, hne, hpre, hlongest⟩ := hmatch
    exact ⟨(h w).mpr hw, hne, hpre, fun v hv => hlongest v ((h v).mp hv)⟩

theorem scan_congr {a b : Alphabet} (h : ∀ w, w ∈ a ↔ w ∈ b) (clusters : List Text) :
    scan b 0 clusters = scan a 0 clusters := by
  refine scan_induction (a := a) (P := fun clusters ts => scan b 0 clusters = ts)
    (scan_nil b) (scan_dangling b) (fun next rest ih => ?_) (fun cluster rest hc hmatch ih => ?_)
    (fun cluster word rest hc hmatch ih => ?_) clusters
  · rw [scan_escape, ih]
  · rw [Alphabet.longestMatch?_congr h] at hmatch
    rw [scan_literal hc hmatch, ih]
  · rw [Alphabet.longestMatch?_congr h] at hmatch
    rw [scan_symbol hc hmatch, ih]

/-- Names matter neither in their order nor in how often they are given. -/
theorem tokenize_congr {names names' : List Text} (h : ∀ n, n ∈ names' ↔ n ∈ names)
    (pattern : Text) : DatePattern.tokenize names' pattern = DatePattern.tokenize names pattern := by
  refine scan_congr (fun w => ?_) (graphemes pattern)
  simp only [Alphabet.ofNames, List.mem_map]
  exact exists_congr fun n => and_congr_left fun _ => (h n).symm

/-! ## The loop -/

namespace Tokenizer

variable {t : Tokenizer} {s : Progress} {c : Cursor}

/-- The first candidate at the cursor is the longest word there. -/
theorem longestMatch?_eq (h : c.IsInside) {cluster : Text} {rest : List Text}
    (hr : c.remaining = cluster :: rest) :
    t.longestMatch? c = .ok ((Alphabet.ofNames t.names).longestMatch? c.remaining) := by
  have hcandidate : ∀ w ∈ Alphabet.ofNames t.names, w ≠ [] → w <+: c.remaining →
      w ∈ (Alphabet.ofNames t.names).ranked cluster ∧ c.startsWith w = true := by
    intro w hw hne hpre
    refine ⟨Alphabet.mem_ranked.mpr ⟨hw, ?_⟩, (Cursor.startsWith_iff h w).mpr hpre⟩
    obtain ⟨first, word, rfl⟩ := List.exists_cons_of_ne_nil hne
    rw [hr] at hpre
    rw [List.head?_cons, (List.cons_prefix_cons.mp hpre).1]
  have hfind : ((Alphabet.ofNames t.names).ranked cluster).find? c.startsWith =
      (Alphabet.ofNames t.names).longestMatch? c.remaining := by
    cases hmatch : ((Alphabet.ofNames t.names).ranked cluster).find? c.startsWith with
    | none =>
      refine (Alphabet.longestMatch?_eq_none_iff.mpr fun w hw hne hpre => ?_).symm
      obtain ⟨hranked, hstarts⟩ := hcandidate w hw hne hpre
      exact List.find?_eq_none.mp hmatch w hranked hstarts
    | some w =>
      obtain ⟨hstarts, before, behind, hranked, hbefore⟩ := List.find?_eq_some_iff_append.mp hmatch
      have hmem : w ∈ (Alphabet.ofNames t.names).ranked cluster := by
        rw [hranked]
        exact List.mem_append_right _ List.mem_cons_self
      obtain ⟨hw, hhead⟩ := Alphabet.mem_ranked.mp hmem
      have hne : w ≠ [] := by
        rintro rfl
        cases hhead
      refine (Alphabet.longestMatch?_eq_some_iff.mpr
        ⟨hw, hne, (Cursor.startsWith_iff h w).mp hstarts, fun v hv hvne hpre => ?_⟩).symm
      -- the candidates in front do not match, and those behind are no longer
      obtain ⟨hv, hvstarts⟩ := hcandidate v hv hvne hpre
      have hsorted := Alphabet.pairwise_ranked (Alphabet.ofNames t.names) cluster
      rw [hranked] at hv hsorted
      rcases List.mem_append.mp hv with hv | hv
      · have hnot := hbefore v hv
        rw [hvstarts] at hnot
        cases hnot
      · rcases List.mem_cons.mp hv with rfl | hv
        · exact Nat.le_refl _
        · exact (List.pairwise_cons.mp (List.pairwise_append.mp hsorted).2.1).1 v hv
  rw [longestMatch?, Cursor.current_eq h hr, t.candidates_eq, ← hfind, ← Alphabet.lookup_index]
  rfl

namespace Progress

/-- The tokens of the whole pattern: those that the loop has, with the pending clusters and what
remains to be scanned. -/
def total (a : Alphabet) (s : Progress) : List Token :=
  s.tokens ++ s.pending.foldr Token.joinLiteral (scan a 0 s.cursor.remaining)

theorem settled_append_symbol (s : Progress) (name : Text) (ts : List Token) :
    s.settled ++ .symbol name :: ts =
      s.tokens ++ s.pending.foldr Token.joinLiteral (.symbol name :: ts) := by
  unfold settled
  by_cases hpending : s.pending = []
  · simp [hpending]
  · rw [Token.foldr_joinLiteral hpending (Token.not_startsLiteral_symbol name ts),
      if_neg (by simpa using hpending), List.append_assoc]
    rfl

theorem total_of_remaining_nil {a : Alphabet} (h : s.cursor.remaining = []) :
    s.total a = s.settled := by
  unfold total settled
  rw [h, scan_nil]
  by_cases hpending : s.pending = []
  · simp [hpending]
  · rw [Token.foldr_joinLiteral hpending Token.not_startsLiteral_nil,
      if_neg (by simpa using hpending)]

theorem total_addLiteral {a : Alphabet} (h : s.cursor.IsInside) {cluster : Text} {count : Nat}
    (hscan : scan a 0 s.cursor.remaining =
      Token.joinLiteral cluster (scan a 0 (s.cursor.remaining.drop count))) :
    (s.addLiteral cluster count).total a = s.total a := by
  simp only [total, addLiteral, Cursor.remaining_advance h, hscan, List.foldr_append,
    List.foldr_cons, List.foldr_nil]

theorem total_addSymbol {a : Alphabet} (h : s.cursor.IsInside) {word : List Text}
    (hscan : scan a 0 s.cursor.remaining =
      .symbol word.flatten :: scan a 0 (s.cursor.remaining.drop word.length)) :
    (s.addSymbol word).total a = s.total a := by
  rw [total, total, hscan, ← settled_append_symbol]
  simp only [addSymbol, Cursor.remaining_advance h, List.foldr_nil, List.append_assoc]
  rfl

/-- One state of the loop goes on to another: the tokens of the pattern stay the same, and fewer
clusters remain. -/
structure Continues (a : Alphabet) (s s' : Progress) : Prop where
  inside : s'.cursor.IsInside
  total : s'.total a = s.total a
  shorter : s'.cursor.remaining.length < s.cursor.remaining.length

theorem continues_addLiteral {a : Alphabet} (h : s.cursor.IsInside)
    (hne : s.cursor.remaining ≠ []) {cluster : Text} {count : Nat} (hcount : 0 < count)
    (hscan : scan a 0 s.cursor.remaining =
      Token.joinLiteral cluster (scan a 0 (s.cursor.remaining.drop count))) :
    Continues a s (s.addLiteral cluster count) := by
  have hlength := List.length_pos_of_ne_nil hne
  refine ⟨h.advance count, total_addLiteral h hscan, ?_⟩
  rw [addLiteral, Cursor.remaining_advance h, List.length_drop]
  omega

end Progress

/-! ## Its steps -/

section Steps

variable (h : s.cursor.IsInside)
include h

theorem step_dangling (hr : s.cursor.remaining = [escapeCluster]) :
    t.step s = .ok (s.addLiteral escapeCluster 1) := by
  have hpeek := Cursor.peek_eq h 1
  rw [hr] at hpeek
  unfold step
  rw [Cursor.current_eq h hr]
  simp only [bind, Except.bind, if_true]
  rw [show s.cursor.peek 1 = _ from hpeek]
  rfl

theorem step_escape {next : Text} {rest : List Text}
    (hr : s.cursor.remaining = escapeCluster :: next :: rest) :
    t.step s = .ok (s.addLiteral next 2) := by
  have hpeek := Cursor.peek_eq h 1
  rw [hr] at hpeek
  unfold step
  rw [Cursor.current_eq h hr]
  simp only [bind, Except.bind, if_true]
  rw [show s.cursor.peek 1 = _ from hpeek]
  rfl

variable {cluster : Text} {rest : List Text} (hr : s.cursor.remaining = cluster :: rest)
  (hc : cluster ≠ escapeCluster)
include hr hc

theorem step_literal (hmatch : (Alphabet.ofNames t.names).longestMatch? (cluster :: rest) = none) :
    t.step s = .ok (s.addLiteral cluster 1) := by
  have hlongest := longestMatch?_eq (t := t) h hr
  rw [hr, hmatch] at hlongest
  unfold step
  rw [Cursor.current_eq h hr]
  simp only [bind, Except.bind, if_neg hc, hlongest]
  rfl

theorem step_symbol {word : List Text}
    (hmatch : (Alphabet.ofNames t.names).longestMatch? (cluster :: rest) = some word) :
    t.step s = .ok (s.addSymbol word) := by
  have hlongest := longestMatch?_eq (t := t) h hr
  rw [hr, hmatch] at hlongest
  unfold step
  rw [Cursor.current_eq h hr]
  simp only [bind, Except.bind, if_neg hc, hlongest]
  rfl

end Steps

/-- A step before the end never fails.  It keeps the tokens of the pattern and passes a cluster. -/
theorem exists_step (h : s.cursor.IsInside) (hne : s.cursor.remaining ≠ []) :
    ∃ s', t.step s = .ok s' ∧ Progress.Continues (Alphabet.ofNames t.names) s s' := by
  obtain ⟨cluster, rest, hr⟩ := List.exists_cons_of_ne_nil hne
  by_cases hc : cluster = escapeCluster
  · subst hc
    cases rest with
    | nil =>
      refine ⟨_, step_dangling h hr, Progress.continues_addLiteral h hne Nat.one_pos ?_⟩
      rw [hr, scan_dangling, List.drop_one, List.tail_cons, scan_nil]
      rfl
    | cons next rest =>
      refine ⟨_, step_escape h hr, Progress.continues_addLiteral h hne Nat.two_pos ?_⟩
      rw [hr, scan_escape]
      rfl
  · cases hmatch : (Alphabet.ofNames t.names).longestMatch? (cluster :: rest) with
    | none =>
      refine ⟨_, step_literal h hr hc hmatch, Progress.continues_addLiteral h hne Nat.one_pos ?_⟩
      rw [hr, scan_literal hc hmatch]
      rfl
    | some word =>
      obtain ⟨-, hwne, hpre⟩ := Alphabet.longestMatch?_some hmatch
      refine ⟨_, step_symbol h hr hc hmatch, h.advance _, Progress.total_addSymbol h ?_, ?_⟩
      · obtain ⟨first, others, rfl⟩ := List.exists_cons_of_ne_nil hwne
        obtain ⟨behind, hbehind⟩ := hpre
        have hfirst : first = cluster := (List.cons.inj hbehind).1
        rw [← hbehind] at hmatch
        rw [hr, ← hbehind, scan_symbol (hfirst ▸ hc) hmatch, List.drop_left]
      · have hlength := List.length_pos_of_ne_nil hne
        have hword := List.length_pos_of_ne_nil hwne
        rw [Progress.addSymbol, Cursor.remaining_advance h, List.length_drop]
        omega

/-- As many steps as clusters remain take the loop to the end, without a failure. -/
theorem exists_runFor {most : Nat} (h : s.cursor.IsInside)
    (hmost : s.cursor.remaining.length ≤ most) :
    ∃ s', t.runFor most s = .ok s' ∧ s'.cursor.isAtEnd = true ∧
      s'.settled = s.total (Alphabet.ofNames t.names) := by
  induction most generalizing s with
  | zero =>
    have hnil : s.cursor.remaining = [] := List.length_eq_zero_iff.mp (Nat.le_zero.mp hmost)
    exact ⟨s, rfl, (Cursor.isAtEnd_iff h).mpr hnil, (Progress.total_of_remaining_nil hnil).symm⟩
  | succ most ih =>
    unfold runFor
    by_cases hend : s.cursor.isAtEnd = true
    · rw [if_pos hend]
      have hnil := (Cursor.isAtEnd_iff h).mp hend
      exact ⟨s, rfl, hend, (Progress.total_of_remaining_nil hnil).symm⟩
    · rw [if_neg hend]
      have hne : s.cursor.remaining ≠ [] := mt (Cursor.isAtEnd_iff h).mpr hend
      obtain ⟨s₁, hstep, hcontinues⟩ := exists_step (t := t) h hne
      have hshorter := hcontinues.shorter
      obtain ⟨s', hrun, hend', hsettled⟩ := ih hcontinues.inside (by omega)
      refine ⟨s', ?_, hend', hsettled.trans hcontinues.total⟩
      rw [hstep]
      exact hrun

/-- The loop over a pattern ends with the tokens that scanning gives. -/
theorem exists_runFor_start (t : Tokenizer) (pattern : Text) :
    ∃ s, t.runFor (graphemes pattern).length (.start pattern) = .ok s ∧ s.cursor.isAtEnd = true ∧
      s.settled = DatePattern.tokenize t.names pattern := by
  have hremaining : (Progress.start pattern).cursor.remaining = graphemes pattern :=
    Cursor.remaining_ofText pattern
  have htotal : (Progress.start pattern).total (Alphabet.ofNames t.names) =
      DatePattern.tokenize t.names pattern := by
    rw [Progress.total, hremaining]
    rfl
  rw [← hremaining, ← htotal]
  exact exists_runFor (Cursor.isInside_ofText pattern) (Nat.le_refl _)

theorem mem_names_of_ofNames? {t : Tokenizer} {names : List Text} (h : ofNames? names = some t)
    (n : Text) : n ∈ t.names ↔ n ∈ names := by
  unfold ofNames? at h
  split at h
  · cases h
    exact mem_distinct
  · cases h

theorem exists_ofNames? {names : List Text} (h : ∀ n ∈ names, n ≠ []) :
    ∃ t, ofNames? names = some t ∧ ∀ n, n ∈ t.names ↔ n ∈ names :=
  ⟨_, dif_pos h, mem_names_of_ofNames? (dif_pos h)⟩

/-- A tokenizer for some names comes to the end of a pattern within one step for each cluster, with
the tokens of the pattern over those names. -/
theorem exists_runFor_of_names {t : Tokenizer} {names : List Text}
    (hmem : ∀ n, n ∈ t.names ↔ n ∈ names) (pattern : Text) :
    (∃ s, t.runFor (graphemes pattern).length (.start pattern) = .ok s ∧
      s.cursor.isAtEnd = true ∧ t.tokenize pattern = .ok s.settled) ∧
    t.tokenize pattern = .ok (DatePattern.tokenize names pattern) := by
  obtain ⟨s, hrun, hend, hsettled⟩ := t.exists_runFor_start pattern
  have htokens : t.tokenize pattern = .ok s.settled := by
    rw [tokenize, hrun]
    rfl
  refine ⟨⟨s, hrun, hend, htokens⟩, ?_⟩
  rw [htokens, hsettled, tokenize_congr hmem]

/-- Names of which none is empty make a tokenizer.  On every pattern its loop comes to the end
within one step for each cluster and without a failure.  The pattern can be read by the rules, and
the tokens are those of its reading with each run of literals made one.  The same names in any other
order and number lead to the same tokens. -/
theorem tokenize_eq_merged {names : List Text} (hnames : ∀ n ∈ names, n ≠ []) (pattern : Text) :
    ∃ t, ofNames? names = some t ∧
      (∃ s, t.runFor (graphemes pattern).length (.start pattern) = .ok s ∧
        s.cursor.isAtEnd = true ∧ t.tokenize pattern = .ok s.settled) ∧
      t.tokenize pattern = .ok (DatePattern.tokenize names pattern) ∧
      (∃ ts, Reads names (graphemes pattern) ts) ∧
      (∀ ts, Reads names (graphemes pattern) ts → t.tokenize pattern = .ok (Token.merged ts)) ∧
      ∀ names', (∀ n, n ∈ names' ↔ n ∈ names) →
        ∃ t', ofNames? names' = some t' ∧ t'.tokenize pattern = t.tokenize pattern := by
  obtain ⟨t, ht, hmem⟩ := exists_ofNames? hnames
  obtain ⟨hloop, htokens⟩ := exists_runFor_of_names hmem pattern
  refine ⟨t, ht, hloop, htokens, exists_reads hnames _, fun ts hts => ?_, fun names' hsame => ?_⟩
  · rw [htokens]
    exact congrArg Except.ok (hts.scan_eq hnames)
  · obtain ⟨t', ht', hmem'⟩ := exists_ofNames? fun n hn => hnames n ((hsame n).mp hn)
    obtain ⟨-, htokens'⟩ := exists_runFor_of_names (fun n => (hmem' n).trans (hsame n)) pattern
    exact ⟨t', ht', htokens'.trans htokens.symm⟩

/-- Names that are one in front of the other, of several characters to a cluster and with an escape
inside. -/
theorem tokenize_eq_merged_nested :
    (∀ n ∈ [['d'], ['d', 'd'], ['d', '\\', 'e'], ['e', '\u0301']], n ≠ []) ∧
    ∃ t, ofNames? [['d'], ['d', 'd'], ['d', '\\', 'e'], ['e', '\u0301']] = some t ∧
      t.tokenize ['d', 'd', 'd', '\\', 'e', '\\', 'd', '-', 'e', '\u0301', '\\'] =
        .ok [.symbol ['d', 'd'], .symbol ['d', '\\', 'e'], .literal ['d', '-'],
          .symbol ['e', '\u0301'], .literal ['\\']] := by
  have hnames : ∀ n ∈ [['d'], ['d', 'd'], ['d', '\\', 'e'], ['e', '\u0301']], n ≠ [] := by
    simp
  obtain ⟨t, ht, -, htokens, -⟩ := tokenize_eq_merged hnames
    ['d', 'd', 'd', '\\', 'e', '\\', 'd', '-', 'e', '\u0301', '\\']
  refine ⟨hnames, t, ht, htokens.trans ?_⟩
  decide +kernel

end Tokenizer

end DatePattern
