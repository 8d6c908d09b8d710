/-
  Which token sequences patterns are read as.

  `Token.IsImage` lists what a sequence must satisfy over some names: no literal is empty, no two
  of them touch, symbols come from the names, literal text behind a symbol does not begin with a
  character that would join the symbol's last one, and each symbol is the longest name that the
  rest of its run begins with.

  `isImage_tokenize` says that every pattern is read as such a sequence.
-/
import DatePattern.Pattern.Written
import DatePattern.Proofs.Scanning

namespace DatePattern

open Text

namespace Token

/-- The text of the symbols that a token sequence begins with. -/
def runText : List Token → Text
  | .symbol name :: ts => name ++ runText ts
  | _ => []

/-- What a token sequence satisfies that a pattern is read as. -/
structure IsImage (names : List Text) (ts : List Token) : Prop where
  literal_ne_nil : ∀ t, .literal t ∈ ts → t ≠ []
  not_adjacent : ∀ s t rest, ¬(.literal s :: .literal t :: rest) <:+ ts
  symbol_mem : ∀ name, .symbol name ∈ ts → name ∈ names
  not_attaches : ∀ name c t rest, (.symbol name :: .literal (c :: t) :: rest) <:+ ts →
    (breakProperty c).attaches = false
  longest : ∀ name rest, (.symbol name :: rest) <:+ ts →
    ∀ m ∈ names, m <+: runText (.symbol name :: rest) → m.length ≤ name.length

/-- A literal that comes first does not begin with a mark or joiner. -/
def StartsFresh (ts : List Token) : Prop :=
  ∀ c t rest, ts = .literal (c :: t) :: rest → (breakProperty c).attaches = false

/-! ## Putting tokens in front -/

variable {names : List Text}

theorem isImage_nil : IsImage names [] where
  literal_ne_nil := by simp
  not_adjacent := by simp
  symbol_mem := by simp
  not_attaches := by simp
  longest := by simp

theorem IsImage.tail {t : Token} {ts : List Token} (h : IsImage names (t :: ts)) :
    IsImage names ts where
  literal_ne_nil u hu := h.literal_ne_nil u (List.mem_cons_of_mem _ hu)
  not_adjacent s u rest hs := h.not_adjacent s u rest (hs.trans (List.suffix_cons _ _))
  symbol_mem name hm := h.symbol_mem name (List.mem_cons_of_mem _ hm)
  not_attaches name c u rest hs := h.not_attaches name c u rest (hs.trans (List.suffix_cons _ _))
  longest name rest hs := h.longest name rest (hs.trans (List.suffix_cons _ _))

theorem IsImage.cons_literal {t : Text} {ts : List Token} (h : IsImage names ts) (ht : t ≠ [])
    (hts : ¬StartsLiteral ts) : IsImage names (.literal t :: ts) where
  literal_ne_nil u hu := by
    rcases List.mem_cons.mp hu with heq | hu
    · cases heq
      exact ht
    · exact h.literal_ne_nil u hu
  not_adjacent s u rest hs := by
    rcases List.suffix_cons_iff.mp hs with heq | hs
    · injection heq with _ heq
      exact hts ⟨u, rest, heq.symm⟩
    · exact h.not_adjacent s u rest hs
  symbol_mem name hm := by
    rcases List.mem_cons.mp hm with heq | hm
    · cases heq
    · exact h.symbol_mem name hm
  not_attaches name c u rest hs := by
    rcases List.suffix_cons_iff.mp hs with heq | hs
    · cases heq
    · exact h.not_attaches name c u rest hs
  longest name rest hs := by
    rcases List.suffix_cons_iff.mp hs with heq | hs
    · cases heq
    · exact h.longest name rest hs

theorem IsImage.cons_symbol {name : Text} {ts : List Token} (h : IsImage names ts)
    (hname : name ∈ names) (hfresh : StartsFresh ts)
    (hlong : ∀ m ∈ names, m <+: runText (.symbol name :: ts) → m.length ≤ name.length) :
    IsImage names (.symbol name :: ts) where
  literal_ne_nil u hu := by
    rcases List.mem_cons.mp hu with heq | hu
    · cases heq
    · exact h.literal_ne_nil u hu
  not_adjacent s u rest hs := by
    rcases List.suffix_cons_iff.mp hs with heq | hs
    · cases heq
    · exact h.not_adjacent s u rest hs
  symbol_mem n hm := by
    rcases List.mem_cons.mp hm with heq | hm
    · cases heq
      exact hname
    · exact h.symbol_mem n hm
  not_attaches n c u rest hs := by
    rcases List.suffix_cons_iff.mp hs with heq | hs
    · injection heq with _ heq
      exact hfresh c u rest heq.symm
    · exact h.not_attaches n c u rest hs
  longest n rest hs := by
    rcases List.suffix_cons_iff.mp hs with heq | hs
    · injection heq with hn heq
      injection hn with hn
      subst hn
      subst heq
      exact hlong
    · exact h.longest n rest hs

theorem IsImage.joinLiteral {u : Text} {ts : List Token} (h : IsImage names ts) (hu : u ≠ []) :
    IsImage names (joinLiteral u ts) := by
  cases ts with
  | nil => exact h.cons_literal hu not_startsLiteral_nil
  | cons t ts =>
    cases t with
    | literal v =>
      have hts : ¬StartsLiteral ts := by
        rintro ⟨w, rest, rfl⟩
        exact h.not_adjacent v w rest List.suffix_rfl
      exact h.tail.cons_literal (by simp [hu]) hts
    | symbol name => exact h.cons_literal hu (not_startsLiteral_symbol name ts)

theorem startsFresh_joinLiteral {c : Char} (hc : (breakProperty c).attaches = false) (u : Text)
    (ts : List Token) : StartsFresh (Token.joinLiteral (c :: u) ts) := by
  intro d t rest heq
  have hd : d = c := by
    cases ts with
    | nil =>
      injection heq with heq _
      injection heq with heq
      exact (List.cons.inj heq).1.symm
    | cons v ts =>
      cases v <;>
      · injection heq with heq _
        injection heq with heq
        exact (List.cons.inj heq).1.symm
  rw [hd]
  exact hc

theorem runText_joinLiteral (u : Text) (ts : List Token) :
    runText (Token.joinLiteral u ts) = [] := by
  cases ts with
  | nil => rfl
  | cons v ts => cases v <;> rfl

end Token

/-! ## Every pattern is read as such a sequence -/

section Reading

variable {names : List Text}

/-- A list of clusters that does not begin with a mark or joiner. -/
def FreshHead (clusters : List Text) : Prop :=
  ∀ c u rest, clusters = (c :: u) :: rest → (breakProperty c).attaches = false

/-- What a scan of clusters with boundaries between them is read as: the symbols at its beginning
are what the clusters begin with. -/
structure Reading (names : List Text) (clusters : List Text) (ts : List Token) : Prop where
  image : Token.IsImage names ts
  run : singles (Token.runText ts) <+: clusters
  fresh : FreshHead clusters → Token.StartsFresh ts

theorem freshHead_of_breaks {c : Char} (hc : breakProperty c = .other) {rest : List Text}
    (h : ([c] :: rest).IsChain Breaks) : FreshHead rest := by
  intro d u us heq
  subst heq
  exact (breaks_of_other hc d u).mp (List.isChain_cons_cons.mp h).1

theorem breakProperty_backslash : breakProperty '\\' = .other := by
  decide

/-- Behind a plain name boundaries fall in front of all but marks and joiners. -/
theorem IsPlainName.freshHead {name : Text} (hn : IsPlainName name) {rest : List Text}
    (h : (singles name ++ rest).IsChain Breaks) : FreshHead rest := by
  obtain ⟨t, c, rfl⟩ := (List.eq_nil_or_concat name).resolve_left hn.ne_nil
  rw [List.concat_eq_append, singles_append, List.append_assoc] at h
  exact freshHead_of_breaks (hn.other c (by simp)) h.right_of_append

theorem reading_scan (hn : ∀ n ∈ names, IsPlainName n) (clusters : List Text)
    (hne : ∀ u ∈ clusters, u ≠ []) (hchain : clusters.IsChain Breaks) :
    Reading names clusters (scan (Alphabet.ofNames names) 0 clusters) := by
  revert hne hchain
  refine scan_induction (P := fun clusters ts => (∀ u ∈ clusters, u ≠ []) →
    clusters.IsChain Breaks → Reading names clusters ts) ?hnil ?hdangling ?hescape
    ?hliteral ?hsymbol clusters
  case hnil =>
    intro _ _
    exact ⟨Token.isImage_nil, List.prefix_rfl, fun _ c t rest h => by cases h⟩
  case hdangling =>
    intro _ _
    refine ⟨Token.isImage_nil.cons_literal (by simp [escapeCluster]) Token.not_startsLiteral_nil,
      List.nil_prefix, fun hf c t rest h => ?_⟩
    injection h with h _
    injection h with h
    exact hf c t [] (by rw [h])
  case hescape =>
    intro next rest ih hne hchain
    have hnext : next ≠ [] := hne next (by simp)
    have hrest := ih (fun u hu => hne u (by simp [hu])) hchain.tail.tail
    obtain ⟨c, u, rfl⟩ := List.exists_cons_of_ne_nil hnext
    have hc := freshHead_of_breaks breakProperty_backslash hchain c u rest rfl
    refine ⟨hrest.image.joinLiteral hnext, ?_, fun _ => Token.startsFresh_joinLiteral hc u _⟩
    rw [Token.runText_joinLiteral]
    exact List.nil_prefix
  case hliteral =>
    intro cluster rest _ _ ih hne hchain
    have hcluster : cluster ≠ [] := hne cluster List.mem_cons_self
    have hrest := ih (fun u hu => hne u (List.mem_cons_of_mem _ hu)) hchain.tail
    obtain ⟨c, u, rfl⟩ := List.exists_cons_of_ne_nil hcluster
    refine ⟨hrest.image.joinLiteral hcluster, ?_,
      fun hf => Token.startsFresh_joinLiteral (hf c u rest rfl) u _⟩
    rw [Token.runText_joinLiteral]
    exact List.nil_prefix
  case hsymbol =>
    intro cluster word rest _ hmatch ih hne hchain
    obtain ⟨n, hmem, hword, -, hlong⟩ := (longestMatch?_plain hn).mp hmatch
    rw [hword] at hne hchain ⊢
    have hrest := ih (fun u hu => hne u (List.mem_append_right _ hu)) hchain.right_of_append
    have hrun : singles (Token.runText (.symbol n :: scan (Alphabet.ofNames names) 0 rest)) <+:
        singles n ++ rest := by
      rw [Token.runText, singles_append]
      exact (List.prefix_append_right_inj _).mpr hrest.run
    rw [flatten_singles]
    refine ⟨hrest.image.cons_symbol hmem (hrest.fresh ((hn n hmem).freshHead hchain)) ?_, hrun, ?_⟩
    · intro m hm hpre
      refine hlong m hm ?_
      rw [hword]
      exact (singles_prefix_iff.mpr hpre).trans hrun
    · intro _ c t ts h
      cases h

theorem isImage_tokenize (hn : ∀ n ∈ names, IsPlainName n) (pattern : Text) :
    Token.IsImage names (tokenize names pattern) :=
  (reading_scan hn (graphemes pattern) (fun _ hu => ne_nil_of_mem_graphemes hu)
    (isChain_graphemes pattern)).image

end Reading

end DatePattern
