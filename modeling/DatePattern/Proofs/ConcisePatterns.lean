/-
  Patterns that writing their tokens does not change.

  Writing escapes a literal cluster if it is the escape or stands in some name, and no other one.  A
  pattern in which each piece is as writing would have it is `IsConcise`.  In such a pattern the
  clusters of a literal are those that it had in the pattern, because the escapes between them stood
  in front of plain characters.  Conversely what is written is concise, as reading it back shows.

  * `Token.write_merged_of_concise`: concise pieces are written as they are.
  * `Token.concise_of_mem_written`: the pieces of the written form are concise.
  * `write_tokenize_eq_iff`: the patterns that are not changed are the concise ones.
-/
import DatePattern.Proofs.Pieces
import DatePattern.Proofs.RoundTrip

namespace DatePattern

open Text

/-- A piece as it would be written, with the given clusters escaped in literals. -/
def Piece.IsConcise (reserved : List Text) : Piece → Prop
  | .dangling => False
  | .escaped cluster => cluster ∈ reserved
  | .symbol _ => True
  | .literal cluster => cluster ∉ reserved

instance (reserved : List Text) : (piece : Piece) → Decidable (piece.IsConcise reserved)
  | .dangling => isFalse id
  | .escaped cluster => inferInstanceAs (Decidable (cluster ∈ reserved))
  | .symbol _ => isTrue trivial
  | .literal cluster => inferInstanceAs (Decidable (cluster ∉ reserved))

/-- A pattern in which nothing is redundant: no escape stands at the end, no cluster is escaped but
the escape and those of the names, and of the latter none is literal without an escape. -/
structure IsConcise (names : List Text) (pattern : Text) : Prop where
  not_dangling : .dangling ∉ pieces names pattern
  escaped : ∀ u, .escaped u ∈ pieces names pattern →
    u = escapeCluster ∨ ∃ n ∈ names, u ∈ graphemes n
  literal : ∀ u, .literal u ∈ pieces names pattern → ∀ n ∈ names, u ∉ graphemes n

theorem ne_escapeCluster_of_literal_mem {a : Alphabet} {clusters : List Text} {u : Text}
    (h : .literal u ∈ scanPieces a 0 clusters) : u ≠ escapeCluster := by
  revert h
  refine scanPieces_induction (a := a) (P := fun _ ps => .literal u ∈ ps → u ≠ escapeCluster)
    ?nil ?dangling ?escape ?literal ?symbol clusters
  case nil => simp
  case dangling => simp
  case escape =>
    intro next rest ih h
    exact ih ((List.mem_cons.mp h).resolve_left (by simp))
  case literal =>
    intro cluster rest hc _ ih h
    rcases List.mem_cons.mp h with h | h
    · injection h with h
      rwa [h]
    · exact ih h
  case symbol =>
    intro cluster word rest _ _ ih h
    exact ih ((List.mem_cons.mp h).resolve_left (by simp))

/-- A pattern is concise if each of its pieces is. -/
theorem isConcise_iff {names : List Text} {pattern : Text} :
    IsConcise names pattern ↔
      ∀ piece ∈ pieces names pattern, piece.IsConcise (Token.reserved names) := by
  constructor
  · intro h piece hpiece
    cases piece with
    | dangling => exact h.not_dangling hpiece
    | escaped u => exact Token.mem_reserved.mpr (h.escaped u hpiece)
    | symbol word => trivial
    | literal u =>
      intro hu
      rcases Token.mem_reserved.mp hu with hu | ⟨n, hn, hmem⟩
      · exact ne_escapeCluster_of_literal_mem hpiece hu
      · exact h.literal u hpiece n hn hmem
  · intro h
    refine ⟨fun hpiece => h _ hpiece, fun u hpiece => Token.mem_reserved.mp (h _ hpiece), ?_⟩
    intro u hpiece n hn hmem
    exact h _ hpiece (Token.mem_reserved.mpr (Or.inr ⟨n, hn, hmem⟩))

instance (names : List Text) (pattern : Text) : Decidable (IsConcise names pattern) :=
  decidable_of_iff _ isConcise_iff.symm

namespace Token

variable {names : List Text}

/-! ## Concise pieces are written as they are -/

theorem exists_append_of_joinLiteral {u v : Text} {ts rest : List Token}
    (h : joinLiteral u ts = .literal v :: rest) : ∃ k, v = u ++ k := by
  cases ts with
  | nil =>
    cases h
    exact ⟨[], (List.append_nil u).symm⟩
  | cons t ts =>
    cases t with
    | literal k =>
      cases h
      exact ⟨k, rfl⟩
    | symbol name =>
      cases h
      exact ⟨[], (List.append_nil u).symm⟩

/-- A cluster that is joined to a literal with a boundary between them is written in front of it. -/
theorem write_joinLiteral {u : Text} (hu : IsCluster u) {ts : List Token}
    (h : ∀ v rest, ts = .literal v :: rest → Breaks u v) :
    write names (joinLiteral u ts) = writeCluster (reserved names) u ++ write names ts := by
  have hsingle : (Token.literal u).written (reserved names) = writeCluster (reserved names) u := by
    rw [written, show graphemes u = [u] from hu, List.flatMap_singleton]
  by_cases hts : StartsLiteral ts
  · obtain ⟨v, rest, rfl⟩ := hts
    rw [joinLiteral, write_cons, write_cons, ← hsingle, written, written, written,
      graphemes_append (h v rest rfl), List.flatMap_append, List.append_assoc]
  · rw [joinLiteral_of_not_startsLiteral u hts, write_cons, hsingle]

/-- What concise pieces are written as.  The literal that they begin with, if they do, keeps the
boundary in front of it. -/
theorem write_merged_of_concise (hn : ∀ n ∈ names, IsPlainName n) {a : Alphabet}
    {clusters : List Text} (hclusters : ∀ u ∈ clusters, IsCluster u)
    (hchain : clusters.IsChain Breaks)
    (hconcise : ∀ piece ∈ scanPieces a 0 clusters, piece.IsConcise (reserved names)) :
    write names (scan a 0 clusters) = clusters.flatten ∧
      ∀ u, (u :: clusters).IsChain Breaks →
        ∀ v rest, scan a 0 clusters = .literal v :: rest → Breaks u v := by
  rw [scan_eq_merged]
  revert hclusters hchain hconcise
  refine scanPieces_induction (a := a) (P := fun clusters ps => (∀ u ∈ clusters, IsCluster u) →
    clusters.IsChain Breaks → (∀ piece ∈ ps, piece.IsConcise (reserved names)) →
      write names (merged (ps.map Piece.token)) = clusters.flatten ∧
        ∀ u, (u :: clusters).IsChain Breaks →
          ∀ v rest, merged (ps.map Piece.token) = .literal v :: rest → Breaks u v)
    ?nil ?dangling ?escape ?literal ?symbol clusters
  case nil =>
    intro _ _ _
    refine ⟨rfl, fun u _ v rest h => ?_⟩
    cases h
  case dangling =>
    intro _ _ hconcise
    exact absurd (hconcise _ List.mem_cons_self) id
  case escape =>
    intro next rest ih hclusters hchain hconcise
    obtain ⟨hnext, hps⟩ := List.forall_mem_cons.mp hconcise
    have hreserved : next ∈ reserved names := hnext
    obtain ⟨hwrite, hbreaks⟩ := ih (fun u hu => hclusters u (by simp [hu])) hchain.tail.tail hps
    rw [List.map_cons, Piece.token, merged_cons_literal,
      write_joinLiteral (hclusters next (by simp)) (hbreaks next hchain.tail), hwrite,
      writeCluster, if_pos hreserved]
    refine ⟨by simp, fun u _ v rest h => ?_⟩
    obtain ⟨k, rfl⟩ := exists_append_of_joinLiteral h
    obtain ⟨c, rfl, hc⟩ := isPlainSet_reserved hn next hreserved
    exact breaks_other u hc k
  case literal =>
    intro cluster rest _ _ ih hclusters hchain hconcise
    obtain ⟨hliteral, hps⟩ := List.forall_mem_cons.mp hconcise
    have hfree : cluster ∉ reserved names := hliteral
    have hcluster : IsCluster cluster := hclusters cluster List.mem_cons_self
    obtain ⟨hwrite, hbreaks⟩ := ih (fun u hu => hclusters u (by simp [hu])) hchain.tail hps
    rw [List.map_cons, Piece.token, merged_cons_literal,
      write_joinLiteral hcluster (hbreaks cluster hchain), hwrite, writeCluster, if_neg hfree]
    refine ⟨rfl, fun u hu v rest h => ?_⟩
    obtain ⟨k, rfl⟩ := exists_append_of_joinLiteral h
    exact (breaks_append_right k hcluster.ne_nil).mpr (List.isChain_cons_cons.mp hu).1
  case symbol =>
    intro cluster word rest _ _ ih hclusters hchain hconcise
    obtain ⟨-, hps⟩ := List.forall_mem_cons.mp hconcise
    obtain ⟨hwrite, -⟩ :=
      ih (fun u hu => hclusters u (List.mem_append_right _ hu)) hchain.right_of_append hps
    rw [List.map_cons, Piece.token, merged_cons_symbol, write_cons, hwrite, List.flatten_append]
    refine ⟨rfl, fun u _ v rest h => ?_⟩
    cases h

/-! ## What is written is concise -/

theorem scanPieces_written_literal (hn : ∀ n ∈ names, IsPlainName n) {us rest : List Text}
    (h : ∀ piece ∈ scanPieces (.ofNames names) 0 rest, piece.IsConcise (reserved names)) :
    ∀ piece ∈ scanPieces (.ofNames names) 0 (us.flatMap (writtenCluster (reserved names)) ++ rest),
      piece.IsConcise (reserved names) := by
  induction us with
  | nil => exact h
  | cons u us ih =>
    rw [List.flatMap_cons, List.append_assoc]
    by_cases hu : u ∈ reserved names
    · simp only [writtenCluster, if_pos hu, List.cons_append, List.nil_append]
      rw [scanPieces_escape]
      exact List.forall_mem_cons.mpr ⟨hu, ih⟩
    · simp only [writtenCluster, if_neg hu, List.cons_append, List.nil_append]
      rw [scanPieces_literal (ne_escapeCluster_of_not_mem_reserved hu)
        (longestMatch?_of_not_mem_reserved hn hu _)]
      exact List.forall_mem_cons.mpr ⟨hu, ih⟩

theorem concise_of_mem_written (hn : ∀ n ∈ names, IsPlainName n) {ts : List Token}
    (h : IsImage names ts) :
    ∀ piece ∈ scanPieces (.ofNames names) 0 (ts.flatMap (writtenClusters (reserved names))),
      piece.IsConcise (reserved names) := by
  induction ts with
  | nil => simp [scanPieces_nil]
  | cons t ts ih =>
    rw [List.flatMap_cons]
    cases t with
    | literal t => exact scanPieces_written_literal hn (ih h.tail)
    | symbol name =>
      have hname := hn name (h.symbol_mem name List.mem_cons_self)
      have hmatch := longestMatch?_written_symbol hn h
      obtain ⟨c, n, rfl⟩ := hname.exists_cons
      have hpieces := scanPieces_symbol (hname.singleton_ne_escape List.mem_cons_self) hmatch
      rw [writtenClusters]
      refine (congrArg (fun ps => ∀ piece ∈ ps, piece.IsConcise (reserved names)) hpieces).mpr ?_
      exact List.forall_mem_cons.mpr ⟨trivial, ih h.tail⟩

theorem write_tokenize_eq_iff_isConcise (hn : ∀ n ∈ names, IsPlainName n) (pattern : Text) :
    write names (tokenize names pattern) = pattern ↔ IsConcise names pattern := by
  rw [isConcise_iff]
  constructor
  · intro h
    have himage := isImage_tokenize hn pattern
    have hclusters : graphemes pattern =
        (tokenize names pattern).flatMap (writtenClusters (reserved names)) := by
      rw [← graphemes_write hn himage, h]
    rw [pieces, hclusters]
    exact concise_of_mem_written hn himage
  · intro h
    obtain ⟨hwrite, -⟩ := write_merged_of_concise hn
      (fun u hu => isCluster_of_mem_graphemes hu) (isChain_graphemes pattern) h
    rw [tokenize, hwrite, flatten_graphemes]

end Token

/-- With names of plain characters, of which one is empty exactly if there is no tokenizer for them,
a pattern is the written form of its tokens exactly if it is concise. -/
theorem write_tokenize_eq_iff {names : List Text}
    (hn : ∀ n ∈ names, ∀ c ∈ n, breakProperty c = .other ∧ c ≠ '\\') (pattern : Text) :
    (Tokenizer.ofNames? names = none ↔ [] ∈ names) ∧
    ∀ t, Tokenizer.ofNames? names = some t →
      t.runFor (graphemes pattern).length (.start pattern) =
        .ok ((pieces names pattern).foldl Tokenizer.Progress.read (.start pattern)) ∧
      ∃ ts, t.tokenize pattern = .ok ts ∧
        (Token.write names ts = pattern ↔ IsConcise names pattern) := by
  refine ⟨Tokenizer.ofNames?_eq_none_iff, fun t ht => ?_⟩
  have hnames : ∀ n ∈ names, n ≠ [] := by
    rintro n hmem rfl
    rw [Tokenizer.ofNames?_eq_none_iff.mpr hmem] at ht
    cases ht
  have hplain : ∀ n ∈ names, IsPlainName n := fun n hmem =>
    ⟨hnames n hmem, fun c hc => (hn n hmem c hc).1, fun c hc => (hn n hmem c hc).2⟩
  obtain ⟨t', ht', hmem⟩ := Tokenizer.exists_ofNames? hnames
  rw [ht] at ht'
  cases ht'
  exact ⟨Tokenizer.runFor_eq_foldl_read hmem pattern, _,
    (Tokenizer.exists_runFor_of_names hmem pattern).2,
    Token.write_tokenize_eq_iff_isConcise hplain pattern⟩

/-- A letter of a longer name is written with an escape, so with the name `SS` the pattern `S` is
changed, and `\S\\SS` is not. -/
theorem write_tokenize_eq_iff_letters :
    (∀ n ∈ [['S', 'S']], ∀ c ∈ n, breakProperty c = .other ∧ c ≠ '\\') ∧
      ¬ IsConcise [['S', 'S']] ['S'] ∧
      IsConcise [['S', 'S']] ['\\', 'S', '\\', '\\', 'S', 'S'] ∧
      ∃ t, Tokenizer.ofNames? [['S', 'S']] = some t ∧
        (∃ ts, t.tokenize ['S'] = .ok ts ∧ Token.write [['S', 'S']] ts ≠ ['S']) ∧
        ∃ ts, t.tokenize ['\\', 'S', '\\', '\\', 'S', 'S'] = .ok ts ∧
          Token.write [['S', 'S']] ts = ['\\', 'S', '\\', '\\', 'S', 'S'] := by
  have hn : ∀ n ∈ [['S', 'S']], ∀ c ∈ n, breakProperty c = .other ∧ c ≠ '\\' := by
    intro n hn c hc
    rw [List.mem_singleton.mp hn] at hc
    have hS : c = 'S' := by simpa using hc
    rw [hS]
    decide +kernel
  have hshort : ¬ IsConcise [['S', 'S']] ['S'] := by decide +kernel
  have hlong : IsConcise [['S', 'S']] ['\\', 'S', '\\', '\\', 'S', 'S'] := by decide +kernel
  have hsome : Tokenizer.ofNames? [['S', 'S']] ≠ none :=
    mt (write_tokenize_eq_iff hn []).1.mp (by decide)
  obtain ⟨t, ht⟩ := Option.ne_none_iff_exists'.mp hsome
  obtain ⟨-, ts, hts, hiff⟩ := (write_tokenize_eq_iff hn ['S']).2 t ht
  obtain ⟨-, us, hus, hiff'⟩ :=
    (write_tokenize_eq_iff hn ['\\', 'S', '\\', '\\', 'S', 'S']).2 t ht
  exact ⟨hn, hshort, hlong, t, ht, ⟨ts, hts, mt hiff.mp hshort⟩, us, hus, hiff'.mpr hlong⟩

end DatePattern
