/-
  Tokens that call every symbol by its own name.

  An alias leads to the definition of its symbol, and so does the symbol's own name.  Writing the
  own name for each alias therefore changes no look-up: the tokens are formatted alike, and their
  programs hold the same sources.  Names that were different can become one.  A program declares
  each name and imports each line where it first comes, so what is declared can only become less,
  and the import lines stay as they are, in their order.

  * `Text.distinct_flatMap_distinct`: repeated members add nothing to what all of them add.
  * `SymbolTable.IsResolved.isSynonym_ownName`: a name and the own name have one definition.
  * `Token.formatAll_rename`: tokens with names that have the same definitions are formatted alike.
  * `Program.imports_of_emit`: the import lines of a program, by the names that its tokens use.
  * `Program.emit_rename`: the program for the renamed tokens.
-/
import DatePattern.Proofs.Outcomes
import DatePattern.Proofs.ProgramShape
import Mathlib.Data.List.Perm.Subperm

namespace DatePattern

open Text

/-! ## Distinct members -/

namespace Text

section Distinct

variable {α β : Type}

theorem findSome?_congr {f g : α → Option β} {xs : List α} (h : ∀ x ∈ xs, f x = g x) :
    xs.findSome? f = xs.findSome? g := by
  induction xs with
  | nil => rfl
  | cons x xs ih =>
    obtain ⟨hx, hrest⟩ := List.forall_mem_cons.mp h
    rw [List.findSome?_cons, List.findSome?_cons, hx, ih hrest]

variable [DecidableEq α]

theorem distinct_append_congr {xs ys : List α} (h : distinct xs = distinct ys) (zs : List α) :
    distinct (xs ++ zs) = distinct (ys ++ zs) := by
  induction zs using List.reverseRecOn with
  | nil => rwa [List.append_nil, List.append_nil]
  | append_singleton zs z ih =>
    have hmem : z ∈ xs ++ zs ↔ z ∈ ys ++ zs := by rw [← mem_distinct, ih, mem_distinct]
    rw [← List.append_assoc, ← List.append_assoc, distinct_concat, distinct_concat, ih]
    simp only [hmem]

theorem distinct_append_of_subset {xs ys : List α} (h : ys ⊆ xs) :
    distinct (xs ++ ys) = distinct xs := by
  induction ys using List.reverseRecOn with
  | nil => rw [List.append_nil]
  | append_singleton ys y ih =>
    obtain ⟨hys, hy⟩ := List.append_subset.mp h
    have hmem : y ∈ xs ++ ys := List.mem_append_left ys (hy (List.mem_singleton_self y))
    rw [← List.append_assoc, distinct_concat, if_pos hmem, ih hys]

theorem findSome?_distinct (f : α → Option β) (xs : List α) :
    (distinct xs).findSome? f = xs.findSome? f := by
  induction xs using List.reverseRecOn with
  | nil => rfl
  | append_singleton xs x ih =>
    rw [distinct_concat, List.findSome?_append]
    by_cases hx : x ∈ xs
    · rw [if_pos hx, ih]
      cases hfirst : xs.findSome? f with
      | some y => rfl
      | none =>
        have hnone : f x = none := List.findSome?_eq_none_iff.mp hfirst x hx
        rw [List.findSome?_singleton, hnone]
        rfl
    · rw [if_neg hx, List.findSome?_append, ih]

variable [DecidableEq β]

/-- A member that comes again adds nothing that it has not added before. -/
theorem distinct_flatMap_distinct (f : α → List β) (xs : List α) :
    distinct ((distinct xs).flatMap f) = distinct (xs.flatMap f) := by
  induction xs using List.reverseRecOn with
  | nil => rfl
  | append_singleton xs x ih =>
    rw [List.flatMap_append, List.flatMap_singleton, distinct_concat]
    by_cases hx : x ∈ xs
    · have hsub : f x ⊆ xs.flatMap f := fun y hy => List.mem_flatMap.mpr ⟨x, hx, hy⟩
      rw [if_pos hx, ih, distinct_append_of_subset hsub]
    · rw [if_neg hx, List.flatMap_append, List.flatMap_singleton]
      exact distinct_append_congr ih (f x)

/-- Under a map distinct members can become one, but no new ones arise. -/
theorem length_distinct_map_le (f : α → β) (xs : List α) :
    (distinct (xs.map f)).length ≤ (distinct xs).length := by
  have hsub : distinct (xs.map f) ⊆ (distinct xs).map f := by
    intro y hy
    obtain ⟨x, hx, rfl⟩ := List.mem_map.mp (mem_distinct.mp hy)
    exact List.mem_map_of_mem (mem_distinct.mpr hx)
  rw [← List.length_map f]
  exact (List.subperm_of_subset (nodup_distinct _) hsub).length_le

end Distinct

end Text

/-! ## Other names -/

/-- A token with its symbol called by another name. -/
def Token.rename (ρ : Text → Text) : Token → Token
  | .literal u => .literal u
  | .symbol name => .symbol (ρ name)

/-- A token with its symbol called by its own name. -/
def Token.canonical (t : SymbolTable) : Token → Except UnknownSymbol Token
  | .literal u => .ok (.literal u)
  | .symbol name => Token.symbol <$> t.canonicalName name

namespace SymbolTable

variable {t : SymbolTable} {m n : Text}

/-- The own name of the symbol with a name or alias; any other name stands for itself. -/
def ownName (t : SymbolTable) (n : Text) : Text := (t.canonicalName n).toOption.getD n

/-- Both names lead to one definition. -/
def IsSynonym (t : SymbolTable) (m n : Text) : Prop :=
  ∃ d, t.lookup? m = some d ∧ t.lookup? n = some d

theorem IsSynonym.get (h : t.IsSynonym m n) :
    ∃ d, t.get m = .ok d ∧ t.get n = .ok d := by
  obtain ⟨d, hm, hn⟩ := h
  refine ⟨d, ?_, ?_⟩
  · rw [SymbolTable.get, hm]
  · rw [SymbolTable.get, hn]

theorem IsSynonym.lookup?_eq (h : t.IsSynonym m n) : t.lookup? n = t.lookup? m := by
  obtain ⟨d, hm, hn⟩ := h
  rw [hm, hn]

theorem IsResolved.isSynonym_ownName (h : t.IsResolved) (hn : n ∈ t.names) :
    t.canonicalName n = .ok (t.ownName n) ∧ t.IsSynonym n (t.ownName n) := by
  obtain ⟨c, d, hname, -, -, hlookup, hlookup', -⟩ := h.resolves hn
  have hown : t.ownName n = c := by
    rw [ownName, hname]
    rfl
  rw [hown]
  exact ⟨hname, d, hlookup, hlookup'⟩

end SymbolTable

namespace Token

variable {t : SymbolTable} {ρ : Text → Text} {tokens : List Token}

theorem symbolNames_rename (ρ : Text → Text) (tokens : List Token) :
    symbolNames (tokens.map (rename ρ)) = (symbolNames tokens).map ρ := by
  induction tokens with
  | nil => rfl
  | cons token tokens ih =>
    cases token with
    | literal u => exact ih
    | symbol name => exact congrArg (ρ name :: ·) ih

theorem mapM_canonical (h : t.IsResolved) (hnames : ∀ n ∈ symbolNames tokens, n ∈ t.names) :
    tokens.mapM (canonical t) = .ok (tokens.map (rename t.ownName)) := by
  rw [mapM_eq_ok_iff, List.forall₂_map_right_iff, List.forall₂_same]
  intro token htoken
  cases token with
  | literal u => rfl
  | symbol name =>
    have hname := hnames name (mem_symbolNames.mpr htoken)
    exact map_eq_ok_iff.mpr ⟨_, (h.isSynonym_ownName hname).1, rfl⟩

/-- Names with the same definitions are formatted alike. -/
theorem formatAll_rename (h : ∀ n ∈ symbolNames tokens, t.IsSynonym n (ρ n)) (i : Instant)
    (x : LocaleContext) :
    formatAll t i x (tokens.map (rename ρ)) = formatAll t i x tokens := by
  induction tokens with
  | nil => rfl
  | cons token tokens ih =>
    cases token with
    | literal u =>
      rw [List.map_cons, formatAll, formatAll, ih h]
      rfl
    | symbol name =>
      obtain ⟨hname, hrest⟩ := List.forall_mem_cons.mp h
      obtain ⟨d, hget, hget'⟩ := hname.get
      rw [List.map_cons, formatAll, formatAll, ih hrest, rename, format, format, hget, hget']

end Token

/-! ## Emitting -/

namespace SymbolTable

variable {t : SymbolTable} {m n : Text}

/-- The import lines that a symbol needs, by one of its names. -/
def importsOf (t : SymbolTable) (n : Text) : List Text :=
  ((t.lookup? n).map (·.imports)).getD []

theorem IsSynonym.importsOf_eq (h : t.IsSynonym m n) : t.importsOf n = t.importsOf m := by
  rw [importsOf, importsOf, h.lookup?_eq]

end SymbolTable

namespace Program

variable {t : SymbolTable} {locale functionName parameter : Text} {tokens : List Token}
  {p : Program} {ρ : Text → Text}

theorem names_of_emit (h : emit t locale functionName parameter tokens = .ok p) :
    p.declarations.map (·.name) = distinct (Token.symbolNames tokens) := by
  obtain ⟨d, hd, rfl⟩ := covers_of_emit h
  exact hd.names_eq

theorem flatMap_imports_eq {vs : List Declaration} {ss : List SymbolDefinition}
    (h : List.Forall₂ (fun v s => t.get v.name = .ok s ∧ s.renderSource parameter = .ok v.source)
      vs ss) : ss.flatMap (·.imports) = (vs.map (·.name)).flatMap t.importsOf := by
  induction h with
  | nil => rfl
  | @cons v s vs ss hs hrest ih =>
    have hlines : t.importsOf v.name = s.imports := by
      rw [SymbolTable.importsOf, SymbolTable.lookup?_of_get hs.1]
      rfl
    rw [List.map_cons, List.flatMap_cons, List.flatMap_cons, ih, hlines]

theorem imports_of_emit (h : emit t locale functionName parameter tokens = .ok p) :
    p.imports = distinct ((Token.symbolNames tokens).flatMap t.importsOf) := by
  obtain ⟨d, hd, rfl⟩ := covers_of_emit h
  obtain ⟨ss, hall, himports⟩ := hd.entries
  rw [himports, flatMap_imports_eq hall, hd.names_eq, distinct_flatMap_distinct]

/-- Every name that the tokens use has a source. -/
theorem exists_source_of_emit (h : emit t locale functionName parameter tokens = .ok p) {n : Text}
    (hn : n ∈ Token.symbolNames tokens) :
    ∃ s source, t.lookup? n = some s ∧ s.renderSource parameter = .ok source := by
  have hdeclared : n ∈ p.declarations.map (·.name) := by rwa [names_of_emit h, mem_distinct]
  obtain ⟨d, hd, rfl⟩ := covers_of_emit h
  obtain ⟨ss, hall, -⟩ := hd.entries
  obtain ⟨v, hv, rfl⟩ := List.mem_map.mp hdeclared
  obtain ⟨s, -, hget, hrender⟩ := exists_of_forall₂ hall hv
  exact ⟨s, v.source, SymbolTable.lookup?_of_get hget, hrender⟩

/-- The program for the renamed tokens, where each new name has the definition of the old one. -/
theorem emit_rename (h : emit t locale functionName parameter tokens = .ok p)
    (hρ : ∀ n ∈ Token.symbolNames tokens, t.IsSynonym n (ρ n)) :
    ∃ p', emit t locale functionName parameter (tokens.map (Token.rename ρ)) = .ok p' ∧
      p'.imports = p.imports ∧ p'.declarations.length ≤ p.declarations.length := by
  have hnames := Token.symbolNames_rename ρ tokens
  obtain ⟨hcheck, -⟩ := emit_eq_ok_iff.mp h
  have hsources : ∀ name, .symbol name ∈ tokens.map (Token.rename ρ) →
      ∃ s source, t.lookup? name = some s ∧ s.renderSource parameter = .ok source := by
    intro name hname
    rw [← Token.mem_symbolNames, hnames] at hname
    obtain ⟨n, hn, rfl⟩ := List.mem_map.mp hname
    rw [(hρ n hn).lookup?_eq]
    exact exists_source_of_emit h hn
  obtain ⟨d, hemit, -⟩ := emit_of_sources locale hcheck hsources
  refine ⟨_, hemit, ?_, ?_⟩
  · rw [imports_of_emit hemit, imports_of_emit h, hnames, List.flatMap_map]
    exact congrArg distinct (List.flatMap_congr fun n hn => (hρ n hn).importsOf_eq)
  · have hlength := congrArg List.length (names_of_emit h)
    have hlength' := congrArg List.length (names_of_emit hemit)
    rw [List.length_map] at hlength hlength'
    rw [hlength, hlength', hnames]
    exact length_distinct_map_le ρ _

end Program

end DatePattern
