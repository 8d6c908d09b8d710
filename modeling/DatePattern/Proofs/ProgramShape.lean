/-
  The shape of emitted programs.

  A program that is emitted for tokens has one declaration for each name that the tokens use, where
  the name first comes, and one segment for each symbol and each run of literals.  A draft `Covers`
  the names that it has met so far; meeting one more keeps this, so the draft behind all tokens
  covers all their names.

  * `Draft.covers_addAll`: what a draft holds behind some tokens.
  * `Template.joins_ofTokens`: the segments are the tokens, each maximal run of literals in one.
  * `Program.isOf_emit`: every emitted program has the shape of its tokens.
-/
import DatePattern.Proofs.Backends
import DatePattern.Proofs.Emission
import DatePattern.Proofs.Scanning

namespace DatePattern

open Text

/-! ## Declarations and imports -/

namespace Draft

variable {t : SymbolTable} {p : Text}

/-- The draft holds what the given names need: a declaration for each of them where it first
comes, and the import lines of the symbols declared where they first come. -/
structure Covers (t : SymbolTable) (p : Text) (names : List Text) (d : Draft) : Prop where
  names_eq : d.declarations.map (·.name) = distinct names
  entries : ∃ ss : List SymbolDefinition,
    List.Forall₂ (fun v s => t.get v.name = .ok s ∧ s.renderSource p = .ok v.source)
      d.declarations ss ∧
    d.imports = distinct (ss.flatMap (·.imports))

theorem covers_empty : Covers t p [] {} where
  names_eq := rfl
  entries := ⟨[], .nil, rfl⟩

theorem addImports_distinct (xs lines : List Text) :
    addImports (distinct xs) lines = distinct (xs ++ lines) := by
  induction lines generalizing xs with
  | nil => rw [List.append_nil, addImports]
  | cons line lines ih =>
    have hstep : (if line ∈ distinct xs then distinct xs else distinct xs ++ [line]) =
        distinct (xs ++ [line]) := by
      by_cases hline : line ∈ xs
      · rw [if_pos (mem_distinct.mpr hline), distinct_concat, if_pos hline]
      · rw [if_neg (mt mem_distinct.mp hline), distinct_concat, if_neg hline]
    rw [addImports, hstep, ih, List.append_assoc, List.singleton_append]

theorem declaration_ok {name : Text} {v : Declaration} {lines : List Text}
    (h : declaration t p name = .ok (v, lines)) :
    ∃ s, t.get name = .ok s ∧ v.name = name ∧ s.renderSource p = .ok v.source ∧
      lines = s.imports := by
  obtain ⟨s, hs, h⟩ := bind_eq_ok_iff.mp h
  split at h
  · obtain ⟨source, hsource, h⟩ := bind_eq_ok_iff.mp h
    cases h
    exact ⟨s, mapError_eq_ok_iff.mp hs, rfl, mapError_eq_ok_iff.mp hsource, rfl⟩
  · cases h

/-- Meeting a name, declared or not. -/
theorem Covers.declare {names : List Text} {d d' : Draft} {name : Text} (hd : d.Covers t p names)
    (h : d.declare t p name = .ok d') : d'.Covers t p (names ++ [name]) := by
  have hdeclares : d.declares name = true ↔ name ∈ names := by
    rw [declares_iff, ← mem_distinct, ← hd.names_eq, List.mem_map]
  unfold Draft.declare at h
  split at h
  · rename_i hdeclared
    cases h
    refine ⟨?_, hd.entries⟩
    rw [distinct_concat, if_pos (hdeclares.mp hdeclared), hd.names_eq]
  · rename_i hdeclared
    obtain ⟨⟨v, lines⟩, hv, h⟩ := bind_eq_ok_iff.mp h
    cases h
    obtain ⟨s, hs, hname, hsource, rfl⟩ := declaration_ok hv
    obtain ⟨ss, hss, himports⟩ := hd.entries
    refine ⟨?_, ss ++ [s], ?_, ?_⟩
    · rw [distinct_concat, if_neg (mt hdeclares.mpr hdeclared), List.map_append, hd.names_eq,
        List.map_singleton, hname]
    · exact List.rel_append hss (.cons ⟨hname ▸ hs, hsource⟩ .nil)
    · rw [himports, addImports_distinct, List.flatMap_append, List.flatMap_singleton]

/-- The names that a draft covers are names of symbols. -/
theorem Covers.get {names : List Text} {d : Draft} (hd : d.Covers t p names) {name : Text}
    (h : name ∈ names) : ∃ s, t.get name = .ok s := by
  obtain ⟨ss, hss, -⟩ := hd.entries
  rw [← mem_distinct, ← hd.names_eq, List.mem_map] at h
  obtain ⟨v, hv, rfl⟩ := h
  obtain ⟨s, -, hget, -⟩ := exists_of_forall₂ hss hv
  exact ⟨s, hget⟩

/-- Every token is covered by what it adds. -/
theorem covers_addAll {names : List Text} {tokens : List Token} {d d' : Draft}
    (hd : d.Covers t p names) (h : d.addAll t p tokens = .ok d') :
    d'.Covers t p (names ++ Token.symbolNames tokens) := by
  induction tokens generalizing names d with
  | nil =>
    cases h
    rwa [Token.symbolNames, List.filterMap_nil, List.append_nil]
  | cons token tokens ih =>
    obtain ⟨d₁, hadd, hrest⟩ := bind_eq_ok_iff.mp h
    cases token with
    | literal u =>
      cases hadd
      exact ih hd hrest
    | symbol name =>
      have hcovers := ih (hd.declare hadd) hrest
      rwa [List.append_assoc] at hcovers

end Draft

/-! ## Segments -/

namespace Template

/-- A template with one segment for each symbol and one for each maximal run of literals. -/
inductive Joins : List Token → Template → Prop
  | nil : Joins [] []
  | symbol (name : Text) {tokens : List Token} {segments : Template} (h : Joins tokens segments) :
    Joins (.symbol name :: tokens) (.substitution name :: segments)
  | run {us : List Text} {tokens : List Token} {segments : Template} (hus : us ≠ [])
    (hend : ¬Token.StartsLiteral tokens) (h : Joins tokens segments) :
    Joins (us.map .literal ++ tokens) (.literal us.flatten :: segments)

theorem Joins.cons_literal {tokens : List Token} {segments : Template} (h : Joins tokens segments)
    (u : Text) : Joins (.literal u :: tokens) (joinLiteral u segments) := by
  have hsingle : ∀ {tokens : List Token} {segments : Template}, ¬Token.StartsLiteral tokens →
      Joins tokens segments → Joins (.literal u :: tokens) (.literal u :: segments) := by
    intro tokens segments hend h
    have hrun : Joins ([u].map .literal ++ tokens) (.literal [u].flatten :: segments) :=
      .run (List.cons_ne_nil u []) hend h
    rwa [List.flatten_singleton] at hrun
  cases h with
  | nil => exact hsingle Token.not_startsLiteral_nil .nil
  | symbol name h => exact hsingle (Token.not_startsLiteral_symbol name _) (.symbol name h)
  | @run us tokens segments hus hend h =>
    have hrun : Joins ((u :: us).map .literal ++ tokens) (.literal (u :: us).flatten :: segments) :=
      .run (List.cons_ne_nil u us) hend h
    exact hrun

theorem joins_ofTokens (tokens : List Token) : Joins tokens (ofTokens tokens) := by
  induction tokens with
  | nil => exact .nil
  | cons token tokens ih =>
    cases token with
    | literal u => exact ih.cons_literal u
    | symbol name => exact .symbol name ih

theorem Joins.starts {tokens : List Token} {segments : Template} (h : Joins tokens segments)
    {u : Text} {rest : Template} (heq : segments = .literal u :: rest) :
    Token.StartsLiteral tokens := by
  cases h with
  | nil => cases heq
  | symbol => cases heq
  | @run us tokens segments hus hend h =>
    cases us with
    | nil => exact absurd rfl hus
    | cons u us => exact ⟨u, us.map .literal ++ tokens, rfl⟩

theorem Joins.not_adjacent {tokens : List Token} {segments : Template} (h : Joins tokens segments)
    (u v : Text) (rest : Template) : ¬(.literal u :: .literal v :: rest) <:+ segments := by
  induction h with
  | nil => simp
  | symbol name h ih =>
    rw [List.suffix_cons_iff, not_or]
    exact ⟨by simp, ih⟩
  | run hus hend h ih =>
    rw [List.suffix_cons_iff, not_or]
    refine ⟨fun heq => ?_, ih⟩
    injection heq with _ heq
    exact hend (h.starts heq.symm)

end Template

/-! ## Programs -/

namespace Program

/-- The shape of the program for some tokens. -/
structure IsOf (t : SymbolTable) (parameter : Text) (tokens : List Token) (p : Program) :
    Prop where
  /-- The names used are declared, each where it first comes. -/
  declared : p.declarations.map (·.name) = distinct (Token.symbolNames tokens)
  /-- Each declaration holds the source of its symbol, and the program the import lines of these
  symbols, each where it first comes. -/
  entries : ∃ ss : List SymbolDefinition,
    List.Forall₂ (fun v s => t.get v.name = .ok s ∧ s.renderSource parameter = .ok v.source)
      p.declarations ss ∧
    p.imports = distinct (ss.flatMap (·.imports))
  segments : Template.Joins tokens p.segments
  not_adjacent : ∀ u v rest, ¬(.literal u :: .literal v :: rest) <:+ p.segments
  /-- What the template puts in is declared once. -/
  once : ∀ name ∈ p.substitutions, (p.declarations.map (·.name)).count name = 1
  /-- What is declared is put in. -/
  used : ∀ v ∈ p.declarations, v.name ∈ p.substitutions

theorem covers_of_emit {t : SymbolTable} {locale functionName parameter : Text}
    {tokens : List Token} {p : Program}
    (h : emit t locale functionName parameter tokens = .ok p) :
    ∃ d : Draft, d.Covers t parameter (Token.symbolNames tokens) ∧
      p = ⟨d.declarations, .ofTokens tokens, d.imports, locale, functionName, parameter⟩ := by
  obtain ⟨-, d, hadd, heq⟩ := emit_eq_ok_iff.mp h
  exact ⟨d, Draft.covers_addAll Draft.covers_empty hadd, heq⟩

/-- An emitted program has the shape of its tokens, whatever table, names and locale it is emitted
for and however the tokens have been made. -/
theorem isOf_emit {t : SymbolTable} {locale functionName parameter : Text} {tokens : List Token}
    {p : Program} (h : emit t locale functionName parameter tokens = .ok p) :
    p.IsOf t parameter tokens := by
  obtain ⟨d, hd, rfl⟩ := covers_of_emit h
  have hjoins := Template.joins_ofTokens tokens
  have hnames : Template.names (.ofTokens tokens) = Token.symbolNames tokens :=
    Template.names_ofTokens tokens
  refine ⟨hd.names_eq, hd.entries, hjoins, hjoins.not_adjacent, fun name hname => ?_,
    fun v hv => ?_⟩
  · rw [substitutions, hnames] at hname
    rw [hd.names_eq]
    rw [(nodup_distinct _).count, if_pos (mem_distinct.mpr hname)]
  · rw [substitutions, hnames, ← mem_distinct, ← hd.names_eq]
    exact List.mem_map_of_mem hv

/-- An alias beside its target, with text in two parts between them. -/
theorem isOf_emit_alias : ∃ p : Program,
    emit (.builtin false) LocaleCode.fallback defaultFunctionName defaultParameter
      [.symbol ['E'], .literal ['a'], .literal ['b'], .symbol ['E', 'E'], .symbol ['E']] = .ok p ∧
    p.declarations.map (·.name) = [['E'], ['E', 'E']] ∧
    p.segments =
      [.substitution ['E'], .literal ['a', 'b'], .substitution ['E', 'E'], .substitution ['E']] ∧
    p.imports = [SymbolDefinition.datesImport] ∧
    p.IsOf (.builtin false) defaultParameter
      [.symbol ['E'], .literal ['a'], .literal ['b'], .symbol ['E', 'E'], .symbol ['E']] := by
  have hdraft : ∃ d, Draft.addAll (.builtin false) defaultParameter {}
        [.symbol ['E'], .literal ['a'], .literal ['b'], .symbol ['E', 'E'], .symbol ['E']] = .ok d ∧
      d.declarations.map (·.name) = [['E'], ['E', 'E']] ∧
      d.imports = [SymbolDefinition.datesImport] := ⟨_, rfl, by decide +kernel, by decide +kernel⟩
  obtain ⟨d, hadd, hdeclared, himports⟩ := hdraft
  refine ⟨_, emit_eq_ok_iff.mpr ⟨checkNames_default, d, hadd, rfl⟩, hdeclared, rfl, himports, ?_⟩
  exact isOf_emit (emit_eq_ok_iff.mpr ⟨checkNames_default, d, hadd, rfl⟩)

end Program

end DatePattern
