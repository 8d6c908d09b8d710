/-
  Inspecting a pattern and emitting it see the same symbols.

  An inspection reads the pattern with a tokenizer of its own, one that may have been kept from an
  earlier pattern.  A kept tokenizer is always one for the names it is kept under
  (`Tokenizers.Holds`), so what has been read before makes no difference.  The emitter meets the
  symbols token by token and declares those that are new (`Draft.Covers`), the inspection lists the
  distinct ones, and both look each of them up.  So they come to the same definitions, from which
  everything else is taken.

  * `Tokenizers.fst_tokenize_after`: kept tokenizers give the tokens of a pattern.
  * `SymbolTable.exists_inspectTokens`: what is declared is what is reported.
  * `Process.inspect_eq_of_emit`: behind any events and any earlier patterns.
-/
import DatePattern.Proofs.NameChecks
import DatePattern.Proofs.ProgramShape
import DatePattern.Proofs.Tokenizing
import DatePattern.Proofs.Unescaping
import DatePattern.Reference

namespace DatePattern

open Text

/-! ## Kept tokenizers -/

namespace Tokenizers

variable {s : Tokenizers} {names : List Text}

/-- Every tokenizer that is kept is one for the names it is kept under. -/
def Holds (s : Tokenizers) : Prop := ∀ e ∈ s.kept.entries, ∀ n, n ∈ e.2.names ↔ n ∈ e.1

/-- The tokenizers behind some patterns, each read over names of its own. -/
def after (s : Tokenizers) (readings : List (List Text × Text)) : Tokenizers :=
  readings.foldl (fun s r => (s.tokenize r.1 r.2).2) s

theorem holds_fresh : fresh.Holds := fun _ he => absurd he List.not_mem_nil

/-- A look-up keeps this, and finds a tokenizer for the names unless one of them is empty. -/
theorem Holds.find (h : s.Holds) (names : List Text) :
    (s.find names).2.Holds ∧
      if [] ∈ names then (s.find names).1 = none
      else ∃ t, (s.find names).1 = some t ∧ ∀ n, n ∈ t.names ↔ n ∈ names := by
  unfold Tokenizers.find
  cases hfind : s.kept.find? (key names) with
  | some t =>
    have hmem : ∀ n, n ∈ t.names ↔ n ∈ names := fun n =>
      (h _ (Recent.mem_entries_of_find? hfind) n).trans mem_key
    refine ⟨fun e he => h e (Recent.mem_entries_of_mem_touch he), ?_⟩
    rw [if_neg fun hnil => t.names_ne_nil _ ((hmem []).mpr hnil) rfl]
    exact ⟨t, rfl, hmem⟩
  | none =>
    by_cases hnil : [] ∈ names
    · rw [Tokenizer.ofNames?_eq_none_iff.mpr hnil, if_pos hnil]
      exact ⟨h, rfl⟩
    · obtain ⟨t, ht, hmem⟩ := Tokenizer.exists_ofNames? fun n hn hempty => hnil (hempty ▸ hn)
      rw [ht, if_neg hnil]
      refine ⟨fun e he => ?_, t, rfl, hmem⟩
      rcases Recent.mem_entries_of_mem_put he with rfl | he
      · exact fun n => (hmem n).trans mem_key.symm
      · exact h e he

theorem Holds.tokenize (h : s.Holds) (names : List Text) (pattern : Text) :
    (s.tokenize names pattern).2.Holds ∧ (s.tokenize names pattern).1 =
      if [] ∈ names then .error .emptyName else .ok (DatePattern.tokenize names pattern) := by
  obtain ⟨hholds, hfound⟩ := h.find names
  unfold Tokenizers.tokenize
  generalize s.find names = found at hholds hfound ⊢
  obtain ⟨t?, s'⟩ := found
  by_cases hnil : [] ∈ names
  · rw [if_pos hnil] at hfound ⊢
    cases hfound
    exact ⟨hholds, rfl⟩
  · rw [if_neg hnil] at hfound ⊢
    obtain ⟨t, ht, hmem⟩ := hfound
    cases ht
    exact ⟨hholds, mapError_eq_ok_iff.mpr (Tokenizer.exists_runFor_of_names hmem pattern).2⟩

theorem Holds.after (h : s.Holds) (readings : List (List Text × Text)) :
    (s.after readings).Holds := by
  induction readings generalizing s with
  | nil => exact h
  | cons r readings ih => exact ih (h.tokenize r.1 r.2).1

/-- Whatever has been read before, a pattern has its tokens, unless one of the names is empty. -/
theorem fst_tokenize_after (readings : List (List Text × Text)) (names : List Text)
    (pattern : Text) : ((fresh.after readings).tokenize names pattern).1 =
      if [] ∈ names then .error .emptyName else .ok (DatePattern.tokenize names pattern) :=
  ((holds_fresh.after readings).tokenize names pattern).2

end Tokenizers

/-! ## Tables -/

namespace SymbolDefinition

/-- A built-in symbol depends on the locale exactly if its source needs calendar names. -/
theorem usesLocale_iff_builtin : ∀ d ∈ builtin,
    (d.usesLocale = true ↔ datesImport ∈ d.imports) := by
  decide +kernel

theorem any_usesLocale_iff_builtin {ss : List SymbolDefinition} (h : ∀ s ∈ ss, s ∈ builtin) :
    ss.any (·.usesLocale) = true ↔ datesImport ∈ distinct (ss.flatMap (·.imports)) := by
  rw [List.any_eq_true, mem_distinct, List.mem_flatMap]
  exact exists_congr fun s => and_congr_right fun hs => usesLocale_iff_builtin s (h s hs)

end SymbolDefinition

namespace SymbolTable

variable {t : SymbolTable} {p : Text} {tokens : List Token}

/-- Which tokenizers are kept makes no difference to an inspection. -/
theorem fst_inspect_after (hplain : ∀ n ∈ t.names, IsPlainName n)
    (readings : List (List Text × Text)) (pattern : Text) :
    (t.inspect (Tokenizers.fresh.after readings) pattern).1 =
      (t.inspectTokens pattern (tokenize t.names pattern)).mapError .unknown := by
  have htokens := Tokenizers.fst_tokenize_after readings t.names pattern
  rw [if_neg fun hnil => (hplain [] hnil).ne_nil rfl] at htokens
  unfold inspect
  generalize (Tokenizers.fresh.after readings).tokenize t.names pattern = found at htokens ⊢
  obtain ⟨result, s⟩ := found
  cases htokens
  rfl

/-- A pattern can be inspected if a draft covers its names, and then the two report the same. -/
theorem exists_inspectTokens {d : Draft} (h : d.Covers t p (Token.symbolNames tokens))
    (pattern : Text) :
    ∃ ss info, (distinct (Token.symbolNames tokens)).mapM t.get = .ok ss ∧
      t.inspectTokens pattern tokens = .ok info ∧
      info = { pattern, symbols := d.declarations.map (·.name)
               canonical := sort (distinct (ss.map (·.name)))
               fields := CalendarField.all.filter fun f => ss.any fun s => s.field = f
               requiresLocale := ss.any (·.usesLocale) } ∧
      d.imports = distinct (ss.flatMap (·.imports)) := by
  obtain ⟨ss, hss, himports⟩ := h.entries
  have hget : (distinct (Token.symbolNames tokens)).mapM t.get = .ok ss := by
    rw [← h.names_eq, mapM_eq_ok_iff, List.forall₂_map_left_iff]
    exact hss.imp fun _ _ hs => hs.1
  refine ⟨ss, _, hget, ?_, rfl, himports⟩
  rw [h.names_eq]
  exact bind_eq_ok_iff.mpr ⟨ss, hget, rfl⟩

/-- A pattern depends on the locale exactly if the draft for it imports the calendar names. -/
theorem requiresLocale_iff_of_covers {withCase : Bool} {d : Draft}
    (h : d.Covers (builtin withCase) p (Token.symbolNames tokens)) {pattern : Text}
    {info : PatternInfo} (hinfo : (builtin withCase).inspectTokens pattern tokens = .ok info) :
    info.requiresLocale = true ↔ SymbolDefinition.datesImport ∈ d.imports := by
  obtain ⟨ss, info', hget, hinfo', heq, himports⟩ := exists_inspectTokens h pattern
  cases hinfo.symm.trans hinfo'
  have hall : ∀ s ∈ ss, s ∈ SymbolDefinition.builtin := by
    intro s hs
    obtain ⟨m, -, hm⟩ := exists_of_mapM_ok hget hs
    exact mem_definitions_of_lookup? (lookup?_of_get hm)
  rw [heq, himports]
  exact SymbolDefinition.any_usesLocale_iff_builtin hall

/-- In a table of the built form, a name that resolves and the own name it resolves to have one
definition. -/
theorem IsResolved.exists_get (h : t.IsResolved) {m n : Text} (hn : t.canonicalName m = .ok n) :
    n ∈ t.canonicalNames ∧ ∃ d, t.get m = .ok d ∧ t.get n = .ok d ∧ d.name = n := by
  obtain ⟨c, d, hname, hmem, -, -, hlookup, hget, hd⟩ :=
    h.resolves (h.mem_names_of_canonicalName hn)
  cases hname.symm.trans hn
  refine ⟨hmem, d, hget, ?_, hd⟩
  rw [get, hlookup]

/-- It resolves to what its definition is called. -/
theorem IsResolved.canonicalName_iff (h : t.IsResolved) {m n : Text} :
    t.canonicalName m = .ok n ↔ ∃ d, t.get m = .ok d ∧ d.name = n := by
  constructor
  · intro hm
    obtain ⟨-, d, hget, -, hd⟩ := h.exists_get hm
    exact ⟨d, hget, hd⟩
  · rintro ⟨d, hget, rfl⟩
    obtain ⟨c, d', hname, -, -, -, -, hget', hd⟩ :=
      h.resolves (mem_names_of_lookup? (lookup?_of_get hget))
    cases hget.symm.trans hget'
    exact hd ▸ hname

end SymbolTable

/-! ## Behind any events -/

namespace Process

/-- If a compiler over a table that has been built emits a program for a pattern, behind any events,
then an inspection of the pattern behind any other patterns reports the names that the program
declares, in the same order; the own names of these; and the fields of their definitions.  With a
built-in table it says that the pattern depends on the locale exactly if the program uses the
calendar names of a locale database. -/
theorem inspect_eq_of_emit {isExpression : Text → Bool} {ds : List SymbolDefinition}
    {pairs : List (Text × Text)} {table? : Option SymbolTable} {config : Config} {c : Compiler}
    (hbuild : SymbolTable.buildWith isExpression ds pairs = .ok c.table)
    (hmake : Compiler.make table? config = .ok c) (readings : List (List Text × Text))
    {db? : Option LocaleDatabase} {events : List Event} {p : Process}
    (hp : p = after db? ⟨.fresh, c⟩ events) {pattern : Text} {locale : Option Text}
    {program : Program}
    (hemit : (p.session.withCompiler p.own (Work.emit db? pattern locale)).1 = .ok program) :
    ∃ info, (c.table.inspect (Tokenizers.fresh.after readings) pattern).1 = .ok info ∧
      info.pattern = pattern ∧ info.symbols = program.declarations.map (·.name) ∧
      (∀ n, n ∈ info.canonical ↔ ∃ m ∈ program.declarations.map (·.name),
        c.table.canonicalName m = .ok n) ∧ info.canonical.Nodup ∧
      (∀ f, f ∈ info.fields ↔ ∃ m ∈ program.declarations.map (·.name), ∃ d,
        c.table.get m = .ok d ∧ d.field = f) ∧ info.fields.Nodup ∧
      ∀ withCase, c.table = .builtin withCase →
        (info.requiresLocale = true ↔ program.needsNames = true) := by
  subst hp
  have hresolved := SymbolTable.isResolved_of_buildWith hbuild
  have hown := (settled_after hmake db? events).own
  obtain ⟨code, hemitted⟩ :=
    (after db? ⟨.fresh, c⟩ events).session.exists_fst_emit db? pattern locale
  rw [hemitted hown, mapError_eq_ok_iff] at hemit
  obtain ⟨draft, hcovers, rfl⟩ := Program.covers_of_emit hemit
  obtain ⟨ss, info, hget, hinfo, heq, himports⟩ :=
    SymbolTable.exists_inspectTokens hcovers pattern
  refine ⟨info, ?_, ?_⟩
  · rw [SymbolTable.fst_inspect_after (SymbolTable.isPlainName_of_buildWith hbuild), hinfo]
    rfl
  subst heq
  rw [← hcovers.names_eq] at hget
  refine ⟨rfl, rfl, fun n => ?canonical, (perm_sort _).nodup_iff.mpr (nodup_distinct _),
    fun f => ?fields, List.Nodup.filter _ (by decide), fun withCase hbuiltin => ?locale⟩
  case canonical =>
    simp only [hresolved.canonicalName_iff]
    rw [mem_sort, mem_distinct, List.mem_map]
    exact exists_mem_iff_of_mapM_ok hget
  case fields =>
    simp only [List.mem_filter, CalendarField.mem_all, true_and, List.any_eq_true, decide_eq_true_eq]
    exact exists_mem_iff_of_mapM_ok hget
  case locale =>
    rw [hbuiltin] at hcovers hinfo
    rw [Program.needsNames, List.contains_iff_mem]
    exact SymbolTable.requiresLocale_iff_of_covers hcovers hinfo

/-- An alias twice, its target and an escaped symbol, behind a pattern that was read with fewer
names and one that could not be read. -/
theorem inspect_eq_of_emit_alias : ∃ c p program info,
    SymbolTable.buildWith Expr.isExpression SymbolDefinition.builtin (builtinAliases ++ []) =
      .ok c.table ∧
    Compiler.make none {} = .ok c ∧
    p = after none ⟨.fresh, c⟩ [.setDefault ['d', 'e'], .own (.format ['E'] (.other []) none)] ∧
    (p.session.withCompiler p.own (Work.emit none
      ['E', 'E', ' ', 'E', '\\', 'd', ' ', 'E', 'E'] none)).1 = .ok program ∧
    (c.table.inspect (Tokenizers.fresh.after [([['E']], ['E', 'E']), ([[]], ['E'])])
      ['E', 'E', ' ', 'E', '\\', 'd', ' ', 'E', 'E']).1 = .ok info ∧
    program.declarations.map (·.name) = [['E', 'E'], ['E']] ∧ info.canonical = [['E']] ∧
    info.fields = [.weekday] ∧ program.needsNames = true := by
  have hbuild : SymbolTable.buildWith Expr.isExpression SymbolDefinition.builtin
      (builtinAliases ++ []) = .ok (Compiler.ofBuiltin false).table :=
    SymbolTable.build_builtin false
  have hsources : ∀ n ∈ (SymbolTable.builtin false).names,
      ¬(SymbolTable.builtin false).LacksSource n :=
    fun n _ => SymbolTable.not_lacksSource_builtin false n
  have hparameter : ({} : Config).parameter ∉ (SymbolTable.builtin false).names := by
    decide +kernel
  obtain ⟨p, hp⟩ : ∃ p, p = after none ⟨.fresh, .ofBuiltin false⟩
    [.setDefault ['d', 'e'], .own (.format ['E'] (.other []) none)] := ⟨_, rfl⟩
  obtain ⟨program, hemit⟩ : ∃ program, (p.session.withCompiler p.own (Work.emit none
      ['E', 'E', ' ', 'E', '\\', 'd', ' ', 'E', 'E'] none)).1 = .ok program := by
    have hown := (settled_after Compiler.make_default none
      [.setDefault ['d', 'e'], .own (.format ['E'] (.other []) none)]).own
    rw [← hp] at hown
    obtain ⟨code, hemitted⟩ := p.session.exists_fst_emit none
      ['E', 'E', ' ', 'E', '\\', 'd', ' ', 'E', 'E'] none
    simp only [hemitted hown, mapError_eq_ok_iff]
    exact (SymbolTable.exists_emit_iff_of_buildWith hbuild hsources Config.check_default code _).mpr
      hparameter
  obtain ⟨info, hinfo, -, hsymbols, -, -, -, -, hlocale⟩ := inspect_eq_of_emit hbuild
    Compiler.make_default [([['E']], ['E', 'E']), ([[]], ['E'])] hp hemit
  have hreported : (SymbolTable.builtin false).inspectTokens
      ['E', 'E', ' ', 'E', '\\', 'd', ' ', 'E', 'E'] (tokenize (SymbolTable.builtin false).names
        ['E', 'E', ' ', 'E', '\\', 'd', ' ', 'E', 'E']) =
      .ok ⟨['E', 'E', ' ', 'E', '\\', 'd', ' ', 'E', 'E'], [['E', 'E'], ['E']], [['E']], [.weekday],
        true⟩ := by
    decide +kernel
  have hfst := hinfo
  rw [Compiler.ofBuiltin, SymbolTable.fst_inspect_after (SymbolTable.isPlainName_builtin false),
    hreported] at hfst
  cases hfst
  exact ⟨_, p, program, _, hbuild, Compiler.make_default, hp, hemit, hinfo, hsymbols.symm, rfl, rfl,
    (hlocale false rfl).mp rfl⟩

end Process

end DatePattern
