/-
  The table of examples shows what a compiler prints.

  The rows go through the symbols in order, each with its aliases behind it, so that every name
  comes once.  A row looks its name up as a token of its own, and a compiler reads the text of a
  name as this very token, since the longest name that it begins with is the name itself.  The
  context that the examples are made in is kept, and whoever asks for the same locale finds it
  again.

  * `SymbolTable.exists_exampleRows`: what the rows of a table hold.
  * `Session.exists_examples`: the context they are made in.
  * `Work.run_format_name`: a compiler prints a name as its definition evaluates.
  * `Work.play_format_names`: so it does for one name after the other.
  * `Process.examples_eq_format`: what is shown is what is printed, behind any events.
-/
import DatePattern.Proofs.LocaleUse
import Mathlib.Data.List.Perm.Basic

namespace DatePattern

open Text

/-! ## Rows -/

namespace SymbolTable

variable {t : SymbolTable} {i : Instant} {x : LocaleContext}

/-- The names of the examples are those of the table, in another order. -/
theorem perm_exampleNames (h : t.IsResolved) : (t.exampleNames true).Perm t.names := by
  have hperm := List.map_append_flatMap_perm t.canonicalNames id t.aliasesOf
  rw [List.map_id] at hperm
  exact hperm.symm.trans (h.perm_flatMap_aliasesOf.append_left _)

/-- The aliases of a symbol are those that resolve to it. -/
theorem IsResolved.mem_aliasesOf_iff_canonicalName (h : t.IsResolved) {n m : Text} :
    n ∈ t.aliasesOf m ↔ t.isAlias n = true ∧ t.canonicalName n = .ok m := by
  rw [mem_aliasesOf_iff, isAlias, List.contains_iff_mem, aliasNames, List.mem_map]
  constructor
  · intro ha
    exact ⟨⟨(n, m), ha, rfl⟩, h.canonicalName_of_alias ha⟩
  · rintro ⟨⟨⟨a, target⟩, ha, rfl⟩, hm⟩
    cases (h.canonicalName_of_alias ha).symm.trans hm
    exact ha

theorem exampleRow_eq_ok_iff {n : Text} {row : Text × Text} : t.exampleRow i x n = .ok row ↔
    ∃ d, t.get n = .ok d ∧ row = (n, (Formatted.ofValue (d.evaluate i x)).text) := by
  constructor
  · intro h
    obtain ⟨f, hf, hrow⟩ := bind_eq_ok_iff.mp h
    obtain ⟨d, hget, hvalue⟩ := bind_eq_ok_iff.mp hf
    cases hvalue
    cases hrow
    exact ⟨d, hget, rfl⟩
  · rintro ⟨d, hget, rfl⟩
    exact bind_eq_ok_iff.mpr ⟨_, bind_eq_ok_iff.mpr ⟨d, hget, rfl⟩, rfl⟩

/-- What a row should show: the text of the value of its name. -/
def ShowsValue (t : SymbolTable) (i : Instant) (x : LocaleContext) (row : Text × Text) : Prop :=
  ∃ d, t.get row.1 = .ok d ∧ row.2 = (Formatted.ofValue (d.evaluate i x)).text

/-- Every name has its row. -/
theorem exists_exampleRows (h : t.IsResolved) (i : Instant) (x : LocaleContext) :
    ∃ rows, t.exampleRows i x true = .ok rows ∧ rows.map Prod.fst = t.exampleNames true ∧
      ∀ row ∈ rows, t.ShowsValue i x row := by
  have hrow : ∀ n ∈ t.exampleNames true, ∃ row, t.exampleRow i x n = .ok row := by
    intro n hn
    obtain ⟨c, d, -, -, -, -, -, hget, -⟩ := h.resolves ((perm_exampleNames h).subset hn)
    exact ⟨_, exampleRow_eq_ok_iff.mpr ⟨d, hget, rfl⟩⟩
  obtain ⟨rows, hrows⟩ := exists_mapM_ok_iff.mpr hrow
  refine ⟨rows, hrows, ?_, fun row hmem => ?_⟩
  · have hnames := map_eq_of_mapM_ok (g := id) (k := Prod.fst) hrows fun n _ row hn => by
      obtain ⟨d, -, rfl⟩ := exampleRow_eq_ok_iff.mp hn
      rfl
    rw [hnames, List.map_id]
  · obtain ⟨n, -, hn⟩ := exists_of_mapM_ok hrows hmem
    obtain ⟨d, hget, rfl⟩ := exampleRow_eq_ok_iff.mp hn
    exact ⟨d, hget, rfl⟩

/-- A name and the own name of its symbol show the same. -/
theorem ShowsValue.canonical (h : t.IsResolved) {row : Text × Text} (hrow : t.ShowsValue i x row)
    {n : Text} (hn : t.canonicalName row.1 = .ok n) : t.ShowsValue i x (n, row.2) := by
  obtain ⟨d, hget, hshown⟩ := hrow
  obtain ⟨-, d', hget', hown, -⟩ := h.exists_get hn
  cases hget.symm.trans hget'
  exact ⟨d, hown, hshown⟩

/-- Two rows for one name show the same. -/
theorem ShowsValue.unique {n v w : Text} (hv : t.ShowsValue i x (n, v))
    (hw : t.ShowsValue i x (n, w)) : v = w := by
  obtain ⟨d, hget, hshown⟩ := hv
  obtain ⟨d', hget', hshown'⟩ := hw
  cases hget.symm.trans hget'
  exact hshown.trans hshown'.symm

/-- So an alias has the row of its symbol beside it. -/
theorem mem_of_canonicalName (h : t.IsResolved) {rows : List (Text × Text)}
    (hnames : rows.map Prod.fst = t.exampleNames true) (hshow : ∀ row ∈ rows, t.ShowsValue i x row)
    {row : Text × Text} (hrow : row ∈ rows) {n : Text} (hn : t.canonicalName row.1 = .ok n) :
    (n, row.2) ∈ rows := by
  obtain ⟨hcanonical, -⟩ := h.exists_get hn
  have hmem : n ∈ rows.map Prod.fst := by
    rw [hnames]
    exact (perm_exampleNames h).symm.subset (List.mem_append_left _ hcanonical)
  obtain ⟨⟨n', v⟩, hv, rfl⟩ := List.mem_map.mp hmem
  rwa [((hshow row hrow).canonical h hn).unique (hshow _ hv)]

end SymbolTable

/-- The examples are made in a context that is found before and behind them. -/
theorem Session.exists_examples {t : SymbolTable} (h : t.IsResolved) (s : Session)
    (db : LocaleDatabase) (i : Instant) (locale : Option Text) :
    ∃ x rows s', s.examples (some db) t i locale true = (.ok rows, s') ∧
      rows.map Prod.fst = t.exampleNames true ∧ (∀ row ∈ rows, t.ShowsValue i x row) ∧
      ∀ q ∈ [s, s'], ∃ store,
        q.locales.context? (some db) (q.locales.resolve locale) = some (x, store) := by
  obtain ⟨x, store, hcontext⟩ := s.locales.exists_context? db (s.locales.resolve locale)
  obtain ⟨rows, hrows, hnames, hshow⟩ := SymbolTable.exists_exampleRows h i x
  obtain ⟨store', hagain⟩ := LocaleStore.context?_again hcontext
  rw [← LocaleStore.resolve_of_context? hcontext locale] at hagain
  refine ⟨x, rows, { s with locales := store }, ?_, hnames, hshow, ?_⟩
  · simp only [examples, Session.context, hcontext, hrows]
    rfl
  · exact List.forall_mem_cons.mpr ⟨⟨_, hcontext⟩, List.forall_mem_singleton.mpr ⟨_, hagain⟩⟩

/-! ## One name after the other -/

namespace Work

variable {db : LocaleDatabase} {t : SymbolTable} {functionName parameter : Text} {c : Compiler}
  {s s' : LocaleStore} {given : GivenInstant} {i : Instant} {locale : Option Text}
  {x : LocaleContext}

/-- A compiler prints a name as its definition evaluates. -/
theorem run_format_name (hc : c.Serves t functionName parameter)
    (hplain : ∀ n ∈ t.names, IsPlainName n) (hi : given.toInstant = .ok i)
    (hcontext : s.context? (some db) (s.resolve locale) = some (x, s')) {name : Text}
    {d : SymbolDefinition} (hget : t.get name = .ok d) :
    (format (some db) name given locale).run ⟨c, s⟩ =
      (.ok (.ofValue (d.evaluate i x)), ⟨(c.tokenize name).2, s'⟩) := by
  have hmem := SymbolTable.mem_names_of_lookup? (SymbolTable.lookup?_of_get hget)
  have hformat : Token.formatAll t i x [.symbol name] = .ok (.ofValue (d.evaluate i x)) := by
    refine bind_eq_ok_iff.mpr ⟨_, bind_eq_ok_iff.mpr ⟨d, hget, rfl⟩, ?_⟩
    rw [Token.formatAll_nil]
    exact congrArg Except.ok (Formatted.append_ofText_nil _)
  rw [run_format_of_serves hc hi hcontext, tokenize_name hplain hmem, hformat]
  rfl

/-- A compiler prints one name after the other as its row shows. -/
theorem play_format_names (hplain : ∀ n ∈ t.names, IsPlainName n) (hi : given.toInstant = .ok i)
    {rows : List (Text × Text)} (hrows : ∀ row ∈ rows, t.ShowsValue i x row)
    (hc : c.Serves t functionName parameter)
    (hcontext : s.context? (some db) (s.resolve locale) = some (x, s')) :
    List.Forall₂ (fun row answer => ∃ faults, answer = .ok (.formatted ⟨row.2, faults⟩)) rows
      (Workspace.play (some db) (rows.map fun row => .format row.1 given locale) ⟨c, s⟩).1 := by
  induction rows generalizing c s s' with
  | nil => exact .nil
  | cons row rows ih =>
    obtain ⟨⟨d, hget, hshown⟩, hrest⟩ := List.forall_mem_cons.mp hrows
    have hrun : ((Request.format row.1 given locale).work (some db)).run ⟨c, s⟩ =
        (.ok (.formatted (.ofValue (d.evaluate i x))), ⟨(c.tokenize row.1).2, s'⟩) := by
      unfold Request.work
      rw [run_bind_ok (run_format_name hc hplain hi hcontext hget)]
      rfl
    -- the next name finds the context that this one has left
    obtain ⟨s'', hagain⟩ := LocaleStore.context?_again hcontext
    have hresolve := LocaleStore.resolve_of_context? hcontext locale
    rw [List.map_cons, Workspace.play_cons, hrun]
    refine .cons ⟨(Formatted.ofValue (d.evaluate i x)).faults, ?_⟩
      (ih hrest (hc.snd_tokenize row.1) (hresolve ▸ hagain))
    rw [hshown]

end Work

/-! ## Behind any events -/

namespace Process

/-- For a table that has been built and any locale, the examples list every name once: each symbol
in the order of the definitions, with its aliases by code point behind it.  An alias shows what its
symbol shows.  A compiler over the table reads each name as one token, and prints for it what its
row shows, before the examples are made, behind them and for one name after the other. -/
theorem examples_eq_format {isExpression : Text → Bool} {ds : List SymbolDefinition}
    {pairs : List (Text × Text)} {db : LocaleDatabase} {p : Process} {c : Compiler}
    (hbuild : SymbolTable.buildWith isExpression ds pairs = .ok c.table)
    (harises : p.Arises (some db)) (hc : p.Has c) {given : GivenInstant} {i : Instant}
    (hi : given.toInstant = .ok i) (locale : Option Text) :
    ∃ rows s', p.session.examples (some db) c.table i locale true = (.ok rows, s') ∧
      rows.map Prod.fst = ds.flatMap (fun d => d.name :: c.table.aliasesOf d.name) ∧
      (rows.map Prod.fst).Nodup ∧ (rows.map Prod.fst).Perm c.table.names ∧
      (∀ m, (c.table.aliasesOf m).Pairwise fun a b => precedes a b = true) ∧
      (∀ n m, n ∈ c.table.aliasesOf m ↔
        c.table.isAlias n = true ∧ c.table.canonicalName n = .ok m) ∧
      (∀ row ∈ rows, ∀ m, c.table.canonicalName row.1 = .ok m → (m, row.2) ∈ rows) ∧
      (∀ row ∈ rows, (p.session.withCompiler c (Work.tokenize row.1)).1 = .ok [.symbol row.1]) ∧
      (∀ row ∈ rows, ∀ s ∈ [p.session, s'], ∃ faults,
        (s.withCompiler c (Work.format (some db) row.1 given locale)).1 =
          .ok ⟨row.2, faults⟩) ∧
      List.Forall₂ (fun row answer => ∃ faults, answer = .ok (.formatted ⟨row.2, faults⟩)) rows
        (Workspace.play (some db) (rows.map fun row => .format row.1 given locale)
          ⟨c, s'.locales⟩).1 := by
  have h := SymbolTable.isResolved_of_buildWith hbuild
  have hplain := SymbolTable.isPlainName_of_buildWith hbuild
  have hdefinitions := (SymbolTable.isTableOf_of_buildWith hbuild).definitions
  obtain ⟨config, -, hserves⟩ := harises.exists_serves hc
  obtain ⟨x, rows, s', hmade, hnames, hshow, hfound⟩ :=
    p.session.exists_examples h db i locale
  have hperm := SymbolTable.perm_exampleNames h
  obtain ⟨store, hagain⟩ := hfound s' (List.mem_cons_of_mem _ List.mem_cons_self)
  refine ⟨rows, s', hmade, ?listed, hnames ▸ hperm.nodup_iff.mpr h.nodup, hnames ▸ hperm,
    fun m => pairwise_sort _, fun n m => h.mem_aliasesOf_iff_canonicalName,
    fun row hrow m hm => SymbolTable.mem_of_canonicalName h hnames hshow hrow hm,
    fun row hrow => ?token, fun row hrow s hs => ?printed,
    Work.play_format_names hplain hi hshow hserves hagain⟩
  case listed =>
    rw [hnames, ← hdefinitions]
    exact List.flatMap_map _ _ _
  case token =>
    obtain ⟨d, hget, -⟩ := hshow row hrow
    have hname := SymbolTable.mem_names_of_lookup? (SymbolTable.lookup?_of_get hget)
    rw [Session.fst_withCompiler, Work.run_tokenize, hserves.fst_tokenize,
      tokenize_name hplain hname]
  case printed =>
    obtain ⟨d, hget, hshown⟩ := hshow row hrow
    obtain ⟨store', hcontext⟩ := hfound s hs
    refine ⟨(Formatted.ofValue (d.evaluate i x)).faults, ?_⟩
    rw [Session.fst_withCompiler, Work.run_format_name hserves hplain hi hcontext hget, hshown]

/-- An alias of which one name of the table is the beginning and another one a continuation. -/
theorem examples_eq_format_weekday :
    SymbolTable.buildWith Expr.isExpression SymbolDefinition.builtin (builtinAliases ++ []) =
      .ok (Compiler.ofBuiltin false).table ∧
    Arises (some .englishOnly) ⟨.fresh, .ofBuiltin false⟩ ∧
    (GivenInstant.instant exampleInstant).toInstant = .ok exampleInstant ∧ ∃ rows s' faults,
      Session.fresh.examples (some .englishOnly) (.builtin false) exampleInstant none true =
        (.ok rows, s') ∧
      (['E', 'E', 'E'], ['W', 'e', 'd']) ∈ rows ∧ (['E'], ['W', 'e', 'd']) ∈ rows ∧
      (s'.withCompiler (.ofBuiltin false) (Work.format (some .englishOnly) ['E', 'E', 'E']
        (.instant exampleInstant) none)).1 = .ok ⟨['W', 'e', 'd'], faults⟩ := by
  have hbuild : SymbolTable.buildWith Expr.isExpression SymbolDefinition.builtin
      (builtinAliases ++ []) = .ok (Compiler.ofBuiltin false).table :=
    SymbolTable.build_builtin false
  have harises : Arises (some .englishOnly) ⟨.fresh, .ofBuiltin false⟩ :=
    ⟨none, {}, _, [], Compiler.make_default, rfl⟩
  have hi : (GivenInstant.instant exampleInstant).toInstant = .ok exampleInstant := rfl
  obtain ⟨rows, s', hmade, -, -, hall, -, -, hsame, -, hprinted, -⟩ :=
    examples_eq_format hbuild harises (Or.inl rfl) hi none
  have hname : ['E', 'E', 'E'] ∈ (Compiler.ofBuiltin false).table.names := by decide +kernel
  have hown : (Compiler.ofBuiltin false).table.canonicalName ['E', 'E', 'E'] = .ok ['E'] := by
    decide +kernel
  obtain ⟨⟨n, v⟩, hrow, hn⟩ := List.mem_map.mp (hall.symm.subset hname)
  obtain rfl : n = ['E', 'E', 'E'] := hn
  have hshown : (Session.fresh.withCompiler (.ofBuiltin false) (Work.format (some .englishOnly)
      ['E', 'E', 'E'] (.instant exampleInstant) none)).1 = .ok ⟨['W', 'e', 'd'], []⟩ := by
    decide +kernel
  obtain ⟨faults, hfirst⟩ := hprinted _ hrow Session.fresh List.mem_cons_self
  cases hshown.symm.trans hfirst
  obtain ⟨faults, hlast⟩ := hprinted _ hrow s' (by simp)
  exact ⟨hbuild, harises, hi, rows, s', faults, hmade, hrow, hsame _ hrow _ hown, hlast⟩

end Process

end DatePattern
