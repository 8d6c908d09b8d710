/-
  A compiler answers as if it kept no patterns.

  Whatever a cache holds has been tokenized before, so it makes no difference to a request whether
  its pattern is found there.  Two compilers that differ in the size of their caches alone stay
  alike, request by request, also behind requests that fail.

  * `Compiler.play_eq_uncached`: any requests have the answers of a compiler without a cache, and
    patterns have the tokens that the tokenizer for the names of the table gives.
-/
import DatePattern.Proofs.Lockstep
import DatePattern.Proofs.TableNames
import DatePattern.Proofs.Tokenizing

namespace DatePattern

open Text

theorem Config.check_cacheSize {config : Config} {n : Int} (hn : 0 ≤ n)
    (h : config.check = .ok ()) : Config.check { config with cacheSize := n } = .ok () := by
  unfold Config.check at h ⊢
  rw [if_neg (Int.not_lt.mpr hn)]
  split at h
  · cases h
  · exact h

namespace Compiler

theorem exists_make (table? : Option SymbolTable) {config : Config} (h : config.check = .ok ()) :
    ∃ c, make table? config = .ok c ∧ c.cache = TokenCache.ofCapacity? config.cacheSize := by
  rw [make, h]
  exact ⟨_, rfl, rfl⟩

/-- Usable settings make a compiler, with a cache of any size or with none, and requests have the
same answers with and without the cache.  Behind any of them a pattern has the tokens that scanning
gives, which are those of the tokenizer for the names of the table. -/
theorem play_eq_uncached (db? : Option LocaleDatabase) (table? : Option SymbolTable)
    {config : Config} (h : config.check = .ok ()) (s : LocaleStore) (rs : List Request) :
    ∃ c c₀, make table? config = .ok c ∧
      make table? { config with cacheSize := 0 } = .ok c₀ ∧ c₀.cache = none ∧
      (Workspace.play db? rs ⟨c, s⟩).1 = (Workspace.play db? rs ⟨c₀, s⟩).1 ∧
      ∀ pattern, ∃ tokens,
        (((Request.tokenize pattern).work db?).run (Workspace.play db? rs ⟨c, s⟩).2).1 =
          .ok (.tokens tokens) ∧
        tokens = DatePattern.tokenize c.table.names pattern ∧
        ∀ t, Tokenizer.ofNames? c.table.names = some t → t.tokenize pattern = .ok tokens := by
  obtain ⟨c, hmake, -⟩ := exists_make table? h
  obtain ⟨c₀, hmake₀, hcache₀⟩ := exists_make table? (Config.check_cacheSize (Int.le_refl 0) h)
  have hserves := serves_of_make hmake
  have hserves₀ := serves_of_make hmake₀
  have hstores := LocaleStore.indistinct_eq db? (P := fun _ => True) (fun _ _ _ _ _ _ => trivial)
  have hlike : (Workspace.mk c s).Like (table?.getD (.builtin config.caseAliases))
      config.functionName config.parameter (fun s s' => s = s' ∧ True) ⟨c₀, s⟩ :=
    ⟨hserves, hserves₀, rfl, trivial⟩
  obtain ⟨hanswers, hafter⟩ := hlike.answers hstores (SymbolTable.printsAlike_eq _) rs
  refine ⟨c, c₀, hmake, hmake₀, hcache₀, hanswers, fun pattern => ?_⟩
  have htokens := hafter.left.fst_tokenize pattern
  refine ⟨_, ?_, rfl, fun t ht => ?_⟩
  · unfold Request.work
    rw [Work.run_bind_ok (Work.run_tokenize pattern _), htokens, hserves.table]
    rfl
  · exact (Tokenizer.exists_runFor_of_names (Tokenizer.mem_names_of_ofNames? ht) pattern).2

/-- A cache for one pattern, asked for the empty pattern again behind a request that fails. -/
theorem play_eq_uncached_small : Config.check { cacheSize := 1 } = .ok () ∧
    ∃ c c₀, make none { cacheSize := 1 } = .ok c ∧
      make none { cacheSize := 0 } = .ok c₀ ∧ c₀.cache = none ∧
      (Workspace.play none
          [.tokenize [], .preview ['d'] (.other []) none, .emit ['d'] none, .tokenize []]
          ⟨c, .fresh⟩).1 =
        (Workspace.play none
          [.tokenize [], .preview ['d'] (.other []) none, .emit ['d'] none, .tokenize []]
          ⟨c₀, .fresh⟩).1 ∧
      ∃ t, Tokenizer.ofNames? c.table.names = some t ∧ ∀ pattern, ∃ tokens,
        (((Request.tokenize pattern).work none).run (Workspace.play none
          [.tokenize [], .preview ['d'] (.other []) none, .emit ['d'] none, .tokenize []]
          ⟨c, .fresh⟩).2).1 = .ok (.tokens tokens) ∧
        tokens = DatePattern.tokenize c.table.names pattern ∧
        t.tokenize pattern = .ok tokens := by
  have hcheck := Config.check_cacheSize (n := 1) (by decide) Config.check_default
  obtain ⟨c, c₀, hmake, hmake₀, hcache₀, hanswers, htokens⟩ := play_eq_uncached none none hcheck
    .fresh [.tokenize [], .preview ['d'] (.other []) none, .emit ['d'] none, .tokenize []]
  have hnames : ∀ n ∈ c.table.names, n ≠ [] := by
    rw [(serves_of_make hmake).table]
    exact fun n hn => (SymbolTable.isPlainName_builtin false n hn).ne_nil
  obtain ⟨t, ht, -⟩ := Tokenizer.exists_ofNames? hnames
  refine ⟨hcheck, c, c₀, hmake, hmake₀, hcache₀, hanswers, t, ht, fun pattern => ?_⟩
  obtain ⟨tokens, hanswer, hscan, htokenizer⟩ := htokens pattern
  exact ⟨tokens, hanswer, hscan, htokenizer t ht⟩

end Compiler

end DatePattern
