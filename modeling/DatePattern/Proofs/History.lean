/-
  What compilers and locale stores hold behind any history.

  A cache of tokens and a store of contexts only ever hold what would be made anew: the tokens of
  their patterns (`TokenCache.Holds`) and the locales that the database finds
  (`LocaleStore.Holds`).  Storing an entry and using one keep this, so it holds of every workspace
  that is reachable, and what is kept cannot be told from what is made.

  * `Workspace.Reachable.holds`: a reachable workspace holds what it should.
  * `Work.run_format`, `Work.run_emit`: the results, without the caches.
-/
import DatePattern.Compiler.Basic

namespace DatePattern

open Text

/-! ## Entries -/

namespace Recent

variable {κ ν : Type} [DecidableEq κ] {r : Recent κ ν} {k : κ} {v : ν} {e : κ × ν}

theorem mem_entries_of_find? (h : r.find? k = some v) : (k, v) ∈ r.entries := by
  obtain ⟨before, behind, heq, -⟩ := List.lookup_eq_some_iff.mp h
  rw [heq]
  exact List.mem_append_right _ List.mem_cons_self

theorem mem_entries_of_mem_without (h : e ∈ r.without k) : e ∈ r.entries :=
  (List.mem_filter.mp h).1

theorem mem_entries_of_mem_touch (h : e ∈ (r.touch k).entries) : e ∈ r.entries := by
  unfold touch at h
  split at h
  · rename_i v hv
    rcases List.mem_append.mp h with h | h
    · exact mem_entries_of_mem_without h
    · rw [List.mem_singleton.mp h]
      exact mem_entries_of_find? hv
  · exact h

theorem without_of_not_mem (h : k ∉ r.keys) : r.without k = r.entries := by
  refine List.filter_eq_self.mpr fun e he => decide_eq_true ?_
  rintro rfl
  exact h (List.mem_map_of_mem he)

/-- The entries that stay in front of one that is stored under a key. -/
def staying (capacity : Nat) (r : Recent κ ν) (k : κ) : List (κ × ν) :=
  if k ∈ r.keys ∨ r.size < capacity then r.without k else (r.without k).tail

theorem entries_put (n : Nat) (r : Recent κ ν) (k : κ) (v : ν) :
    (put n r k v).entries = r.staying n k ++ [(k, v)] := by
  unfold put staying
  cases hfind : r.find? k with
  | some w => rw [if_pos (Or.inl (mem_keys_of_find? hfind))]
  | none =>
    have hk := find?_eq_none_iff.mp hfind
    rw [without_of_not_mem hk]
    by_cases hfull : n ≤ r.size
    · rw [if_neg (not_or.mpr ⟨hk, Nat.not_lt.mpr hfull⟩)]
      simp only [if_pos hfull]
    · rw [if_pos (Or.inr (Nat.lt_of_not_le hfull))]
      simp only [if_neg hfull]

theorem staying_sublist_without (n : Nat) (r : Recent κ ν) (k : κ) :
    (r.staying n k).Sublist (r.without k) := by
  unfold staying
  split
  · exact .refl _
  · exact List.tail_sublist _

/-- What stays was there before, under other keys. -/
theorem mem_staying {n : Nat} (h : e ∈ r.staying n k) : e ∈ r.entries ∧ e.1 ≠ k := by
  obtain ⟨hmem, hne⟩ := List.mem_filter.mp ((staying_sublist_without n r k).subset h)
  exact ⟨hmem, of_decide_eq_true hne⟩

/-- What has been stored is found. -/
theorem find?_put_self (capacity : Nat) (r : Recent κ ν) (k : κ) (v : ν) :
    (put capacity r k v).find? k = some v := by
  refine List.lookup_eq_some_iff.mpr ⟨_, [], entries_put capacity r k v, fun e he => ?_⟩
  simpa using Ne.symm (mem_staying he).2

/-- Using an entry is storing its value once more. -/
theorem touch_eq_put (capacity : Nat) (h : r.find? k = some v) :
    r.touch k = put capacity r k v := by
  rw [touch, put, h]

theorem mem_entries_of_mem_put {capacity : Nat} (h : e ∈ (put capacity r k v).entries) :
    e = (k, v) ∨ e ∈ r.entries := by
  rw [entries_put] at h
  rcases List.mem_append.mp h with h | h
  · exact Or.inr (mem_staying h).1
  · exact Or.inl (List.mem_singleton.mp h)

end Recent

/-! ## Tokens -/

/-- Every pattern kept has its own tokens. -/
def TokenCache.Holds (names : List Text) (cache : TokenCache) : Prop :=
  ∀ e ∈ cache.kept.entries, e.2 = DatePattern.tokenize names e.1

/-- The cache of a compiler, if there is one, holds the tokens of its patterns. -/
def Compiler.Holds (c : Compiler) : Prop :=
  ∀ cache, c.cache = some cache → cache.Holds c.table.names

namespace TokenCache

variable {names : List Text} {cache : TokenCache}

theorem holds_ofCapacity? {capacity : Int} (h : ofCapacity? capacity = some cache) :
    cache.Holds names := by
  unfold ofCapacity? at h
  split at h
  · cases h
    intro e he
    cases he
  · cases h

theorem holds_clear : cache.clear.Holds names := by
  intro e he
  cases he

theorem Holds.find (h : cache.Holds names) (pattern : Text) :
    (cache.find pattern).2.Holds names ∧
      ∀ tokens, (cache.find pattern).1 = some tokens →
        tokens = DatePattern.tokenize names pattern := by
  unfold TokenCache.find
  cases hfind : cache.kept.find? pattern with
  | none => exact ⟨h, fun tokens htokens => by cases htokens⟩
  | some kept =>
    refine ⟨fun e he => h e (Recent.mem_entries_of_mem_touch he), fun tokens htokens => ?_⟩
    cases htokens
    exact h _ (Recent.mem_entries_of_find? hfind)

theorem Holds.put (h : cache.Holds names) (pattern : Text) :
    (cache.put pattern (DatePattern.tokenize names pattern)).Holds names := by
  intro e he
  rcases Recent.mem_entries_of_mem_put he with rfl | he
  · rfl
  · exact h e he

end TokenCache

namespace Compiler

variable {c : Compiler}

theorem tokenize_uncached (h : c.cache = none) (pattern : Text) :
    c.tokenize pattern = (DatePattern.tokenize c.table.names pattern, c) := by
  rw [Compiler.tokenize, h]

theorem tokenize_found {cache cache' : TokenCache} {pattern : Text} {tokens : List Token}
    (h : c.cache = some cache) (hfind : cache.find pattern = (some tokens, cache')) :
    c.tokenize pattern = (tokens, { c with cache := some cache' }) := by
  simp only [Compiler.tokenize, h, hfind]

theorem tokenize_missed {cache cache' : TokenCache} {pattern : Text}
    (h : c.cache = some cache) (hfind : cache.find pattern = (none, cache')) :
    c.tokenize pattern = (DatePattern.tokenize c.table.names pattern,
      { c with
        cache := some (cache'.put pattern (DatePattern.tokenize c.table.names pattern)) }) := by
  simp only [Compiler.tokenize, h, hfind]

/-- The cache does not show in the tokens, and goes on to hold what it should. -/
theorem Holds.tokenize (h : c.Holds) (pattern : Text) :
    (c.tokenize pattern).1 = DatePattern.tokenize c.table.names pattern ∧
      (c.tokenize pattern).2.Holds := by
  cases hcache : c.cache with
  | none =>
    rw [tokenize_uncached hcache]
    exact ⟨rfl, h⟩
  | some cache =>
    obtain ⟨hholds, htokens⟩ := (h cache hcache).find pattern
    obtain ⟨found, cache', hfind⟩ : ∃ found cache', cache.find pattern = (found, cache') :=
      ⟨_, _, rfl⟩
    rw [hfind] at hholds htokens
    cases found with
    | none =>
      rw [tokenize_missed hcache hfind]
      refine ⟨rfl, fun cache'' heq => ?_⟩
      cases heq
      exact hholds.put pattern
    | some kept =>
      rw [tokenize_found hcache hfind]
      refine ⟨htokens kept rfl, fun cache'' heq => ?_⟩
      cases heq
      exact hholds

theorem holds_clear : c.clear.Holds := by
  intro cache heq
  obtain ⟨cache', -, rfl⟩ := Option.map_eq_some_iff.mp heq
  exact TokenCache.holds_clear

theorem config_tokenize (c : Compiler) (pattern : Text) :
    (c.tokenize pattern).2.config = c.config := by
  unfold Compiler.tokenize
  split
  · rfl
  · split <;> rfl

end Compiler

/-! ## Contexts -/

/-- The locale in effect for a code in normal form: the fallback where it leads to none. -/
def LocaleDatabase.effective (db : LocaleDatabase) (code : Text) : Locale :=
  match db.locate code with
  | .ok l => l
  | .error _ => db.english

theorem LocaleContext.locale_lenient (db : LocaleDatabase) (code : Text) :
    (lenient db code).locale = db.effective (LocaleCode.normalize code) := by
  unfold lenient LocaleDatabase.effective
  cases db.locate (LocaleCode.normalize code) <;> rfl

namespace LocaleStore

variable {db : LocaleDatabase} {s s' : LocaleStore} {code : Text} {x : LocaleContext}

/-- Every context kept has the locale in effect for its code. -/
def Holds (db : LocaleDatabase) (s : LocaleStore) : Prop :=
  ∀ e ∈ s.contexts.entries, e.2.locale = db.effective e.1

theorem holds_fresh : fresh.Holds db := by
  intro e he
  cases he

theorem context?_kept (h : s.contexts.find? (LocaleCode.normalize code) = some x) :
    s.context? (some db) code =
      some (x, { s with contexts := s.contexts.touch (LocaleCode.normalize code) }) := by
  simp only [LocaleStore.context?, h]

theorem context?_made (h : s.contexts.find? (LocaleCode.normalize code) = none) :
    s.context? (some db) code = some (.lenient db code,
      ⟨s.default, s.contexts.put maxContexts (LocaleCode.normalize code) (.lenient db code)⟩) := by
  simp only [LocaleStore.context?, h, Option.map_some]

/-- Asking for a context stores it under the normal form of the code, kept or not. -/
theorem context?_eq_put (db : LocaleDatabase) (s : LocaleStore) (code : Text) :
    ∃ x, s.context? (some db) code =
      some (x, ⟨s.default, s.contexts.put maxContexts (LocaleCode.normalize code) x⟩) := by
  cases hfind : s.contexts.find? (LocaleCode.normalize code) with
  | some x => exact ⟨x, by rw [context?_kept hfind, Recent.touch_eq_put maxContexts hfind]⟩
  | none => exact ⟨_, context?_made hfind⟩

theorem exists_context? (db : LocaleDatabase) (s : LocaleStore) (code : Text) :
    ∃ x s', s.context? (some db) code = some (x, s') := by
  obtain ⟨x, hput⟩ := context?_eq_put db s code
  exact ⟨x, _, hput⟩

theorem resolve_of_context? {db? : Option LocaleDatabase} (h : s.context? db? code = some (x, s'))
    (locale : Option Text) : s'.resolve locale = s.resolve locale := by
  cases locale with
  | none => exact default_of_context? h
  | some code => rfl

/-- A context that has been asked for is had again. -/
theorem context?_again (h : s.context? (some db) code = some (x, s')) :
    ∃ s'', s'.context? (some db) code = some (x, s'') := by
  obtain ⟨y, hput⟩ := context?_eq_put db s code
  cases h.symm.trans hput
  exact ⟨_, context?_kept (Recent.find?_put_self _ _ _ _)⟩

/-- With a database there always is a context.  It has the locale in effect, and the store goes on
to hold what it should. -/
theorem Holds.context? (h : s.Holds db) (code : Text) :
    ∃ x s', s.context? (some db) code = some (x, s') ∧ s'.Holds db ∧
      x.locale = db.effective (LocaleCode.normalize code) := by
  have hmade := LocaleContext.locale_lenient db code
  cases hfind : s.contexts.find? (LocaleCode.normalize code) with
  | some x =>
    refine ⟨_, _, context?_kept hfind, fun e he => ?_, h _ (Recent.mem_entries_of_find? hfind)⟩
    exact h e (Recent.mem_entries_of_mem_touch he)
  | none =>
    refine ⟨_, _, context?_made hfind, fun e he => ?_, hmade⟩
    rcases Recent.mem_entries_of_mem_put he with rfl | he
    · exact hmade
    · exact h e he

theorem holds_setDefault? {previous : Text} (h : s.Holds db)
    (hs : s.setDefault? code = some (previous, s')) : s'.Holds db := by
  simp only [setDefault?] at hs
  split at hs
  · cases hs
  · cases hs
    exact h

end LocaleStore

/-! ## Histories -/

/-- What can become of a compiler, and of the locales that its process remembers. -/
inductive Workspace.Reachable (db : LocaleDatabase) (table? : Option SymbolTable)
    (config : Config) : Workspace → Prop
  | start {c : Compiler} (h : Compiler.make table? config = .ok c) :
    Reachable db table? config ⟨c, .fresh⟩
  | tokenize {w : Workspace} (pattern : Text) (h : Reachable db table? config w) :
    Reachable db table? config { w with compiler := (w.compiler.tokenize pattern).2 }
  | clear {w : Workspace} (h : Reachable db table? config w) :
    Reachable db table? config { w with compiler := w.compiler.clear }
  | setDefault {w : Workspace} {code previous : Text} {s : LocaleStore}
    (h : Reachable db table? config w) (hs : w.locales.setDefault? code = some (previous, s)) :
    Reachable db table? config { w with locales := s }
  | resetDefault {w : Workspace} (h : Reachable db table? config w) :
    Reachable db table? config { w with locales := w.locales.resetDefault }
  | context {w : Workspace} {code : Text} {x : LocaleContext} {s : LocaleStore}
    (h : Reachable db table? config w) (hs : w.locales.context? (some db) code = some (x, s)) :
    Reachable db table? config { w with locales := s }
  | forget {w : Workspace} (h : Reachable db table? config w) :
    Reachable db table? config { w with locales := w.locales.forget }

/-- A workspace of the compiler for a table with some settings, whose caches hold what they
should. -/
structure Workspace.Holds (db : LocaleDatabase) (table? : Option SymbolTable) (config : Config)
    (w : Workspace) : Prop where
  checked : config.check = .ok ()
  table : w.compiler.table = table?.getD (.builtin config.caseAliases)
  config : w.compiler.config = config
  tokens : w.compiler.Holds
  locales : w.locales.Holds db

theorem Workspace.Reachable.holds {db : LocaleDatabase} {table? : Option SymbolTable}
    {config : Config} {w : Workspace} (h : w.Reachable db table? config) :
    w.Holds db table? config := by
  induction h with
  | start h =>
    unfold Compiler.make at h
    cases hcheck : config.check with
    | error fault =>
      rw [hcheck] at h
      cases h
    | ok u =>
      rw [hcheck] at h
      cases h
      refine ⟨hcheck, rfl, rfl, fun cache hcache => ?_, LocaleStore.holds_fresh⟩
      exact TokenCache.holds_ofCapacity? hcache
  | @tokenize w pattern h ih =>
    refine ⟨ih.checked, ?_, ?_, (ih.tokens.tokenize pattern).2, ih.locales⟩
    · rw [Compiler.table_tokenize]
      exact ih.table
    · rw [Compiler.config_tokenize]
      exact ih.config
  | clear h ih => exact ⟨ih.checked, ih.table, ih.config, Compiler.holds_clear, ih.locales⟩
  | @setDefault w code previous s h hs ih =>
    exact ⟨ih.checked, ih.table, ih.config, ih.tokens, LocaleStore.holds_setDefault? ih.locales hs⟩
  | resetDefault h ih => exact ⟨ih.checked, ih.table, ih.config, ih.tokens, ih.locales⟩
  | @context w code x s h hs ih =>
    obtain ⟨x', s', hs', hholds, -⟩ := ih.locales.context? code
    rw [hs] at hs'
    cases hs'
    exact ⟨ih.checked, ih.table, ih.config, ih.tokens, hholds⟩
  | forget h ih =>
    refine ⟨ih.checked, ih.table, ih.config, ih.tokens, fun e he => ?_⟩
    cases he

/-! ## Work -/

namespace Work

variable {α β : Type} {db : LocaleDatabase} {table? : Option SymbolTable} {config : Config}
  {w w' : Workspace}

theorem run_bind_ok {work : Work α} {a : α} (h : work.run w = (.ok a, w')) (next : α → Work β) :
    (work >>= next).run w = (next a).run w' := by
  have hrun : StateT.run (ExceptT.run work) w = (.ok a, w') := h
  unfold Work.run
  rw [ExceptT.run_bind, StateT.run_bind, hrun]
  rfl

theorem run_bind_error {work : Work α} {fault : Fault} (h : work.run w = (.error fault, w'))
    (next : α → Work β) : (work >>= next).run w = (.error fault, w') := by
  have hrun : StateT.run (ExceptT.run work) w = (.error fault, w') := h
  unfold Work.run
  rw [ExceptT.run_bind, StateT.run_bind, hrun]
  rfl

theorem run_get (w : Workspace) : (get : Work Workspace).run w = (.ok w, w) := rfl

theorem run_resolve (locale : Option Text) (w : Workspace) :
    (resolve locale).run w = (.ok (w.locales.resolve locale), w) := rfl

theorem run_tokenize (pattern : Text) (w : Workspace) :
    (tokenize pattern).run w =
      (.ok (w.compiler.tokenize pattern).1, ⟨(w.compiler.tokenize pattern).2, w.locales⟩) := rfl

theorem run_lift {ε : Type} (fault : ε → Fault) (result : Except ε α) (w : Workspace) :
    (lift fault result).run w = (result.mapError fault, w) := by
  cases result <;> rfl

theorem run_lift_ok {ε : Type} {fault : ε → Fault} {result : Except ε α} {a : α}
    (h : result = .ok a) (w : Workspace) : (lift fault result).run w = (.ok a, w) := by
  rw [run_lift, h]
  rfl

theorem run_context {db? : Option LocaleDatabase} {code : Text} {x : LocaleContext}
    {s : LocaleStore} (h : w.locales.context? db? code = some (x, s)) :
    (context db? code).run w = (.ok x, { w with locales := s }) := by
  unfold context
  rw [run_bind_ok (run_get w), h]
  rfl

theorem run_context_none {db? : Option LocaleDatabase} {code : Text}
    (h : w.locales.context? db? code = none) :
    (context db? code).run w = (.error (.noDatabase .contexts), w) := by
  unfold context
  rw [run_bind_ok (run_get w), h]
  rfl

theorem run_formatTokens (tokens : List Token) (i : Instant) (x : LocaleContext) (w : Workspace) :
    (formatTokens tokens i x).run w =
      ((Token.formatAll w.compiler.table i x tokens).mapError .unknownSymbol, w) := by
  unfold formatTokens
  rw [run_bind_ok (run_get w), run_lift]

theorem run_effectiveLocale {code : Text} {x : LocaleContext} {s : LocaleStore}
    (h : w.locales.context? (some db) code = some (x, s)) :
    (effectiveLocale (some db) code).run w = (.ok x.identifier, { w with locales := s }) := by
  unfold effectiveLocale
  rw [if_neg (by simp), run_bind_ok (run_context h)]
  rfl

theorem run_emitTokens {code : Text} {x : LocaleContext} {s : LocaleStore}
    (h : w.locales.context? (some db) code = some (x, s)) (tokens : List Token) :
    (emitTokens (some db) tokens code).run w =
      ((Program.emit w.compiler.table x.identifier w.compiler.config.functionName
        w.compiler.config.parameter tokens).mapError .ofEmit, { w with locales := s }) := by
  unfold emitTokens
  rw [run_bind_ok (run_effectiveLocale h), run_bind_ok (run_get _), run_lift]

/-- Formatting at an instant in whatever form it is given, without the caches. -/
theorem run_format_given (h : w.Holds db table? config) (pattern : Text) {given : GivenInstant}
    {i : Instant} (hgiven : given.toInstant = .ok i) (locale : Option Text) :
    ∃ x : LocaleContext,
      x.locale = db.effective (LocaleCode.normalize (w.locales.resolve locale)) ∧
      ((format (some db) pattern given locale).run w).1 =
        (Token.formatAll w.compiler.table i x
          (DatePattern.tokenize w.compiler.table.names pattern)).mapError .unknownSymbol := by
  obtain ⟨x, s, hs, -, hlocale⟩ := h.locales.context? (w.locales.resolve locale)
  obtain ⟨htokens, -⟩ := h.tokens.tokenize pattern
  refine ⟨x, hlocale, ?_⟩
  unfold format
  rw [run_bind_ok (run_lift_ok hgiven w), run_bind_ok (run_resolve locale w),
    run_bind_ok (run_context hs), run_bind_ok (run_tokenize pattern _), run_formatTokens, htokens,
    Compiler.table_tokenize]

/-- Formatting, without the caches. -/
theorem run_format (h : w.Holds db table? config) (pattern : Text) (i : Instant)
    (locale : Option Text) :
    ∃ x : LocaleContext,
      x.locale = db.effective (LocaleCode.normalize (w.locales.resolve locale)) ∧
      ((format (some db) pattern (.instant i) locale).run w).1 =
        (Token.formatAll w.compiler.table i x
          (DatePattern.tokenize w.compiler.table.names pattern)).mapError .unknownSymbol :=
  run_format_given h pattern (GivenInstant.toInstant_instant i) locale

/-- Emitting, without the caches. -/
theorem run_emit (h : w.Holds db table? config) (pattern : Text) (locale : Option Text) :
    ((emit (some db) pattern locale).run w).1 =
      (Program.emit w.compiler.table
        (db.effective (LocaleCode.normalize (w.locales.resolve locale))).identifier
        config.functionName config.parameter
        (DatePattern.tokenize w.compiler.table.names pattern)).mapError .ofEmit := by
  obtain ⟨x, s, hs, -, hlocale⟩ := h.locales.context? (w.locales.resolve locale)
  obtain ⟨htokens, -⟩ := h.tokens.tokenize pattern
  have hs' : (Workspace.mk (w.compiler.tokenize pattern).2 w.locales).locales.context?
      (some db) (w.locales.resolve locale) = some (x, s) := hs
  unfold emit
  rw [run_bind_ok (run_tokenize pattern w), run_bind_ok (run_resolve locale _),
    run_emitTokens hs', htokens, Compiler.table_tokenize, Compiler.config_tokenize, h.config,
    LocaleContext.identifier, hlocale]

end Work

end DatePattern
