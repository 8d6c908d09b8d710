/-
  More names than a pattern has a use for.

  A name matches only where its first cluster stands.  So a name that begins with a cluster which
  the pattern does not have makes no difference to its tokens, however long it is and whatever
  names begin like it.  A table with more aliases finds the same symbols under the names that it
  had before, and these are all that the tokens use.

  * `pieces_of_added`: a pattern is read in the same pieces.
  * `SymbolTable.Extends.lookup?`: the names of the smaller table mean what they did.
  * `Work.agreesOn_of_extends`: compilers for two such tables do the same with the pattern.
  * `added_conservative`: both, for tokenizers and for the compilers of any two processes.
-/
import DatePattern.Proofs.NameChecks
import DatePattern.Proofs.Pieces
import DatePattern.Proofs.TableNames
import DatePattern.Proofs.TokenCaching
import DatePattern.Proofs.TokenImage

namespace DatePattern

open Text

/-! ## Names -/

/-- Words that stand nowhere at the beginning make no difference to the longest match. -/
theorem Alphabet.longestMatch?_of_added {a b : Alphabet} (hsub : ∀ w ∈ a, w ∈ b)
    {us : List Text} (hadded : ∀ w ∈ b, w ∉ a → w ≠ [] → ¬w <+: us) :
    b.longestMatch? us = a.longestMatch? us := by
  have hold : ∀ w ∈ b, w ≠ [] → w <+: us → w ∈ a := by
    intro w hw hne hpre
    by_contra hnew
    exact hadded w hw hnew hne hpre
  cases hmatch : a.longestMatch? us with
  | none =>
    rw [longestMatch?_eq_none_iff] at hmatch ⊢
    exact fun w hw hne hpre => hmatch w (hold w hw hne hpre) hne hpre
  | some word =>
    rw [longestMatch?_eq_some_iff] at hmatch ⊢
    obtain ⟨hw, hne, hpre, hlongest⟩ := hmatch
    exact ⟨hsub word hw, hne, hpre, fun v hv hvne hvpre =>
      hlongest v (hold v hv hvne hvpre) hvne hvpre⟩

section Names

variable {names names' : List Text} {pattern : Text} (hsub : ∀ n ∈ names, n ∈ names')
  (hadded : ∀ n ∈ names', n ∉ names → ∀ u ∈ (graphemes n).head?, u ∉ graphemes pattern)
include hsub hadded

theorem pieces_of_added : pieces names' pattern = pieces names pattern := by
  refine scanPieces_congr fun us hus => Alphabet.longestMatch?_of_added ?_ ?_
  · intro w hw
    obtain ⟨n, hn, rfl⟩ := List.mem_map.mp hw
    exact List.mem_map_of_mem (hsub n hn)
  · intro w hw hnew hne hpre
    obtain ⟨n, hn, rfl⟩ := List.mem_map.mp hw
    have hn' : n ∉ names := fun h => hnew (List.mem_map_of_mem h)
    obtain ⟨u, rest, hcons⟩ := List.exists_cons_of_ne_nil hne
    have hhead : u ∈ (graphemes n).head? := by
      rw [hcons]
      rfl
    rw [hcons] at hpre
    exact hadded n hn hn' u hhead (hus.subset (hpre.subset List.mem_cons_self))

theorem tokenize_of_added : tokenize names' pattern = tokenize names pattern := by
  rw [tokenize_eq_merged_pieces, tokenize_eq_merged_pieces, pieces_of_added hsub hadded]

end Names

/-! ## Tables -/

/-- The same symbols, and more aliases behind those of the smaller table. -/
structure SymbolTable.Extends (t t' : SymbolTable) : Prop where
  definitions : t'.definitions = t.definitions
  aliases : t.aliases <+: t'.aliases

namespace SymbolTable.Extends

variable {t t' : SymbolTable} {name : Text}

theorem mem_names (h : t.Extends t') (hname : name ∈ t.names) : name ∈ t'.names := by
  rw [names, canonicalNames, h.definitions]
  rcases List.mem_append.mp hname with hsymbol | halias
  · exact List.mem_append_left _ hsymbol
  · exact List.mem_append_right _ ((h.aliases.map Prod.fst).subset halias)

/-- Under each of its names a symbol is found as before, since new aliases come behind. -/
theorem lookup? (h : t.Extends t') (hname : name ∈ t.names) :
    t'.lookup? name = t.lookup? name := by
  have hdefinition : t'.definition? = t.definition? := by
    funext n
    rw [definition?, definition?, h.definitions]
  unfold SymbolTable.lookup?
  rw [hdefinition]
  cases hd : t.definition? name with
  | some d => rfl
  | none =>
    have halias : name ∈ t.aliasNames := by
      refine (List.mem_append.mp hname).resolve_left fun hsymbol => ?_
      obtain ⟨d, hmem, hdname⟩ := List.mem_map.mp hsymbol
      have hnot := List.find?_eq_none.mp hd d hmem
      exact hnot (decide_eq_true hdname)
    obtain ⟨added, hadded⟩ := h.aliases
    rw [← hadded, List.lookup_append]
    cases hl : t.aliases.lookup name with
    | some target => rfl
    | none =>
      obtain ⟨a, ha, rfl⟩ := List.mem_map.mp halias
      exact absurd (List.lookup_eq_none_iff.mp hl a ha) (by simp)

theorem get (h : t.Extends t') (hname : name ∈ t.names) : t'.get name = t.get name := by
  rw [SymbolTable.get, SymbolTable.get, h.lookup? hname]

end SymbolTable.Extends

/-! ## Tokens -/

section Tokens

variable {t t' : SymbolTable} {tokens : List Token}
  (hget : ∀ name, .symbol name ∈ tokens → t'.get name = t.get name)
include hget

theorem Token.formatAll_of_get (i : Instant) (x : LocaleContext) :
    formatAll t' i x tokens = formatAll t i x tokens := by
  induction tokens with
  | nil => rfl
  | cons token tokens ih =>
    have hrest := ih fun name h => hget name (List.mem_cons_of_mem _ h)
    cases token with
    | literal u =>
      rw [formatAll, formatAll, hrest]
      rfl
    | symbol name => rw [formatAll, formatAll, hrest, format, format, hget name List.mem_cons_self]

theorem Draft.addAll_of_get (parameter : Text) (d : Draft) :
    d.addAll t' parameter tokens = d.addAll t parameter tokens := by
  induction tokens generalizing d with
  | nil => rfl
  | cons token tokens ih =>
    have hrest := fun d => ih (fun name h => hget name (List.mem_cons_of_mem _ h)) d
    have hadd : d.add t' parameter token = d.add t parameter token := by
      cases token with
      | literal u => rfl
      | symbol name =>
        rw [add, add, declare, declare, declaration, declaration, hget name List.mem_cons_self]
    rw [addAll, addAll, hadd]
    exact bind_congr hrest

theorem Program.emit_of_get {functionName parameter : Text} (locale : Text)
    (hnames : checkNames t' functionName parameter = checkNames t functionName parameter) :
    emit t' locale functionName parameter tokens = emit t locale functionName parameter tokens := by
  rw [emit, emit, hnames, Draft.addAll_of_get hget]

end Tokens

theorem Program.checkNames_of_extends {t t' : SymbolTable} {parameter : Text}
    (ht : t.Extends t') (hparameter : parameter ∉ t'.names) (functionName : Text) :
    checkNames t' functionName parameter = checkNames t functionName parameter := by
  have hfree : parameter ∉ t.names := mt ht.mem_names hparameter
  simp [checkNames, SymbolTable.contains, hparameter, hfree]

/-! ## Work -/

/-- A pattern comes to the same in two workspaces: the same tokens, and the same text and the same
program or the same fault, for any instant and any locale. -/
structure Workspace.AgreesOn (db? : Option LocaleDatabase) (pattern : Text) (w w' : Workspace) :
    Prop where
  tokens : ((Work.tokenize pattern).run w').1 = ((Work.tokenize pattern).run w).1
  formatted : ∀ given locale,
    ((Work.format db? pattern given locale).run w').1 =
      ((Work.format db? pattern given locale).run w).1
  program : ∀ locale,
    ((Work.emit db? pattern locale).run w').1 = ((Work.emit db? pattern locale).run w).1

namespace Workspace

variable {db? : Option LocaleDatabase} {pattern : Text} {w w' w'' : Workspace}

theorem AgreesOn.trans (h : w.AgreesOn db? pattern w') (h' : w'.AgreesOn db? pattern w'') :
    w.AgreesOn db? pattern w'' where
  tokens := h'.tokens.trans h.tokens
  formatted given locale := (h'.formatted given locale).trans (h.formatted given locale)
  program locale := (h'.program locale).trans (h.program locale)

/-- Workspaces that no request can tell apart agree on every pattern. -/
theorem Like.agreesOn {t : SymbolTable} {functionName parameter : Text}
    {stores : LocaleStore → LocaleStore → Prop} {contexts : LocaleContext → LocaleContext → Prop}
    (hw : w.Like t functionName parameter stores w')
    (h : LocaleStore.Indistinct db? stores contexts) (ht : t.PrintsAlike contexts)
    (pattern : Text) : w.AgreesOn db? pattern w' where
  tokens := (Work.lockstep_tokenize pattern w w' hw).1.eq.symm
  formatted given locale := (Work.lockstep_format h ht pattern given locale w w' hw).1.eq.symm
  program locale := (Work.lockstep_emit h pattern locale w w' hw).1.eq.symm

end Workspace

namespace Work

variable {t t' : SymbolTable} {functionName parameter functionName' parameter' : Text}
  {c c' : Compiler} {pattern : Text}

/-- Formatting with two compilers gives the same if their tables give the tokens the same text. -/
theorem run_format_eq (hc : c.Serves t functionName parameter)
    (hc' : c'.Serves t' functionName' parameter')
    (htokens : DatePattern.tokenize t'.names pattern = DatePattern.tokenize t.names pattern)
    (hformat : ∀ i x, Token.formatAll t' i x (DatePattern.tokenize t.names pattern) =
      Token.formatAll t i x (DatePattern.tokenize t.names pattern))
    (db? : Option LocaleDatabase) (s : LocaleStore) (given : GivenInstant) (locale : Option Text) :
    ((format db? pattern given locale).run ⟨c', s⟩).1 =
      ((format db? pattern given locale).run ⟨c, s⟩).1 := by
  unfold format
  cases hi : given.toInstant with
  | error fault => rfl
  | ok i =>
    rw [run_bind_ok (run_lift_ok rfl _), run_bind_ok (run_lift_ok rfl _),
      run_bind_ok (run_resolve locale _), run_bind_ok (run_resolve locale _)]
    cases hcontext : s.context? db? (s.resolve locale) with
    | none =>
      rw [run_bind_error (run_context_none hcontext), run_bind_error (run_context_none hcontext)]
    | some r =>
      obtain ⟨x, s'⟩ := r
      rw [run_bind_ok (run_context hcontext), run_bind_ok (run_context hcontext),
        run_bind_ok (run_tokenize pattern _), run_bind_ok (run_tokenize pattern _),
        run_formatTokens, run_formatTokens]
      dsimp only
      rw [hc.fst_tokenize, hc'.fst_tokenize, (hc.snd_tokenize pattern).table,
        (hc'.snd_tokenize pattern).table, htokens, hformat]

/-- Compilers for two tables of which one extends the other agree on each pattern in which no added
name begins. -/
theorem agreesOn_of_extends (ht : t.Extends t') (hplain : ∀ n ∈ t.names, IsPlainName n)
    (hparameter : parameter ∉ t'.names) (hc : c.Serves t functionName parameter)
    (hc' : c'.Serves t' functionName parameter)
    (hadded : ∀ n ∈ t'.names, n ∉ t.names → ∀ u ∈ (graphemes n).head?, u ∉ graphemes pattern)
    (db? : Option LocaleDatabase) (s : LocaleStore) :
    (Workspace.mk c s).AgreesOn db? pattern ⟨c', s⟩ := by
  have htokens : DatePattern.tokenize t'.names pattern = DatePattern.tokenize t.names pattern :=
    tokenize_of_added (fun _ hn => ht.mem_names hn) hadded
  have hget : ∀ name, .symbol name ∈ DatePattern.tokenize t.names pattern →
      t'.get name = t.get name :=
    fun name hname => ht.get ((isImage_tokenize hplain pattern).symbol_mem name hname)
  refine ⟨?tokens, ?formatted, ?program⟩
  case tokens =>
    rw [run_tokenize, run_tokenize, hc.fst_tokenize, hc'.fst_tokenize, htokens]
  case formatted =>
    exact fun given locale =>
      run_format_eq hc hc' htokens (Token.formatAll_of_get hget) db? s given locale
  case program =>
    intro locale
    obtain ⟨code, hrun⟩ := exists_run_emit db? s pattern locale
    rw [hrun hc, hrun hc', htokens,
      Program.emit_of_get hget code (Program.checkNames_of_extends ht hparameter functionName)]

end Work

/-! ## The aliases of the other letter case -/

theorem SymbolTable.extends_builtin : (builtin false).Extends (builtin true) where
  definitions := rfl
  aliases := by simp [builtin]

/-- Each name that is added to the built-in table begins with one of three letters. -/
theorem SymbolTable.not_mem_head_of_added_builtin {pattern : Text}
    (hpattern : ∀ u ∈ [['D'], ['e'], ['Y']], u ∉ graphemes pattern) {n : Text}
    (hn : n ∈ (builtin true).names) (hnew : n ∉ (builtin false).names) :
    ∀ u ∈ (graphemes n).head?, u ∉ graphemes pattern := by
  have hheads : ∀ a ∈ caseAliases, ∀ u ∈ (graphemes a.1).head?, u ∈ [['D'], ['e'], ['Y']] := by
    decide +kernel
  have hadded : n ∈ caseAliases.map Prod.fst := by
    simp only [names, canonicalNames, aliasNames, builtin, if_true, List.map_append,
      List.mem_append] at hn hnew
    tauto
  obtain ⟨a, ha, rfl⟩ := List.mem_map.mp hadded
  exact fun u hu => hpattern u (hheads a ha u hu)

/-- Compilers for the two built-in tables agree on a pattern without these letters, also in two
processes, if the default locale is the same. -/
theorem Session.Settled.agreesOn {db? : Option LocaleDatabase} {s s' : Session}
    (h : s.Settled db?) (h' : s'.Settled db?) (hdefault : s.locales.default = s'.locales.default)
    {pattern : Text} (hpattern : ∀ u ∈ [['D'], ['e'], ['Y']], u ∉ graphemes pattern)
    {functionName parameter : Text} (hparameter : parameter ∉ (SymbolTable.builtin true).names)
    {c c' : Compiler} (hc : c.Serves (.builtin false) functionName parameter)
    (hc' : c'.Serves (.builtin true) functionName parameter) :
    (Workspace.mk c s.locales).AgreesOn db? pattern ⟨c', s'.locales⟩ := by
  have htables := Work.agreesOn_of_extends SymbolTable.extends_builtin
    (SymbolTable.isPlainName_builtin false) hparameter hc hc'
    (fun _ => SymbolTable.not_mem_head_of_added_builtin hpattern) db? s.locales
  have hlike : (Workspace.mk c' s.locales).Like (.builtin true) functionName parameter
      (LocaleStore.Alike db?) ⟨c', s'.locales⟩ := ⟨hc', hc', h.locales, h'.locales, hdefault⟩
  exact htables.trans (hlike.agreesOn (LocaleStore.indistinct_alike db?)
    (SymbolTable.printsAlike_builtin true) pattern)

/-- Names that a pattern has no use for change nothing: neither its tokens, whatever the names are,
nor its text nor its program where they are the aliases of the other letter case.  Whatever has
happened in two processes with the same default locale, a compiler without these aliases and one
with them agree on each pattern that has none of their first letters, be they the callers' own or
shared. -/
theorem added_conservative :
    (∀ names names' : List Text, (∀ n ∈ names', n ≠ []) → (∀ n ∈ names, n ∈ names') →
      ∀ pattern, (∀ n ∈ names', n ∉ names → ∀ u ∈ (graphemes n).head?, u ∉ graphemes pattern) →
        ∃ t t' tokens, Tokenizer.ofNames? names = some t ∧ Tokenizer.ofNames? names' = some t' ∧
          t.tokenize pattern = .ok tokens ∧ t'.tokenize pattern = .ok tokens) ∧
    ∀ (db? : Option LocaleDatabase) (size size' : Int), 0 ≤ size → 0 ≤ size' →
      ∃ c c', Compiler.make none { cacheSize := size } = .ok c ∧
        Compiler.make none { cacheSize := size', caseAliases := true } = .ok c' ∧
        ∀ events events' p p', p = Process.after db? ⟨.fresh, c⟩ events →
          p' = Process.after db? ⟨.fresh, c'⟩ events' →
          p.session.locales.default = p'.session.locales.default →
          ∀ pattern, (∀ u ∈ [['D'], ['e'], ['Y']], u ∉ graphemes pattern) →
            (Workspace.mk p.own p.session.locales).AgreesOn db? pattern
              ⟨p'.own, p'.session.locales⟩ ∧
            ∀ how, how.getD false = false →
              (Workspace.mk (p.session.shared how) p.session.locales).AgreesOn db? pattern
                ⟨p'.session.shared (some true), p'.session.locales⟩ := by
  constructor
  · intro names names' hnames hsub pattern hadded
    obtain ⟨t, ht, hmem⟩ := Tokenizer.exists_ofNames? fun n hn => hnames n (hsub n hn)
    obtain ⟨t', ht', hmem'⟩ := Tokenizer.exists_ofNames? hnames
    refine ⟨t, t', _, ht, ht', (Tokenizer.exists_runFor_of_names hmem pattern).2, ?_⟩
    rw [(Tokenizer.exists_runFor_of_names hmem' pattern).2, tokenize_of_added hsub hadded]
  · intro db? size size' hsize hsize'
    have hparameter : defaultParameter ∉ (SymbolTable.builtin true).names := by decide +kernel
    have hcheck : Config.check { cacheSize := size } = .ok () :=
      @Config.check_cacheSize {} size hsize Config.check_default
    have hcheck' : Config.check { cacheSize := size', caseAliases := true } = .ok () :=
      @Config.check_cacheSize { caseAliases := true } size' hsize' Config.check_default
    obtain ⟨c, hmake, -⟩ := Compiler.exists_make none hcheck
    obtain ⟨c', hmake', -⟩ := Compiler.exists_make none hcheck'
    refine ⟨c, c', hmake, hmake', ?_⟩
    intro events events' p p' hp hp' hdefault pattern hpattern
    have hsettled : p.Settled db? (.builtin false) defaultFunctionName defaultParameter := by
      have htable : c.table = .builtin false := (Compiler.serves_of_make hmake).table
      rw [hp, ← htable]
      exact Process.settled_after hmake db? events
    have hsettled' : p'.Settled db? (.builtin true) defaultFunctionName defaultParameter := by
      have htable : c'.table = .builtin true := (Compiler.serves_of_make hmake').table
      rw [hp', ← htable]
      exact Process.settled_after hmake' db? events'
    refine ⟨hsettled.session.agreesOn hsettled'.session hdefault hpattern hparameter hsettled.own
      hsettled'.own, fun how hhow => ?_⟩
    have hshared := hsettled.session.shared how
    rw [hhow] at hshared
    exact hsettled.session.agreesOn hsettled'.session hdefault hpattern hparameter hshared
      (hsettled'.session.shared (some true))

/-- A name that goes on behind another one, and a month in a process that has tokenized it with the
aliases and without a cache for it. -/
theorem added_conservative_month :
    (∃ t t' tokens, Tokenizer.ofNames? [['d']] = some t ∧
      Tokenizer.ofNames? [['d'], ['D', 'd']] = some t' ∧
      t.tokenize ['d', '\\', 'd'] = .ok tokens ∧ t'.tokenize ['d', '\\', 'd'] = .ok tokens) ∧
    ∃ c c' p p', Compiler.make none { cacheSize := 0 } = .ok c ∧
      Compiler.make none { cacheSize := 1, caseAliases := true } = .ok c' ∧
      p = Process.after (some .englishOnly) ⟨.fresh, c⟩ [.setDefault ['d', 'e']] ∧
      p' = Process.after (some .englishOnly) ⟨.fresh, c'⟩
        [.own (.tokenize ['M']), .setDefault ['d', 'e']] ∧
      (Workspace.mk p.own p.session.locales).AgreesOn (some .englishOnly) ['M']
        ⟨p'.own, p'.session.locales⟩ := by
  obtain ⟨hnames, hcompilers⟩ := added_conservative
  have hadded : ∀ n ∈ [['d'], ['D', 'd']], n ∉ [['d']] →
      ∀ u ∈ (graphemes n).head?, u ∉ graphemes ['d', '\\', 'd'] := by decide +kernel
  obtain ⟨c, c', hmake, hmake', hagree⟩ :=
    hcompilers (some .englishOnly) 0 1 (by decide) (by decide)
  have hletters : ∀ u ∈ [['D'], ['e'], ['Y']], u ∉ graphemes ['M'] := by decide +kernel
  exact ⟨hnames _ _ (by simp) (by simp) _ hadded, c, c', _, _, hmake, hmake', rfl, rfl,
    (hagree _ _ _ _ rfl rfl rfl _ hletters).1⟩

end DatePattern
