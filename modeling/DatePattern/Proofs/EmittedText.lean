/-
  The source text of an emitted program can be read back.

  What a program says comes from its table, its tokens and the names it is given.  Where the sources
  and import lines of the table are single lines, as those of the built-in symbols are, the names
  are of ASCII and every token holds text, nothing in a program can be mistaken for anything else
  (`Program.IsReadable`).  Locale and literals may hold any characters, as they are escaped.

  * `SymbolDefinition.isOneLine_of_renderSource`: putting names into a source adds no line.
  * `Program.isReadable_of_isEmittedWith`: emitted programs are readable.
  * `Program.readsBack_of_isEmittedWith`: so their source is read back, and determines them.
-/
import DatePattern.Proofs.Independence
import DatePattern.Proofs.Placeholders
import DatePattern.Proofs.ProgramText

namespace DatePattern

open Text

/-! ## Sources of symbols -/

/-- A source of one line stays so whatever name of one line the instant has. -/
theorem SymbolDefinition.isOneLine_of_renderSource {d : SymbolDefinition} {p source : Text}
    (hsource : ∀ u, d.source = some u → u.IsOneLine) (hp : p.IsOneLine)
    (h : d.renderSource p = .ok source) : source.IsOneLine := by
  unfold renderSource at h
  cases hd : d.source with
  | none =>
    rw [hd] at h
    cases h
  | some u =>
    rw [hd] at h
    have hbound : ∀ b ∈ bindings p, IsOneLine b.2 :=
      List.forall_mem_cons.mpr ⟨hp, List.forall_mem_singleton.mpr (by decide)⟩
    intro c hc
    rcases mem_of_substituteFrom (mapError_eq_ok_iff.mp h) hc with hmem | ⟨b, hb, hmem⟩
    · exact hsource u hd c hmem
    · exact hbound b hb c hmem

namespace SymbolTable

/-- The sources and the import lines of a table are single lines, and no import line looks like the
definition of a function. -/
structure FitsLines (t : SymbolTable) : Prop where
  source : ∀ d ∈ t.definitions, ∀ u, d.source = some u → u.IsOneLine
  imported : ∀ d ∈ t.definitions, ∀ l ∈ d.imports,
    l.IsOneLine ∧ Program.definitionWord.isPrefixOf l = false

theorem isOneLine_toList_ofList {t : Text} (h : t.IsOneLine) :
    IsOneLine (String.ofList t).toList := by
  rwa [String.toList_ofList]

theorem isOneLine_toList_append {a b : String} (ha : IsOneLine a.toList) (hb : IsOneLine b.toList) :
    IsOneLine (a ++ b).toList := by
  rw [String.toList_append]
  exact IsOneLine.append ha hb

theorem isOneLine_source {d : SymbolDefinition} {a : String} (hd : d.source = some a.toList)
    (ha : IsOneLine a.toList) : ∀ u, d.source = some u → u.IsOneLine := by
  intro u hu
  cases hd.symm.trans hu
  exact ha

theorem fitsLines_builtin (withCase : Bool) : (builtin withCase).FitsLines where
  source := by
    have hall : ∀ d ∈ SymbolDefinition.builtin, ∀ u, d.source = some u → u.IsOneLine := by
      unfold SymbolDefinition.builtin
      repeat
        refine List.forall_mem_cons.mpr ⟨isOneLine_source rfl ?_, ?_⟩
        rotate_left
      exact List.forall_mem_nil _
      -- two sources are written in two parts
      all_goals try with_reducible refine isOneLine_toList_append ?_ ?_
      all_goals exact isOneLine_toList_ofList (by decide +kernel)
    exact hall
  imported d hd l hl := by
    have hall : ∀ d ∈ SymbolDefinition.builtin, ∀ l ∈ d.imports,
        l = SymbolDefinition.datesImport := by
      decide +kernel
    rw [hall d hd l hl]
    decide

end SymbolTable

/-! ## Templates of tokens -/

/-- Where every token holds text, every literal of a template does. -/
theorem Template.Joins.literal_ne_nil {tokens : List Token} {segments : Template}
    (h : Joins tokens segments) (htokens : ∀ token ∈ tokens, token.IsWellFormed) :
    ∀ t, .literal t ∈ segments → t ≠ [] := by
  induction h with
  | nil => simp
  | symbol name h ih =>
    obtain ⟨-, hrest⟩ := List.forall_mem_cons.mp htokens
    simpa using ih hrest
  | @run us tokens segments hus hend h ih =>
    obtain ⟨hrun, hrest⟩ := List.forall_mem_append.mp htokens
    intro t ht
    rcases List.mem_cons.mp ht with heq | ht
    · cases heq
      obtain ⟨u, us, rfl⟩ := List.exists_cons_of_ne_nil hus
      have hu : u ≠ [] := hrun (.literal u) List.mem_cons_self
      rw [List.flatten_cons]
      exact List.append_ne_nil_of_left_ne_nil hu _
    · exact ih hrest t ht

/-! ## Programs -/

namespace Program

variable {t : SymbolTable} {p : Program}

/-- The program has been emitted with the given table for tokens that hold text, under names of
ASCII and in any locale. -/
def IsEmittedWith (t : SymbolTable) (p : Program) : Prop :=
  ∃ locale functionName parameter tokens,
    (∀ c ∈ functionName, c.toNat < 0x80) ∧ (∀ c ∈ parameter, c.toNat < 0x80) ∧
    (∀ token ∈ tokens, Token.IsWellFormed token) ∧
    emit t locale functionName parameter tokens = .ok p

theorem isReadable_of_isEmittedWith (hnames : ∀ n ∈ t.names, nameProblem? n = none)
    (hlines : t.FitsLines) (h : p.IsEmittedWith t) : p.IsReadable := by
  obtain ⟨locale, functionName, parameter, tokens, hf, hp, htokens, hemit⟩ := h
  have hword : ∀ n ∈ t.names, ∀ c ∈ n, isWordChar c = true := fun n hn =>
    (isVariable_of_nameProblem? (hnames n hn)).word
  obtain ⟨hcheck, -⟩ := emit_eq_ok_iff.mp hemit
  obtain ⟨hfunction, hparameter⟩ := isBindableName_of_check hcheck
  have hparameterWord := (isVariable_of_isBindableName hparameter hp).word
  have hsymbol := fun v hv => exists_symbol_of_emit (v := v) hemit hv
  have hjoins := Template.joins_ofTokens tokens
  obtain ⟨d, hcovers, rfl⟩ := covers_of_emit hemit
  refine ⟨?functionName, hparameterWord, fun v hv => ?declared, fun l hl => ?imported,
    fun name hname => ?substituted, hjoins.literal_ne_nil htokens, hjoins.not_adjacent⟩
  case functionName => exact (isVariable_of_isBindableName hfunction hf).word
  case declared =>
    obtain ⟨s, hs, hname, hrender⟩ := hsymbol v hv
    exact ⟨hword _ hname, SymbolDefinition.isOneLine_of_renderSource (hlines.source s hs)
      (isOneLine_of_isWordChar hparameterWord) hrender⟩
  case imported =>
    obtain ⟨ss, hall, himports⟩ := hcovers.entries
    rw [himports, mem_distinct] at hl
    obtain ⟨s, hs, hl⟩ := List.mem_flatMap.mp hl
    obtain ⟨v, -, hget, -⟩ := exists_of_forall₂ hall.flip hs
    have hlookup := SymbolTable.lookup?_of_get hget
    exact hlines.imported s (SymbolTable.mem_definitions_of_lookup? hlookup) l hl
  case substituted =>
    have htoken := Template.substitution_mem_ofTokens.mp hname
    have hsymbolName : name ∈ Token.symbolNames tokens := Token.mem_symbolNames.mpr htoken
    obtain ⟨s, hget⟩ := hcovers.get hsymbolName
    exact hword name (SymbolTable.mem_names_of_lookup? (SymbolTable.lookup?_of_get hget))

/-- The source of a program emitted with the built-in tables consists of the lines that it is made
of, each of which is read back as what it was written for; and no other program that is emitted with
them has the same source. -/
theorem readsBack_of_isEmittedWith {withCase : Bool} (h : p.IsEmittedWith (.builtin withCase)) :
    p.ReadsBack ∧ ∀ withCase' p', IsEmittedWith (.builtin withCase') p' → p'.source = p.source →
      p' = p := by
  have hreads : ∀ {withCase p}, IsEmittedWith (.builtin withCase) p → p.ReadsBack :=
    fun {withCase} {_} hemitted => (isReadable_of_isEmittedWith
      (SymbolTable.nameProblem?_builtin withCase) (SymbolTable.fitsLines_builtin withCase)
      hemitted).readsBack
  refine ⟨hreads h, fun withCase' p' h' hsource => ?_⟩
  have hread : readSource? p.source = some p' := hsource ▸ (hreads h').source
  rw [(hreads h).source] at hread
  exact (Option.some.inj hread).symm

/-- Quotes, a backslash, line ends and a brace in the locale and in the literals. -/
theorem readsBack_of_isEmittedWith_hostile : ∃ p : Program,
    p.IsEmittedWith (.builtin false) ∧ p.locale = ['"', '\\', '\n', '{', '\r'] ∧
    p.segments = [.literal ['"', '"', '"', '\\'], .substitution ['d'], .literal ['\n', '}']] ∧
    p.ReadsBack ∧ ∀ withCase' p', IsEmittedWith (.builtin withCase') p' → p'.source = p.source →
      p' = p := by
  obtain ⟨d, hadd⟩ : ∃ d, Draft.addAll (.builtin false) defaultParameter {}
      [.literal ['"', '"', '"', '\\'], .symbol ['d'], .literal ['\n', '}']] = .ok d := ⟨_, rfl⟩
  have hemitted : IsEmittedWith (.builtin false) ⟨d.declarations,
      [.literal ['"', '"', '"', '\\'], .substitution ['d'], .literal ['\n', '}']], d.imports,
      ['"', '\\', '\n', '{', '\r'], defaultFunctionName, defaultParameter⟩ :=
    ⟨_, defaultFunctionName, defaultParameter, _, List.all_iff_forall_prop.mp (by decide),
      List.all_iff_forall_prop.mp (by decide), by decide,
      emit_eq_ok_iff.mpr ⟨checkNames_default, d, hadd, rfl⟩⟩
  exact ⟨_, hemitted, rfl, rfl, readsBack_of_isEmittedWith hemitted⟩

end Program

end DatePattern
