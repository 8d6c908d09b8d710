/-
  The locale reaches the output through the symbols that depend on it, and nowhere else.

  A built-in symbol that does not depend on the locale has a value at every instant, and the same
  one in every context.  So a pattern of such symbols has one text at an instant, which formatting
  gives in any locale.  Its program imports no calendar names, so it can be loaded without them; and
  a variable of a program shows its symbol in whatever context the calendar names are taken from, so
  where none are taken the locale of the call makes no difference.  Which symbols there are makes no
  difference to the other half: the emitter writes the locale into one field of the program.

  The function and the instant are bound under normal forms of their names, and the settings and the
  emitter check the names as they are written.  So the instant can be bound under the name of a
  symbol of the pattern, and then the function fails where formatting has a text.

  * `SymbolDefinition.ignoresLocale_builtin`: the symbols that look at no context.
  * `SymbolTable.exists_text_of_inspect`: a pattern of these has one text in all contexts.
  * `Program.emit_eq_map`: what emitting for another locale comes to.
  * `Process.locale_reaches_symbols_only`: both behind any events, with every compiler whose
    function and instant are not bound under a name that stands for something else.
  * `Process.not_locale_reaches_symbols_only`: an instant that is bound under the name of a symbol.
-/
import DatePattern.Proofs.Inspection

namespace DatePattern

open Text

/-! ## Symbols -/

namespace SymbolDefinition

/-- The symbol has a value at every instant, whatever the context. -/
def IgnoresLocale (d : SymbolDefinition) : Prop := ∀ i, ∃ v, ∀ x, d.evaluate i x = .ok v

theorem ignoresLocale_numeric (name : String) (field : CalendarField)
    (description source : String) (value : Instant → Nat) (hvalue : ∀ i, value i < 10000) :
    (numeric name field description source value hvalue).IgnoresLocale := fun _ => ⟨_, fun _ => rfl⟩

theorem ignoresLocale_textual (name : String) (field : CalendarField)
    (description source : String) (value : Instant → Text) :
    (textual name field description source value).IgnoresLocale := fun _ => ⟨_, fun _ => rfl⟩

theorem usesLocale_localized (name : String) (field : CalendarField)
    (description source : String) (kind : LocaleContext.NameKind) (width : Width)
    (cut : Text → Text) :
    (localized name field description source kind width cut).usesLocale = true := rfl

theorem ignoresLocale_builtin : ∀ d ∈ builtin, d.usesLocale = false → d.IgnoresLocale := by
  simp only [builtin, List.forall_mem_cons, ignoresLocale_numeric, ignoresLocale_textual,
    usesLocale_localized, Bool.true_eq_false, false_imp_iff, implies_true, true_and]
  exact List.forall_mem_nil _

end SymbolDefinition

/-- Tokens of symbols that look at no context have one text in all of them. -/
theorem Token.exists_text_of_ignoresLocale {t : SymbolTable} {tokens : List Token}
    (h : ∀ name ∈ symbolNames tokens, ∃ d, t.get name = .ok d ∧ d.IgnoresLocale) (i : Instant) :
    ∃ text, ∀ x, formatAll t i x tokens = .ok ⟨text, []⟩ := by
  induction tokens with
  | nil => exact ⟨[], fun _ => rfl⟩
  | cons token tokens ih =>
    cases token with
    | literal u =>
      obtain ⟨text, hrest⟩ := ih h
      refine ⟨u ++ text, fun x => ?_⟩
      rw [formatAll, hrest]
      rfl
    | symbol name =>
      obtain ⟨⟨d, hget, hd⟩, hnames⟩ := List.forall_mem_cons.mp h
      obtain ⟨text, hrest⟩ := ih hnames
      obtain ⟨v, hv⟩ := hd i
      refine ⟨v.shown ++ text, fun x => ?_⟩
      rw [formatAll, format, hget, hrest]
      simp only [bind, Except.bind, pure, Except.pure, hv x]
      rfl

namespace SymbolTable

/-- A pattern that does not depend on the locale has one text in all contexts. -/
theorem exists_text_of_inspect {withCase : Bool} {pattern : Text} {tokens : List Token}
    {info : PatternInfo} (hinfo : (builtin withCase).inspectTokens pattern tokens = .ok info)
    (hlocale : info.requiresLocale = false) (i : Instant) :
    ∃ text, ∀ x, Token.formatAll (builtin withCase) i x tokens = .ok ⟨text, []⟩ := by
  obtain ⟨ss, hget, heq⟩ := bind_eq_ok_iff.mp hinfo
  cases heq
  refine Token.exists_text_of_ignoresLocale (fun name hname => ?_) i
  obtain ⟨d, hd, hname⟩ :=
    exists_of_forall₂ (mapM_eq_ok_iff.mp hget) (mem_distinct.mpr hname)
  have hmem := mem_definitions_of_lookup? (lookup?_of_get hname)
  have hany := List.any_eq_false.mp hlocale d hd
  have hignores := SymbolDefinition.ignoresLocale_builtin d hmem (Bool.eq_false_of_not_eq_true hany)
  exact ⟨d, hname, hignores⟩

/-- Whether a pattern depends on the locale is told by its tokens. -/
theorem exists_inspect_of_tokens {withCase : Bool} {pattern : Text} {dependent : Bool}
    (h : PatternInfo.requiresLocale <$> (builtin withCase).inspectTokens pattern
      (tokenize (builtin withCase).names pattern) = .ok dependent) :
    ∃ info, ((builtin withCase).inspect .fresh pattern).1 = .ok info ∧
      info.requiresLocale = dependent := by
  obtain ⟨info, hinfo, hlocale⟩ := map_eq_ok_iff.mp h
  have hinspect := fst_inspect_after (isPlainName_builtin withCase) [] pattern
  rw [hinfo] at hinspect
  exact ⟨info, hinspect, hlocale⟩

end SymbolTable

/-! ## Programs -/

/-- For another locale the same is emitted, but for the locale. -/
theorem Program.emit_eq_map (t : SymbolTable) (code code' functionName parameter : Text)
    (tokens : List Token) :
    emit t code' functionName parameter tokens =
      (fun program => { program with locale := code' }) <$>
        emit t code functionName parameter tokens := by
  unfold emit
  cases checkNames t functionName parameter with
  | error fault => rfl
  | ok u =>
    cases Draft.addAll t parameter {} tokens with
    | error fault => rfl
    | ok d => rfl

theorem Program.exists_emit_weekday (code : Text) : ∃ program,
    emit (.builtin false) code defaultFunctionName defaultParameter
      (tokenize (SymbolTable.builtin false).names ['E']) = .ok program ∧ program.locale = code := by
  have htoken : tokenize (SymbolTable.builtin false).names ['E'] = [.symbol ['E']] := by
    decide +kernel
  obtain ⟨d, hd⟩ : ∃ d, Draft.addAll (.builtin false) defaultParameter {} [.symbol ['E']] = .ok d :=
    ⟨_, rfl⟩
  rw [htoken]
  exact ⟨_, emit_eq_ok_iff.mpr ⟨checkNames_default, d, hd, rfl⟩, rfl⟩

/-! ## Behind any events -/

namespace Process

variable {db? : Option LocaleDatabase} {p : Process} {c : Compiler}

/-- Every compiler of a process serves its own table, with names that have been accepted. -/
theorem Arises.exists_serves (h : p.Arises db?) (hc : p.Has c) : ∃ config : Config,
    config.check = .ok () ∧ c.Serves c.table config.functionName config.parameter := by
  obtain ⟨table?, config, own, events, hmake, rfl⟩ := h
  obtain ⟨u, hcheck, -⟩ := bind_eq_ok_iff.mp hmake
  have hsettled := settled_after hmake db? events
  rcases hc with rfl | ⟨how, rfl⟩
  · refine ⟨config, hcheck, ?_⟩
    rw [hsettled.own.table]
    exact hsettled.own
  · have hserves := hsettled.session.shared how
    refine ⟨{}, Config.check_default, ?_⟩
    rw [hserves.table]
    exact hserves

/-- A text that every compiler over a table has for a pattern at an instant, in any locale and
behind any events. -/
structure PrintsAlways (t : SymbolTable) (pattern : Text) (i : Instant) (text : Text) : Prop where
  /-- Formatting gives it without a fault. -/
  formatted : ∀ {db : LocaleDatabase} {p : Process} {c : Compiler},
    Arises (some db) p → p.Has c → c.table = t → ∀ given locale, given.toInstant = .ok i →
      (p.session.withCompiler c (Work.format (some db) pattern given locale)).1 = .ok ⟨text, []⟩
  /-- There is a program, with a database or without, unless the instant is called like a symbol. -/
  emitted : ∀ {db? : Option LocaleDatabase} {p : Process} {c : Compiler},
    p.Arises db? → p.Has c → c.table = t → c.config.parameter ∉ t.names → ∀ locale, ∃ program,
      (p.session.withCompiler c (Work.emit db? pattern locale)).1 = .ok program
  /-- The function that is loaded from it, with a database or without, returns the text in whatever
  locale it is called, if it is known under its name as it is written, and the name under which the
  instant is bound stands for nothing else in the program: neither for the locale, a function that
  sources call or the constant, nor for a symbol of the pattern. -/
  called : ∀ {db? : Option LocaleDatabase} {p : Process} {c : Compiler},
    p.Arises db? → p.Has c → c.table = t →
      normalized c.config.functionName = c.config.functionName →
      normalized c.config.parameter ∉ ["str".toList, localeParameter, constantName] →
      normalized c.config.parameter ∉ Token.symbolNames (tokenize t.names pattern) →
      ∀ locale program,
      (p.session.withCompiler c (Work.emit db? pattern locale)).1 = .ok program →
      ∀ loading, ∃ f, program.load loading = .ok f ∧ ∀ called, f.call (some i) called = .ok text

/-- A pattern of built-in symbols that do not depend on the locale has one text. -/
theorem exists_printsAlways {withCase : Bool} {pattern : Text} {info : PatternInfo}
    (hinfo : (SymbolTable.builtin withCase).inspectTokens pattern
      (tokenize (SymbolTable.builtin withCase).names pattern) = .ok info)
    (hlocale : info.requiresLocale = false) (i : Instant) :
    ∃ text, PrintsAlways (.builtin withCase) pattern i text := by
  obtain ⟨text, htext⟩ := SymbolTable.exists_text_of_inspect hinfo hlocale i
  refine ⟨text, ?formatted, ?emitted, ?called⟩
  case formatted =>
    intro db p c harises hc htable given locale hi
    obtain ⟨config, -, hserves⟩ := harises.exists_serves hc
    obtain ⟨x, s', hcontext⟩ := p.session.locales.exists_context? db
      (p.session.locales.resolve locale)
    rw [Session.fst_withCompiler, Work.run_format_of_serves hserves hi hcontext, htable]
    exact mapError_eq_ok_iff.mpr (htext x)
  case emitted =>
    intro db? p c harises hc htable hfree locale
    obtain ⟨config, hcheck, hserves⟩ := harises.exists_serves hc
    obtain ⟨code, hemitted⟩ := p.session.exists_fst_emit db? pattern locale
    rw [hserves.parameter] at hfree
    simp only [hemitted hserves, mapError_eq_ok_iff, htable]
    exact (SymbolTable.exists_emit_iff_of_buildWith (SymbolTable.build_builtin withCase)
      (fun n _ => SymbolTable.not_lacksSource_builtin withCase n) hcheck code pattern).mpr hfree
  case called =>
    intro db? p c harises hc htable hfunction hknown hused locale program hemit loading
    obtain ⟨config, -, hserves⟩ := harises.exists_serves hc
    obtain ⟨code, hemitted⟩ := p.session.exists_fst_emit db? pattern locale
    rw [hemitted hserves, mapError_eq_ok_iff, htable] at hemit
    rw [hserves.functionName] at hfunction
    rw [hserves.parameter] at hknown hused
    have hcheck := (Program.emit_eq_ok_iff.mp hemit).1
    obtain ⟨d, hcovers, heq⟩ := Program.covers_of_emit hemit
    -- nothing is looked up in a calendar, so nothing has to be said about the locale of the call
    have hneeds : ¬program.needsNames = true := by
      rw [heq, Program.needsNames, List.contains_iff_mem,
        ← SymbolTable.requiresLocale_iff_of_covers hcovers hinfo, hlocale]
      exact Bool.false_ne_true
    obtain ⟨program', hemit', hcalls⟩ := exists_calls_of_formatAll code
      (SymbolTable.nameProblem?_builtin withCase) SymbolDefinition.hasTwin_builtin hcheck
      (Program.hasFreeNames_of_check hcheck hfunction hknown hused)
      (htext ⟨[], Cldr.english, false⟩)
    cases hemit.symm.trans hemit'
    obtain ⟨f, hload, hcall⟩ := hcalls loading fun h => absurd h hneeds
    exact ⟨f, hload, fun called => hcall called fun _ h => absurd h hneeds⟩

/-- Whatever has happened, emitting a pattern with two compilers over one table and with the same
names fails with the same fault, or gives programs that differ at most in their locale. -/
theorem emit_matches {db?' : Option LocaleDatabase} {p' : Process} {c' : Compiler}
    (h : p.Arises db?) (hc : p.Has c) (h' : p'.Arises db?') (hc' : p'.Has c')
    (htable : c'.table = c.table) (hfunction : c'.config.functionName = c.config.functionName)
    (hparameter : c'.config.parameter = c.config.parameter) (pattern : Text)
    (locale locale' : Option Text) :
    Work.Matches (fun program program' => program' = { program with locale := program'.locale })
      (p.session.withCompiler c (Work.emit db? pattern locale)).1
      (p'.session.withCompiler c' (Work.emit db?' pattern locale')).1 := by
  obtain ⟨config, -, hserves⟩ := h.exists_serves hc
  obtain ⟨config', -, hserves'⟩ := h'.exists_serves hc'
  rw [hserves.functionName, hserves'.functionName] at hfunction
  rw [hserves.parameter, hserves'.parameter] at hparameter
  obtain ⟨code, hemitted⟩ := p.session.exists_fst_emit db? pattern locale
  obtain ⟨code', hemitted'⟩ := p'.session.exists_fst_emit db?' pattern locale'
  rw [hemitted hserves, hemitted' hserves', htable, hfunction, hparameter,
    Program.emit_eq_map c.table code code']
  cases Program.emit c.table code config.functionName config.parameter
      (tokenize c.table.names pattern) with
  | error fault => exact .fault _
  | ok program => exact .result rfl

/-- With a built-in table, a pattern that does not depend on the locale prints one text at an
instant, whatever locale is given, be it formatted or emitted, loaded and called; the latter unless
the function or the instant is bound under a name that stands for something else.  And with any
table, for any two locales and with a database or without, emitting a pattern fails with the same
fault or gives programs that differ at most in their locale. -/
theorem locale_reaches_symbols_only (pattern : Text) :
    (∀ withCase readings info,
      ((SymbolTable.builtin withCase).inspect (Tokenizers.fresh.after readings) pattern).1 =
        .ok info → info.requiresLocale = false →
      ∀ i, ∃ text, PrintsAlways (.builtin withCase) pattern i text) ∧
    ∀ db? db?' p p' c c', Arises db? p → p.Has c → Arises db?' p' → p'.Has c' →
      c'.table = c.table → c'.config.functionName = c.config.functionName →
      c'.config.parameter = c.config.parameter → ∀ locale locale',
        Work.Matches (fun program program' => program' = { program with locale := program'.locale })
          (p.session.withCompiler c (Work.emit db? pattern locale)).1
          (p'.session.withCompiler c' (Work.emit db?' pattern locale')).1 := by
  refine ⟨fun withCase readings info hinfo hlocale i => ?_, ?_⟩
  · rw [SymbolTable.fst_inspect_after (SymbolTable.isPlainName_builtin withCase),
      mapError_eq_ok_iff] at hinfo
    exact exists_printsAlways hinfo hlocale i
  · intro db? db?' p p' c c' h hc h' hc' htable hfunction hparameter locale locale'
    exact emit_matches h hc h' hc' htable hfunction hparameter pattern locale locale'

/-- An alias and an escaped symbol that depends on the locale: one text by default and in German,
and from a function that was emitted without a database and is called in a locale that does not
exist.  The programs for a weekday differ in their locale alone. -/
theorem locale_reaches_symbols_only_escaped : ∃ info p program f other other',
    ((SymbolTable.builtin false).inspect .fresh ['y', 'y', 'y', '\\', 'E']).1 = .ok info ∧
    info.requiresLocale = false ∧ Arises (some .englishOnly) p ∧ p.Has (.ofBuiltin false) ∧
    (∀ locale, locale ∈ [none, some ['d', 'e']] →
      (p.session.withCompiler (.ofBuiltin false) (Work.format (some .englishOnly)
        ['y', 'y', 'y', '\\', 'E'] (.instant exampleInstant) locale)).1 =
          .ok ⟨['2', '0', '1', '5', 'E'], []⟩) ∧
    (Session.fresh.withCompiler (.ofBuiltin false)
      (Work.emit none ['y', 'y', 'y', '\\', 'E'] (some ['d', 'e']))).1 = .ok program ∧
    program.load none = .ok f ∧
    f.call (some exampleInstant) (some ['x']) = .ok ['2', '0', '1', '5', 'E'] ∧
    (Session.fresh.withCompiler (.ofBuiltin false) (Work.emit none ['E'] (some ['d', 'e']))).1 =
      .ok other ∧
    (p.session.withCompiler (.ofBuiltin false) (Work.emit (some .englishOnly) ['E'] none)).1 =
      .ok other' ∧
    other' = { other with locale := other'.locale } ∧ other.locale = ['d', 'e'] ∧
    other'.locale = ['e', 'n', '_', 'U', 'S'] := by
  obtain ⟨hprints, -⟩ := locale_reaches_symbols_only ['y', 'y', 'y', '\\', 'E']
  obtain ⟨-, hmatches⟩ := locale_reaches_symbols_only ['E']
  obtain ⟨info, hinfo, hlocale⟩ : ∃ info,
      ((SymbolTable.builtin false).inspect .fresh ['y', 'y', 'y', '\\', 'E']).1 = .ok info ∧
        info.requiresLocale = false :=
    SymbolTable.exists_inspect_of_tokens (by decide +kernel)
  obtain ⟨text, hall⟩ := hprints false [] info hinfo hlocale exampleInstant
  -- what the text is can be seen in a fresh process
  have hfresh : Arises (some .englishOnly) ⟨.fresh, .ofBuiltin false⟩ :=
    ⟨none, {}, _, [], Compiler.make_default, rfl⟩
  obtain rfl : text = ['2', '0', '1', '5', 'E'] := by
    have hformat := hall.formatted hfresh (Or.inl rfl) rfl (.instant exampleInstant) none rfl
    have hshown : (Session.fresh.withCompiler (.ofBuiltin false) (Work.format (some .englishOnly)
        ['y', 'y', 'y', '\\', 'E'] (.instant exampleInstant) none)).1 =
          .ok ⟨['2', '0', '1', '5', 'E'], []⟩ := by decide +kernel
    cases hformat.symm.trans hshown
    rfl
  obtain ⟨p, hp⟩ : ∃ p, p = after (some .englishOnly) ⟨.fresh, .ofBuiltin false⟩
    [.shared none (.format ['E'] (.other []) none)] := ⟨_, rfl⟩
  have harises : Arises (some .englishOnly) p := ⟨none, {}, _, _, Compiler.make_default, hp⟩
  have hhas : p.Has (.ofBuiltin false) := Or.inl (hp ▸ rfl)
  have hnone : Arises none ⟨.fresh, .ofBuiltin false⟩ :=
    ⟨none, {}, _, [], Compiler.make_default, rfl⟩
  have hparameter : (Compiler.ofBuiltin false).config.parameter ∉
      (SymbolTable.builtin false).names := by
    decide +kernel
  obtain ⟨program, hemit⟩ := hall.emitted hnone (Or.inl rfl) rfl hparameter (some ['d', 'e'])
  have hfunction : normalized defaultFunctionName = defaultFunctionName :=
    normalized_of_small (List.all_iff_forall_prop.mp (by decide))
  have hbound : normalized (Compiler.ofBuiltin false).config.parameter = defaultParameter :=
    normalized_of_small (List.all_iff_forall_prop.mp (by decide))
  obtain ⟨f, hload, hcall⟩ := hall.called hnone (Or.inl rfl) rfl hfunction
    (by rw [hbound]; decide) (by rw [hbound]; decide +kernel) _ program hemit none
  have hserves := Compiler.serves_ofBuiltin false
  obtain ⟨other, hemit₁, hcode⟩ := Program.exists_emit_weekday ['d', 'e']
  obtain ⟨other', hemit₂, hcode'⟩ := Program.exists_emit_weekday ['e', 'n', '_', 'U', 'S']
  have hother : (Session.fresh.withCompiler (.ofBuiltin false)
      (Work.emit none ['E'] (some ['d', 'e']))).1 = .ok other := by
    have heffective : ∀ c, (Work.effectiveLocale none (LocaleStore.fresh.resolve
        (some ['d', 'e']))).run ⟨c, .fresh⟩ = (.ok ['d', 'e'], ⟨c, .fresh⟩) := fun _ => rfl
    rw [Session.fst_withCompiler]
    refine (Work.run_emit_of_effectiveLocale hserves heffective ['E']).trans ?_
    exact mapError_eq_ok_iff.mpr hemit₁
  have hother' : (p.session.withCompiler (.ofBuiltin false)
      (Work.emit (some .englishOnly) ['E'] none)).1 = .ok other' := by
    have hlocales : p.session.locales = .fresh := hp ▸ rfl
    obtain ⟨⟨x, s'⟩, hcontext, hcode⟩ := Option.map_eq_some_iff.mp
      (show (LocaleStore.fresh.context? (some .englishOnly) (LocaleStore.fresh.resolve none)).map
        (fun r => r.1.identifier) = some ['e', 'n', '_', 'U', 'S'] by decide +kernel)
    have heffective : ∀ c, (Work.effectiveLocale (some .englishOnly)
        (LocaleStore.fresh.resolve none)).run ⟨c, .fresh⟩ =
          (.ok ['e', 'n', '_', 'U', 'S'], ⟨c, s'⟩) :=
      fun c => hcode ▸ Work.run_effectiveLocale hcontext
    rw [Session.fst_withCompiler, hlocales]
    refine (Work.run_emit_of_effectiveLocale hserves heffective ['E']).trans ?_
    exact mapError_eq_ok_iff.mpr hemit₂
  have hdiffer := hmatches _ _ _ p _ _ hnone (Or.inl rfl) harises hhas rfl rfl rfl
    (some ['d', 'e']) none
  rw [hother, hother'] at hdiffer
  obtain ⟨⟩ | ⟨hsame⟩ := hdiffer
  refine ⟨info, p, program, f, other, other', hinfo, hlocale, harises, hhas, fun locale _ => ?_,
    hemit, hload, hcall _, hother, hother', hsame, hcode, hcode'⟩
  exact hall.formatted harises hhas rfl _ locale rfl

end Process

/-! ## An instant that is bound under the name of a symbol -/

open NormalForm in
/-- The long s is bound as the letter `s`. -/
theorem normalized_longS : normalized ['ſ'] = ['s'] := by
  have hskip : ∀ {f : String → Option Entry} {row rows o}, f row = none →
      rows.findSome? f = o → (row :: rows).findSome? f = o := by
    intro f row rows o hrow hrows
    rw [List.findSome?_cons, hrow]
    exact hrows
  -- the rows in front of its own one say nothing about it
  have hentry : decompositions.find? (fun e => e.holds 0x17F) = some ⟨0x17F, 0x17F, [0x73]⟩ := by
    unfold decompositions entries
    rw [List.find?_flatMap]
    unfold decompositionRows
    repeat
      refine hskip ?_ ?_
      · rw [String.toList_ofList]
        rfl
    rw [List.findSome?_cons, String.toList_ofList]
    rfl
  have hparts : decompose 'ſ' = ['s'] := by
    unfold decompose
    rw [show 'ſ'.toNat = 0x17F from rfl, hentry]
    rfl
  rw [normalized, List.flatMap_singleton, hparts]
  rfl

theorem isWordFor_longS : Lexeme.IsWordFor ['ſ'] ['s'] := by
  have hbindable : isBindableName ['ſ'] = true := by
    have hparameter : Program.isParameterName ['ſ'] = true :=
      Program.isParameterName_singleton (by decide +kernel)
    rw [Program.isParameterName, Bool.and_eq_true] at hparameter
    exact hparameter.1
  have hword := isWordFor_of_isBindableName hbindable
  rwa [normalized_longS] at hword

namespace Program

/-- The seconds and the minutes of an instant that is called by the long s, as a program. -/
def ofLongS (locale : Text) : Program where
  declarations := [⟨['s'], 'ſ' :: '.' :: "second".toList⟩, ⟨['m'], 'ſ' :: '.' :: "minute".toList⟩]
  segments := .ofTokens [.symbol ['s'], .literal [' '], .symbol ['m']]
  imports := []
  locale := locale
  parameter := ['ſ']

theorem emit_longS (locale : Text) :
    emit (.builtin false) locale defaultFunctionName ['ſ']
      [.symbol ['s'], .literal [' '], .symbol ['m']] = .ok (ofLongS locale) := by
  have hcheck : checkNames (.builtin false) defaultFunctionName ['ſ'] = .ok () :=
    checkNames_eq_ok_iff.mpr ⟨(checkNames_eq_ok_iff.mp checkNames_default).1,
      isParameterName_singleton (by decide +kernel), by decide +kernel⟩
  have hadd : (Draft.addAll (.builtin false) ['ſ'] {}
      [.symbol ['s'], .literal [' '], .symbol ['m']]).toOption.map
        (fun d => (d.declarations, d.imports)) =
      some ([⟨['s'], 'ſ' :: '.' :: "second".toList⟩,
        ⟨['m'], 'ſ' :: '.' :: "minute".toList⟩], []) := by
    decide +kernel
  cases hd : Draft.addAll (.builtin false) ['ſ'] {}
      [.symbol ['s'], .literal [' '], .symbol ['m']] with
  | error fault =>
    rw [hd] at hadd
    cases hadd
  | ok d =>
    rw [hd] at hadd
    obtain ⟨hdeclarations, himports⟩ := Prod.mk.inj (Option.some.inj hadd)
    refine emit_eq_ok_iff.mpr ⟨hcheck, d, hd, ?_⟩
    rw [hdeclarations, himports]
    rfl

/-- The seconds are assigned to the variable that holds the instant, and then the minutes are asked
of a number. -/
theorem call_longS (locale : Text) (db? : Option LocaleDatabase) :
    ∃ f, (ofLongS locale).load db? = .ok f ∧ ∀ i called, f.call (some i) called =
      .error (.noAttribute "int".toList "minute".toList) := by
  have hread : ∀ x ∈ SymbolDefinition.attributes,
      Expr.read? (['ſ'] ++ '.' :: x) = some (.attribute (.name ['s']) x) := fun x hx =>
    SymbolDefinition.read?_around isWordFor_longS (t := []) rfl
      (Lexeme.ofText?_variable (SymbolDefinition.isVariable_attribute x hx)) rfl
  have hsecond : Expr.language.Reads ⟨['s'], 'ſ' :: '.' :: "second".toList⟩
      (['s'], .attribute (.name ['s']) "second".toList) :=
    ⟨rfl, hread _ (by simp [SymbolDefinition.attributes])⟩
  have hminute : Expr.language.Reads ⟨['m'], 'ſ' :: '.' :: "minute".toList⟩
      (['m'], .attribute (.name ['s']) "minute".toList) :=
    ⟨rfl, hread _ (by simp [SymbolDefinition.attributes])⟩
  have hvariable : ∀ x, .substitution x ∈ (ofLongS locale).segments → Lexeme.IsVariable x := by
    intro x hx
    have hsymbol := Template.substitution_mem_ofTokens.mp hx
    simp only [List.mem_cons, List.not_mem_nil, Token.symbol.injEq, reduceCtorEq, or_false,
      false_or] at hsymbol
    refine isVariable_of_nameProblem? (nameProblem?_of_isRunOfLetter ?_)
    rcases hsymbol with rfl | rfl <;> decide
  obtain ⟨e, htemplate, -⟩ := Template.exists_expr hvariable
  have hbody : (ofLongS locale).body? Expr.language =
      some ⟨[(['s'], .attribute (.name ['s']) "second".toList),
        (['m'], .attribute (.name ['s']) "minute".toList)], e⟩ :=
    body?_eq_some_iff.mpr ⟨.cons hsecond (.cons hminute .nil), htemplate⟩
  have hbound : (ofLongS locale).boundParameter = ['s'] := normalized_longS
  have hfunction : normalized defaultFunctionName = defaultFunctionName :=
    normalized_of_small (List.all_iff_forall_prop.mp (by decide))
  have hcheck : (ofLongS locale).checkBound = .ok () := by
    rw [checkBound_eq_ok_iff, hbound]
    change _ ∧ (normalized defaultFunctionName ≠ _ ∧ _) ∧ normalized defaultFunctionName = _
    rw [hfunction]
    exact ⟨by decide, ⟨by decide, by decide⟩, rfl⟩
  have hneeds : (ofLongS locale).needsNames = true → db?.isSome = true :=
    fun h => absurd h Bool.false_ne_true
  refine ⟨_, load_eq_ok_iff.mpr ⟨hneeds, hcheck, _, hbody, rfl⟩, fun i called => ?_⟩
  rw [function, hbound]
  rfl

end Program

/-- So a pattern that does not depend on the locale is formatted, and its function fails. -/
theorem Process.not_locale_reaches_symbols_only : ∃ c info program f,
    Compiler.make none { parameter := ['ſ'] } = .ok c ∧
    ((SymbolTable.builtin false).inspect .fresh ['s', ' ', 'm']).1 = .ok info ∧
    info.requiresLocale = false ∧
    (Session.fresh.withCompiler c (Work.format (some .englishOnly) ['s', ' ', 'm']
      (.instant exampleInstant) none)).1 = .ok ⟨['0', ' ', '2', '9'], []⟩ ∧
    (Session.fresh.withCompiler c (Work.emit (some .englishOnly) ['s', ' ', 'm'] none)).1 =
      .ok program ∧
    program.load (some .englishOnly) = .ok f ∧
    f.call (some exampleInstant) none = .error (.noAttribute "int".toList "minute".toList) := by
  have hmake : Compiler.make none { parameter := ['ſ'] } =
      .ok ⟨.builtin false, { parameter := ['ſ'] }, TokenCache.ofCapacity? 256⟩ :=
    Compiler.make_letter (by decide +kernel)
  have hserves : Compiler.Serves (.builtin false) defaultFunctionName ['ſ'] _ :=
    Compiler.serves_of_make hmake
  have htokens : tokenize (SymbolTable.builtin false).names ['s', ' ', 'm'] =
      [.symbol ['s'], .literal [' '], .symbol ['m']] := by decide +kernel
  obtain ⟨info, hinfo, hlocale⟩ : ∃ info,
      ((SymbolTable.builtin false).inspect .fresh ['s', ' ', 'm']).1 = .ok info ∧
        info.requiresLocale = false :=
    SymbolTable.exists_inspect_of_tokens (by decide +kernel)
  obtain ⟨code, hemitted⟩ :=
    Session.fresh.exists_fst_emit (some .englishOnly) ['s', ' ', 'm'] none
  obtain ⟨f, hload, hcall⟩ := Program.call_longS code (some .englishOnly)
  refine ⟨_, info, Program.ofLongS code, f, hmake, hinfo, hlocale, by decide +kernel, ?_, hload,
    hcall _ none⟩
  rw [hemitted hserves, htokens]
  exact mapError_eq_ok_iff.mpr (Program.emit_longS code)

end DatePattern
