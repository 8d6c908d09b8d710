/-
  What a process remembers about locales does not show.

  A context that is kept has the locale which its code leads to, whatever spelling of the code it
  was first asked for by, and a built-in symbol looks at that locale alone.  So the contexts that a
  process keeps make no difference to a shared compiler: only the default locale does.  The
  invariant is `Process.Settled`, which every event keeps.

  * `LocaleStore.indistinct_alike`: stores that agree on the default locale lead to the same
    locales.
  * `Process.Settled.answer_fresh`: a shared compiler answers as in a fresh process.
  * `Work.preview_eq_format`: a preview shows what formatting and emitting give.
  * `Process.answers_of_arises`: both behind any events.
-/
import DatePattern.Process
import DatePattern.Proofs.Lockstep
import DatePattern.Proofs.ProgramShape

namespace DatePattern

open Text

/-! ## What symbols look at -/

theorem LocaleContext.name_congr {x x' : LocaleContext} (h : x.locale = x'.locale)
    (kind : NameKind) (i : Instant) (width : Text) :
    x.name kind i width = x'.name kind i width := by
  cases kind with
  | weekday => simp only [name, weekdayName, h]
  | month => simp only [name, monthName, h]
  | period => simp only [name, periodName, h]

namespace SymbolDefinition

/-- The symbol looks at nothing of a context but its locale. -/
def LooksAtLocale (d : SymbolDefinition) : Prop :=
  ∀ x x' : LocaleContext, x.locale = x'.locale → ∀ i, d.evaluate i x = d.evaluate i x'

theorem looksAtLocale_numeric (name : String) (field : CalendarField)
    (description source : String) (value : Instant → Nat) (hvalue : ∀ i, value i < 10000) :
    (numeric name field description source value hvalue).LooksAtLocale := fun _ _ _ _ => rfl

theorem looksAtLocale_textual (name : String) (field : CalendarField)
    (description source : String) (value : Instant → Text) :
    (textual name field description source value).LooksAtLocale := fun _ _ _ _ => rfl

theorem looksAtLocale_localized (name : String) (field : CalendarField)
    (description source : String) (kind : LocaleContext.NameKind) (width : Width)
    (cut : Text → Text) :
    (localized name field description source kind width cut).LooksAtLocale := by
  intro x x' hx i
  simp only [localized, LocaleContext.name_congr hx]

theorem looksAtLocale_builtin : ∀ d ∈ builtin, d.LooksAtLocale := by
  simp only [builtin, List.forall_mem_cons, looksAtLocale_numeric, looksAtLocale_textual,
    looksAtLocale_localized, true_and]
  exact List.forall_mem_nil _

end SymbolDefinition

theorem Token.formatAll_congr {t : SymbolTable} {x x' : LocaleContext}
    (h : ∀ d ∈ t.definitions, ∀ i, d.evaluate i x = d.evaluate i x') (i : Instant)
    (tokens : List Token) : formatAll t i x tokens = formatAll t i x' tokens := by
  have htoken : ∀ token : Token, token.format t i x = token.format t i x' := by
    intro token
    cases token with
    | literal u => rfl
    | symbol name =>
      cases hget : t.get name with
      | error e => simp only [format, hget, bind, Except.bind]
      | ok d =>
        have hd := SymbolTable.mem_definitions_of_lookup? (SymbolTable.lookup?_of_get hget)
        simp only [format, hget, bind, Except.bind, h d hd i]
  induction tokens with
  | nil => rfl
  | cons token tokens ih => rw [formatAll, formatAll, htoken, ih]

theorem SymbolTable.printsAlike_builtin (withCase : Bool) :
    (builtin withCase).PrintsAlike fun x x' => x.locale = x'.locale :=
  fun x x' hx i tokens => Token.formatAll_congr
    (fun d hd => SymbolDefinition.looksAtLocale_builtin d hd x x' hx) i tokens

/-- Where all names are names of symbols, there is a text. -/
theorem Token.exists_formatAll {t : SymbolTable} {tokens : List Token}
    (h : ∀ name ∈ symbolNames tokens, ∃ d, t.get name = .ok d) (i : Instant) (x : LocaleContext) :
    ∃ output, formatAll t i x tokens = .ok output := by
  induction tokens with
  | nil => exact ⟨_, formatAll_nil t i x⟩
  | cons token tokens ih =>
    cases token with
    | literal u =>
      obtain ⟨rest, hrest⟩ := ih h
      exact ⟨_, bind_eq_ok_iff.mpr ⟨_, rfl, bind_eq_ok_iff.mpr ⟨rest, hrest, rfl⟩⟩⟩
    | symbol name =>
      obtain ⟨⟨d, hd⟩, hnames⟩ := List.forall_mem_cons.mp h
      obtain ⟨rest, hrest⟩ := ih hnames
      have hsymbol : (Token.symbol name).format t i x = .ok (.ofValue (d.evaluate i x)) :=
        bind_eq_ok_iff.mpr ⟨d, hd, rfl⟩
      exact ⟨_, bind_eq_ok_iff.mpr ⟨_, hsymbol, bind_eq_ok_iff.mpr ⟨rest, hrest, rfl⟩⟩⟩

/-! ## What stores hold -/

namespace LocaleStore

variable {db? : Option LocaleDatabase} {s s' : LocaleStore} {code : Text} {x : LocaleContext}

/-- Every context kept has the locale in effect for its code; without a database none is kept. -/
def Fits : Option LocaleDatabase → LocaleStore → Prop
  | none, s => s.contexts = .empty
  | some db, s => s.Holds db

theorem fits_empty (db? : Option LocaleDatabase) (default : Text) :
    Fits db? ⟨default, .empty⟩ := by
  cases db? with
  | none => rfl
  | some db =>
    intro e he
    cases he

theorem context?_none (h : s.Fits none) (code : Text) : s.context? none code = none := by
  have hempty : s.contexts = .empty := h
  rw [context?, hempty]
  rfl

theorem Fits.default (h : s.Fits db?) (code : Text) : Fits db? { s with default := code } := by
  cases db? with
  | none => exact h
  | some db => exact h

theorem Fits.context? (h : s.Fits db?) (hs : s.context? db? code = some (x, s')) :
    s'.Fits db? := by
  cases db? with
  | none =>
    rw [context?_none h] at hs
    cases hs
  | some db =>
    have hholds : s.Holds db := h
    obtain ⟨y, r, hr, hkept, -⟩ := hholds.context? code
    rw [hs] at hr
    cases hr
    exact hkept

/-- Stores that agree on the default locale, and hold what they should. -/
structure Alike (db? : Option LocaleDatabase) (s s' : LocaleStore) : Prop where
  left : s.Fits db?
  right : s'.Fits db?
  default_eq : s.default = s'.default

/-- What two such stores keep besides does not show. -/
theorem indistinct_alike (db? : Option LocaleDatabase) :
    Indistinct db? (Alike db?) fun x x' => x.locale = x'.locale where
  default_eq s s' h := h.default_eq
  context := by
    intro s s' h code
    cases db? with
    | none =>
      rw [context?_none h.left, context?_none h.right]
      exact .none
    | some db =>
      have hleft : s.Holds db := h.left
      have hright : s'.Holds db := h.right
      obtain ⟨x, r, hx, hr, hlocale⟩ := hleft.context? code
      obtain ⟨x', r', hx', hr', hlocale'⟩ := hright.context? code
      have hdefault := default_of_context? hx
      have hdefault' := default_of_context? hx'
      rw [hx, hx']
      refine .some ⟨hlocale.trans hlocale'.symm, hr, hr', ?_⟩
      rw [hdefault, hdefault', h.default_eq]
  identifier_eq x x' h := congrArg Locale.identifier h

end LocaleStore

/-! ## Work -/

namespace Work

variable {db? : Option LocaleDatabase} {t : SymbolTable} {functionName parameter : Text}
  {c : Compiler} {s : LocaleStore}

/-- A request keeps what the compiler serves, and what is true of the store if asking for a context
keeps it. -/
theorem serves_of_request {P : LocaleStore → Prop}
    (hP : ∀ s code x s', P s → s.context? db? code = some (x, s') → P s')
    (hc : c.Serves t functionName parameter) (hs : P s) (r : Request) :
    ((r.work db?).run ⟨c, s⟩).2.compiler.Serves t functionName parameter ∧
      P ((r.work db?).run ⟨c, s⟩).2.locales := by
  have hlike : (Workspace.mk c s).Like t functionName parameter
      (fun s s' => s = s' ∧ P s) ⟨c, s⟩ := ⟨hc, hc, rfl, hs⟩
  obtain ⟨-, hafter⟩ := hlike.answer (LocaleStore.indistinct_eq db? hP) t.printsAlike_eq r
  exact ⟨hafter.left, hafter.stores.2⟩

theorem run_emitTokens_eq {tokens : List Token} {code : Text} {c' : Compiler} {s' : LocaleStore}
    (hc : c.Serves t functionName parameter) (hc' : c'.Serves t functionName parameter)
    (h : s.Alike db? s') :
    ((emitTokens db? tokens code).run ⟨c, s⟩).1 = ((emitTokens db? tokens code).run ⟨c', s'⟩).1 :=
  (lockstep_emitTokens (LocaleStore.indistinct_alike db?) tokens code ⟨c, s⟩ ⟨c', s'⟩
    ⟨hc, hc', h⟩).1.eq

/-- What formatting gives, put beside the program. -/
theorem preview_eq_format (hc : c.Serves t functionName parameter) (hs : s.Fits db?)
    {pattern : Text} {given : GivenInstant} {locale : Option Text} {i : Instant}
    {program : Program} (hi : given.toInstant = .ok i)
    (hemit : ((emit db? pattern locale).run ⟨c, s⟩).1 = .ok program) :
    ((preview db? pattern given locale).run ⟨c, s⟩).1 =
      (fun output => Preview.mk pattern i (s.resolve locale)
        (DatePattern.tokenize t.names pattern) output program) <$>
        ((format db? pattern given locale).run ⟨c, s⟩).1 := by
  have htokens := hc.fst_tokenize pattern
  have hc' := hc.snd_tokenize pattern
  unfold emit at hemit
  rw [run_bind_ok (run_tokenize pattern _), run_bind_ok (run_resolve locale _), htokens] at hemit
  unfold preview format
  rw [run_bind_ok (run_lift_ok hi _), run_bind_ok (run_resolve locale _),
    run_bind_ok (run_tokenize pattern _), run_bind_ok (run_lift_ok hi _),
    run_bind_ok (run_resolve locale _), htokens]
  dsimp only at hemit ⊢
  cases hcontext : s.context? db? (s.resolve locale) with
  | none =>
    rw [run_bind_error (run_context_none hcontext), run_bind_error (run_context_none hcontext)]
    rfl
  | some r =>
    -- the program is emitted in the store that making the context has left
    obtain ⟨x, s'⟩ := r
    have halike : s.Alike db? s' :=
      ⟨hs, hs.context? hcontext, (LocaleStore.default_of_context? hcontext).symm⟩
    rw [run_bind_ok (run_context hcontext), run_bind_ok (run_context hcontext),
      run_bind_ok (run_tokenize pattern _), htokens]
    dsimp only
    rw [run_emitTokens_eq hc' hc' halike] at hemit
    obtain ⟨o, hformat⟩ : ∃ o, (formatTokens (DatePattern.tokenize t.names pattern) i x).run
        ⟨(c.tokenize pattern).2, s'⟩ = (o, ⟨(c.tokenize pattern).2, s'⟩) :=
      ⟨_, run_formatTokens _ i x _⟩
    obtain ⟨w, hemitted⟩ : ∃ w, (emitTokens db? (DatePattern.tokenize t.names pattern)
        (s.resolve locale)).run ⟨(c.tokenize pattern).2, s'⟩ = (.ok program, w) :=
      ⟨_, Prod.ext hemit rfl⟩
    cases o with
    | error fault =>
      rw [run_bind_error hformat, hformat]
      rfl
    | ok output =>
      rw [run_bind_ok hformat, run_bind_ok hemitted, hformat]
      rfl

/-- What is emitted with a database, without the caches. -/
theorem run_emit_of_serves {db : LocaleDatabase} (hc : c.Serves t functionName parameter)
    (hs : s.Holds db) (pattern : Text) (locale : Option Text) :
    ∃ code, ((emit (some db) pattern locale).run ⟨c, s⟩).1 =
      (Program.emit t code functionName parameter
        (DatePattern.tokenize t.names pattern)).mapError .ofEmit := by
  obtain ⟨x, s', hcontext, -, -⟩ := hs.context? (s.resolve locale)
  have hc' := hc.snd_tokenize pattern
  unfold emit
  rw [run_bind_ok (run_tokenize pattern _), run_bind_ok (run_resolve locale _),
    run_emitTokens hcontext, hc.fst_tokenize pattern]
  dsimp only
  rw [hc'.table, hc'.functionName, hc'.parameter]
  exact ⟨x.identifier, rfl⟩

/-- Formatting, without the cache of the compiler. -/
theorem run_format_of_serves (hc : c.Serves t functionName parameter) {given : GivenInstant}
    {i : Instant} (hi : given.toInstant = .ok i) {locale : Option Text} {x : LocaleContext}
    {s' : LocaleStore} (hcontext : s.context? db? (s.resolve locale) = some (x, s'))
    (pattern : Text) :
    (format db? pattern given locale).run ⟨c, s⟩ =
      ((Token.formatAll t i x (DatePattern.tokenize t.names pattern)).mapError .unknownSymbol,
        ⟨(c.tokenize pattern).2, s'⟩) := by
  unfold format
  rw [run_bind_ok (run_lift_ok hi _), run_bind_ok (run_resolve locale _),
    run_bind_ok (run_context hcontext), run_bind_ok (run_tokenize pattern _), run_formatTokens,
    hc.fst_tokenize pattern]
  dsimp only
  rw [(hc.snd_tokenize pattern).table]

/-- Whatever is emitted with a database can be formatted. -/
theorem exists_format_of_emit {db : LocaleDatabase} (hc : c.Serves t functionName parameter)
    (hs : s.Holds db) {pattern : Text} {given : GivenInstant} {locale : Option Text} {i : Instant}
    {program : Program} (hi : given.toInstant = .ok i)
    (hemit : ((emit (some db) pattern locale).run ⟨c, s⟩).1 = .ok program) :
    ∃ output, ((format (some db) pattern given locale).run ⟨c, s⟩).1 = .ok output := by
  obtain ⟨code, hrun⟩ := run_emit_of_serves hc hs pattern locale
  rw [hrun] at hemit
  obtain ⟨d, hd, -⟩ := Program.covers_of_emit (mapError_eq_ok_iff.mp hemit)
  obtain ⟨x, s', hcontext, -, -⟩ := hs.context? (s.resolve locale)
  obtain ⟨output, houtput⟩ := Token.exists_formatAll (fun _ hname => hd.get hname) i x
  rw [run_format_of_serves hc hi hcontext]
  exact ⟨output, mapError_eq_ok_iff.mpr houtput⟩

end Work

/-! ## Processes -/

theorem Compiler.serves_ofBuiltin (withCase : Bool) :
    (ofBuiltin withCase).Serves (.builtin withCase) defaultFunctionName defaultParameter := by
  refine ⟨rfl, rfl, rfl, fun cache hcache => ?_⟩
  have hmake : TokenCache.ofCapacity? 256 = some cache := hcache
  exact TokenCache.holds_ofCapacity? hmake

namespace Session

/-- The store fits the database, and the shared compilers are those of the built-in table. -/
structure Settled (db? : Option LocaleDatabase) (s : Session) : Prop where
  locales : s.locales.Fits db?
  shared : ∀ how, (s.shared how).Serves (.builtin (how.getD false)) defaultFunctionName
    defaultParameter

variable {db? : Option LocaleDatabase} {s : Session}

theorem settled_freshAt (db? : Option LocaleDatabase) (code : Text) : (freshAt code).Settled db? :=
  ⟨LocaleStore.fits_empty db? code, fun how => Compiler.serves_ofBuiltin (how.getD false)⟩

theorem Settled.default (h : s.Settled db?) (code : Text) :
    Settled db? { s with locales := { s.locales with default := code } } :=
  ⟨h.locales.default code, h.shared⟩

theorem Settled.setDefault (h : s.Settled db?) (code : Text) :
    (s.setDefault code).2.Settled db? := by
  unfold Session.setDefault LocaleStore.setDefault?
  dsimp only
  split
  · exact h
  · rename_i hset
    split at hset
    · cases hset
    · cases hset
      exact h.default _

theorem Settled.useSystem (h : s.Settled db?) (settings : LocaleCode.SystemSettings) :
    (s.useSystem settings).2.Settled db? := by
  have hset := h.setDefault (LocaleCode.systemCode settings)
  unfold Session.useSystem
  dsimp only
  split <;> rename_i heq <;> rwa [heq] at hset

theorem Settled.context (h : s.Settled db?) (code : Text) : (s.context db? code).2.Settled db? := by
  unfold Session.context
  split
  · exact h
  · rename_i hcontext
    exact ⟨h.locales.context? hcontext, h.shared⟩

theorem Settled.withCompiler (h : s.Settled db?) {c : Compiler} {t : SymbolTable}
    {functionName parameter : Text} (hc : c.Serves t functionName parameter) (r : Request) :
    (s.withCompiler c (r.work db?)).2.1.Serves t functionName parameter ∧
      (s.withCompiler c (r.work db?)).2.2.Settled db? := by
  obtain ⟨hserves, hfits⟩ :=
    Work.serves_of_request (fun _ _ _ _ h => h.context?) hc h.locales r
  exact ⟨hserves, hfits, h.shared⟩

theorem Settled.withShared (h : s.Settled db?) (how : Sharing) (r : Request) :
    (s.withShared how (r.work db?)).2.Settled db? := by
  obtain ⟨hserves, hfits⟩ :=
    Work.serves_of_request (fun _ _ _ _ h => h.context?) (h.shared how) h.locales r
  refine ⟨hfits, fun other => ?_⟩
  by_cases hother : other = how
  · subst hother
    rw [Session.withShared, shared_setShared]
    exact hserves
  · rw [Session.withShared, shared_setShared_of_ne hother]
    exact h.shared other

/-- A shared compiler answers as in a fresh process with the same default locale. -/
theorem Settled.answer_fresh (h : s.Settled db?) (how : Sharing) (r : Request) :
    (s.withShared how (r.work db?)).1 =
      ((freshAt s.locales.default).withShared how (r.work db?)).1 := by
  have hfresh := settled_freshAt db? s.locales.default
  have hlike : (Workspace.mk (s.shared how) s.locales).Like (.builtin (how.getD false))
      defaultFunctionName defaultParameter (LocaleStore.Alike db?)
      ⟨(freshAt s.locales.default).shared how, (freshAt s.locales.default).locales⟩ :=
    ⟨h.shared how, hfresh.shared how, h.locales, hfresh.locales, rfl⟩
  exact (hlike.answer (LocaleStore.indistinct_alike db?) (SymbolTable.printsAlike_builtin _) r).1

end Session

namespace Process

variable {db? : Option LocaleDatabase} {t : SymbolTable} {functionName parameter : Text}
  {p : Process}

/-- What the process shares is settled, and the caller's own compiler serves its table. -/
structure Settled (db? : Option LocaleDatabase) (t : SymbolTable) (functionName parameter : Text)
    (p : Process) : Prop where
  session : p.session.Settled db?
  own : p.own.Serves t functionName parameter

theorem Settled.step (h : p.Settled db? t functionName parameter) (e : Event) :
    (p.step db? e).Settled db? t functionName parameter := by
  cases e with
  | setDefault code => exact ⟨h.session.setDefault code, h.own⟩
  | resetDefault => exact ⟨h.session.default LocaleCode.fallback, h.own⟩
  | useSystem settings => exact ⟨h.session.useSystem settings, h.own⟩
  | context code => exact ⟨h.session.context code, h.own⟩
  | forgetContexts => exact ⟨⟨LocaleStore.fits_empty db? _, h.session.shared⟩, h.own⟩
  | shared how r => exact ⟨h.session.withShared how r, h.own⟩
  | own r =>
    obtain ⟨hown, hsession⟩ := h.session.withCompiler h.own r
    exact ⟨hsession, hown⟩

theorem Settled.after (h : p.Settled db? t functionName parameter) (events : List Event) :
    (p.after db? events).Settled db? t functionName parameter := by
  induction events generalizing p with
  | nil =>
    rw [after_nil]
    exact h
  | cons e events ih =>
    rw [after_cons]
    exact ih (h.step e)

theorem Settled.serves (h : p.Settled db? t functionName parameter) {c : Compiler} (hc : p.Has c) :
    ∃ t f q, c.Serves t f q := by
  rcases hc with rfl | ⟨how, rfl⟩
  · exact ⟨_, _, _, h.own⟩
  · exact ⟨_, _, _, h.session.shared how⟩

section Start

variable {table? : Option SymbolTable} {config : Config} {c : Compiler}

theorem settled_start (hmake : Compiler.make table? config = .ok c)
    (db? : Option LocaleDatabase) :
    (Process.mk .fresh c).Settled db? c.table config.functionName config.parameter := by
  have hserves := Compiler.serves_of_make hmake
  exact ⟨Session.settled_freshAt db? LocaleCode.fallback, hserves.table ▸ hserves⟩

/-- Whatever happens, a process stays settled, for the table and the names of its compiler. -/
theorem settled_after (hmake : Compiler.make table? config = .ok c) (db? : Option LocaleDatabase)
    (events : List Event) :
    (after db? ⟨.fresh, c⟩ events).Settled db? c.table config.functionName config.parameter :=
  (settled_start hmake db?).after events

end Start

/-- A process that began fresh, with a compiler of the caller's own for any table. -/
def Arises (db? : Option LocaleDatabase) (p : Process) : Prop :=
  ∃ (table? : Option SymbolTable) (config : Config) (c : Compiler) (events : List Event),
    Compiler.make table? config = .ok c ∧ p = after db? ⟨.fresh, c⟩ events

theorem Arises.settled (h : p.Arises db?) : ∃ t f q, p.Settled db? t f q := by
  obtain ⟨table?, config, c, events, hmake, rfl⟩ := h
  exact ⟨_, _, _, settled_after hmake db? events⟩

/-- Whatever has happened in a process, its shared compilers answer as those of a fresh one with
the same default locale.  With every compiler a preview shows the tokens, the program and what
formatting gives, which is a text wherever contexts can be made. -/
theorem answers_of_arises (h : p.Arises db?) :
    (∀ how (r : Request), (p.session.withShared how (r.work db?)).1 =
      ((Session.freshAt p.session.locales.default).withShared how (r.work db?)).1) ∧
    ∀ c, p.Has c → ∀ pattern given i locale program, given.toInstant = .ok i →
      (p.session.withCompiler c (Work.emit db? pattern locale)).1 = .ok program →
      ∃ tokens, (p.session.withCompiler c (Work.tokenize pattern)).1 = .ok tokens ∧
        (p.session.withCompiler c (Work.preview db? pattern given locale)).1 =
          (fun output => Work.Preview.mk pattern i (p.session.locales.resolve locale) tokens output
            program) <$> (p.session.withCompiler c (Work.format db? pattern given locale)).1 ∧
        (db?.isSome → ∃ output,
          (p.session.withCompiler c (Work.format db? pattern given locale)).1 = .ok output) := by
  obtain ⟨t, f, q, hp⟩ := h.settled
  refine ⟨hp.session.answer_fresh, fun c hc pattern given i locale program hi hemit => ?_⟩
  obtain ⟨t', f', q', hserves⟩ := hp.serves hc
  refine ⟨_, congrArg Except.ok (hserves.fst_tokenize pattern),
    Work.preview_eq_format hserves hp.session.locales hi hemit, fun hdb => ?_⟩
  cases db? with
  | none => cases hdb
  | some db => exact Work.exists_format_of_emit hserves hp.session.locales hi hemit

/-- A process in which a locale has been asked for by another spelling, a request has failed and
the default locale has been changed. -/
theorem answers_of_arises_english : ∃ p : Process, p.Arises (some .englishOnly) ∧
    p.session.locales.default = ['d', 'e'] ∧
    (p.session.withShared none
        ((Request.format ['d'] (.instant (.ofDate ⟨2015, 10, 21, by decide, by decide, by decide⟩))
          none).work (some .englishOnly))).1 =
      ((Session.freshAt ['d', 'e']).withShared none
        ((Request.format ['d'] (.instant (.ofDate ⟨2015, 10, 21, by decide, by decide, by decide⟩))
          none).work (some .englishOnly))).1 ∧
    ∃ program tokens output,
      (p.session.withCompiler p.own (Work.emit (some .englishOnly) ['d'] none)).1 = .ok program ∧
      (p.session.withCompiler p.own (Work.tokenize ['d'])).1 = .ok tokens ∧
      (p.session.withCompiler p.own (Work.preview (some .englishOnly) ['d']
        (.instant (.ofDate ⟨2015, 10, 21, by decide, by decide, by decide⟩)) none)).1 =
          .ok ⟨['d'], .ofDate ⟨2015, 10, 21, by decide, by decide, by decide⟩, ['d', 'e'], tokens,
            output, program⟩ := by
  have hmake : Compiler.make none {} = .ok (.ofBuiltin false) := by
    rw [Compiler.make, Config.check_default]
    rfl
  obtain ⟨p, hp⟩ : ∃ p, p = after (some .englishOnly) ⟨.fresh, .ofBuiltin false⟩
      [.context "en-US".toList, .shared none (.format ['d'] (.other []) none),
        .setDefault ['d', 'e'], .own (.tokenize ['d'])] := ⟨_, rfl⟩
  have harises : p.Arises (some .englishOnly) := ⟨none, {}, _, _, hmake, hp⟩
  have hdefault : p.session.locales.default = ['d', 'e'] := by
    rw [hp]
    decide +kernel
  have hsettled : p.Settled (some .englishOnly) (.builtin false) defaultFunctionName
      defaultParameter := by
    rw [hp]
    exact Settled.after ⟨Session.settled_freshAt _ LocaleCode.fallback,
      Compiler.serves_ofBuiltin false⟩ _
  obtain ⟨code, hemit⟩ :=
    Work.run_emit_of_serves hsettled.own hsettled.session.locales ['d'] none
  have htoken : tokenize (SymbolTable.builtin false).names ['d'] = [.symbol ['d']] := by
    decide +kernel
  obtain ⟨d, hd⟩ : ∃ d, Draft.addAll (.builtin false) defaultParameter {} [.symbol ['d']] = .ok d :=
    ⟨_, rfl⟩
  rw [htoken, Program.emit_eq_ok_iff.mpr ⟨Program.checkNames_default, d, hd, rfl⟩] at hemit
  obtain ⟨hanswers, hpreview⟩ := answers_of_arises harises
  obtain ⟨tokens, htokens, hpreview, houtput⟩ :=
    hpreview p.own (Or.inl rfl) ['d'] (.instant (.ofDate ⟨2015, 10, 21, by decide, by decide,
      by decide⟩)) _ none _ rfl hemit
  obtain ⟨output, houtput⟩ := houtput rfl
  rw [houtput] at hpreview
  have hanswer := hanswers none (.format ['d'] (.instant (.ofDate ⟨2015, 10, 21, by decide,
    by decide, by decide⟩)) none)
  rw [hdefault] at hanswer
  refine ⟨p, harises, hdefault, hanswer, _, tokens, output, hemit, htokens, ?_⟩
  rw [hpreview, LocaleStore.resolve_none, hdefault]
  rfl

end Process

end DatePattern
