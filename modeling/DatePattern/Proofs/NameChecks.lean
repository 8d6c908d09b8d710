/-
  Names that are accepted with the settings of a compiler and refused when a program is emitted.

  The settings know nothing of the table.  The function and the instant are held to the same rules
  both times, but only the emitter asks whether the instant is called like a symbol, and then it
  refuses every pattern.  Nothing else that can go wrong while a program is emitted is about these
  names (`Draft.not_isOfName_of_addAll`).

  * `Program.checkNames_of_accepted`: what the emitter says about names that have been accepted.
  * `Process.emit_refusesName_iff`: a compiler refuses its names exactly if its parameter is a name
    of its table, whatever has happened before.
-/
import DatePattern.Proofs.LocaleMemory

namespace DatePattern

open Text

/-! ## The settings -/

theorem Program.checkNames_of_accepted {config : Config} (h : config.check = .ok ())
    (t : SymbolTable) :
    checkNames t config.functionName config.parameter =
      if config.parameter ∈ t.names then .error (.parameter config.parameter) else .ok () := by
  obtain ⟨-, hfunction, hparameter⟩ := Config.check_eq_ok_iff.mp h
  have hcontains : t.contains config.parameter = decide (config.parameter ∈ t.names) := by
    rw [SymbolTable.contains, List.contains_eq_mem]
  simp [checkNames, hfunction, hparameter, hcontains]

/-! ## The emitter -/

/-- A refusal of the name of a function or of its instant. -/
def EmitFault.IsOfName : EmitFault → Prop
  | .functionName _ | .parameter _ => True
  | .unknown _ | .notEmittable _ | .source _ => False

/-- The same among all faults. -/
def Fault.IsOfName (fault : Fault) : Prop :=
  ∃ name, fault = .functionName name ∨ fault = .parameter name

theorem Fault.isOfName_ofEmit {fault : EmitFault} :
    (Fault.ofEmit fault).IsOfName ↔ fault.IsOfName := by
  cases fault <;> simp [Fault.ofEmit, Fault.IsOfName, EmitFault.IsOfName]

namespace Draft

variable {t : SymbolTable} {p : Text} {fault : EmitFault}

theorem not_isOfName_of_declaration {name : Text} (h : declaration t p name = .error fault) :
    ¬fault.IsOfName := by
  rcases bind_eq_error_iff.mp h with hget | ⟨d, -, h⟩
  · obtain ⟨symbol, -, rfl⟩ := mapError_eq_error_iff.mp hget
    exact id
  split at h
  · rcases bind_eq_error_iff.mp h with hsource | ⟨source, -, h⟩
    · obtain ⟨f, -, rfl⟩ := mapError_eq_error_iff.mp hsource
      exact id
    · cases h
  · cases h
    exact id

theorem not_isOfName_of_add {d : Draft} {token : Token} (h : d.add t p token = .error fault) :
    ¬fault.IsOfName := by
  cases token with
  | literal u => cases h
  | symbol name =>
    rw [add, declare] at h
    split at h
    · cases h
    · rcases bind_eq_error_iff.mp h with hdeclaration | ⟨v, -, h⟩
      · exact not_isOfName_of_declaration hdeclaration
      · cases h

/-- What goes wrong with the symbols of a pattern is not about the names of the program. -/
theorem not_isOfName_of_addAll {d : Draft} {tokens : List Token}
    (h : d.addAll t p tokens = .error fault) : ¬fault.IsOfName := by
  induction tokens generalizing d with
  | nil => cases h
  | cons token tokens ih =>
    rcases bind_eq_error_iff.mp h with hadd | ⟨d', -, h⟩
    · exact not_isOfName_of_add hadd
    · exact ih h

end Draft

/-- The emitter refuses names exactly where its check does. -/
theorem Program.emit_isOfName_iff {t : SymbolTable} {locale functionName parameter : Text}
    {tokens : List Token} {fault : EmitFault} :
    emit t locale functionName parameter tokens = .error fault ∧ fault.IsOfName ↔
      checkNames t functionName parameter = .error fault := by
  have hcheck : checkNames t functionName parameter = .error fault → fault.IsOfName := by
    unfold checkNames
    intro h
    split at h
    · cases h
      exact trivial
    · split at h
      · cases h
        exact trivial
      · cases h
  constructor
  · rintro ⟨hemit, hname⟩
    rcases bind_eq_error_iff.mp hemit with hnames | ⟨u, -, hemit⟩
    · exact hnames
    · rcases bind_eq_error_iff.mp hemit with hadd | ⟨d, -, hemit⟩
      · exact absurd hname (Draft.not_isOfName_of_addAll hadd)
      · cases hemit
  · intro hnames
    exact ⟨bind_eq_error_iff.mpr (Or.inl hnames), hcheck hnames⟩

/-! ## Compilers -/

namespace Work

/-- The locale in effect depends on the locale store alone. -/
theorem exists_run_effectiveLocale (db? : Option LocaleDatabase) (code : Text) (s : LocaleStore) :
    ∃ locale s', ∀ c, (effectiveLocale db? code).run ⟨c, s⟩ = (.ok locale, ⟨c, s'⟩) := by
  cases db? with
  | none => exact ⟨code, s, fun _ => rfl⟩
  | some db =>
    obtain ⟨x, s', hcontext⟩ := s.exists_context? db code
    exact ⟨x.identifier, s', fun c => run_effectiveLocale hcontext⟩

/-- Emitting a pattern comes down to emitting its tokens for the locale in effect. -/
theorem run_emit_of_effectiveLocale {t : SymbolTable} {functionName parameter : Text} {c : Compiler}
    (hc : c.Serves t functionName parameter) {db? : Option LocaleDatabase} {s s' : LocaleStore}
    {locale : Option Text} {code : Text}
    (heffective : ∀ c, (effectiveLocale db? (s.resolve locale)).run ⟨c, s⟩ = (.ok code, ⟨c, s'⟩))
    (pattern : Text) :
    ((emit db? pattern locale).run ⟨c, s⟩).1 =
      (Program.emit t code functionName parameter
        (DatePattern.tokenize t.names pattern)).mapError .ofEmit := by
  have hc' := hc.snd_tokenize pattern
  unfold emit emitTokens
  rw [run_bind_ok (run_tokenize pattern _), run_bind_ok (run_resolve locale _),
    run_bind_ok (heffective _), run_bind_ok (run_get _), run_lift, hc.fst_tokenize pattern]
  dsimp only
  rw [hc'.table, hc'.functionName, hc'.parameter]

/-- With or without a database, this is a locale that is the same with every compiler. -/
theorem exists_run_emit (db? : Option LocaleDatabase) (s : LocaleStore) (pattern : Text)
    (locale : Option Text) :
    ∃ code, ∀ {t : SymbolTable} {functionName parameter : Text} {c : Compiler},
      c.Serves t functionName parameter →
      ((emit db? pattern locale).run ⟨c, s⟩).1 =
        (Program.emit t code functionName parameter
          (DatePattern.tokenize t.names pattern)).mapError .ofEmit := by
  obtain ⟨code, s', heffective⟩ := exists_run_effectiveLocale db? (s.resolve locale) s
  exact ⟨code, fun hc => run_emit_of_effectiveLocale hc heffective pattern⟩

/-- A compiler refuses its names exactly if its parameter is a name of the table. -/
theorem run_emit_isOfName_iff {t : SymbolTable} {config : Config} (hcheck : config.check = .ok ())
    {c : Compiler} (hc : c.Serves t config.functionName config.parameter)
    (db? : Option LocaleDatabase) (s : LocaleStore) (pattern : Text) (locale : Option Text)
    (fault : Fault) :
    ((emit db? pattern locale).run ⟨c, s⟩).1 = .error fault ∧ fault.IsOfName ↔
      config.parameter ∈ t.names ∧ fault = .parameter config.parameter := by
  have hnames := Program.checkNames_of_accepted hcheck t
  obtain ⟨code, hrun⟩ := exists_run_emit db? s pattern locale
  rw [hrun hc, mapError_eq_error_iff]
  constructor
  · rintro ⟨⟨f, hemit, rfl⟩, hname⟩
    have hrefused := Program.emit_isOfName_iff.mp ⟨hemit, Fault.isOfName_ofEmit.mp hname⟩
    rw [hnames] at hrefused
    split at hrefused
    · rename_i hmem
      cases hrefused
      exact ⟨hmem, rfl⟩
    · cases hrefused
  · rintro ⟨hmem, rfl⟩
    rw [if_pos hmem] at hnames
    obtain ⟨hemit, hname⟩ := Program.emit_isOfName_iff.mpr hnames
    exact ⟨⟨_, hemit, rfl⟩, Fault.isOfName_ofEmit.mpr hname⟩

end Work

/-- The same in a session. -/
theorem Session.exists_fst_emit (db? : Option LocaleDatabase) (s : Session) (pattern : Text)
    (locale : Option Text) :
    ∃ code, ∀ {t : SymbolTable} {functionName parameter : Text} {c : Compiler},
      c.Serves t functionName parameter →
      (s.withCompiler c (Work.emit db? pattern locale)).1 =
        (Program.emit t code functionName parameter
          (tokenize t.names pattern)).mapError .ofEmit :=
  Work.exists_run_emit db? s.locales pattern locale

/-- A single letter is accepted for the instant, also the name of a symbol. -/
theorem Config.check_letter {c : Char} (h : isIdentifierStart c = true) :
    check { parameter := [c] } = .ok () := by
  have hdefault := (check_eq_ok_iff.mp check_default).2.1
  exact check_eq_ok_iff.mpr ⟨Int.natCast_nonneg 256, hdefault, Program.isParameterName_singleton h⟩

theorem Compiler.make_letter {c : Char} (h : isIdentifierStart c = true) :
    make none { parameter := [c] } =
      .ok ⟨.builtin false, { parameter := [c] }, TokenCache.ofCapacity? 256⟩ := by
  rw [make, Config.check_letter h]
  rfl

namespace Process

/-- Names that are accepted with the settings pass the check of the emitter exactly if the parameter
is no name of the table.  So whatever has happened, a compiler whose parameter is one refuses every
pattern for it, and any other one refuses its names for no pattern. -/
theorem emit_refusesName_iff {table? : Option SymbolTable} {config : Config} {c : Compiler}
    (hmake : Compiler.make table? config = .ok c) (db? : Option LocaleDatabase)
    (events : List Event) {p : Process} (hp : p = after db? ⟨.fresh, c⟩ events) (pattern : Text)
    (locale : Option Text) :
    (Program.checkNames c.table config.functionName config.parameter = .ok () ↔
      config.parameter ∉ c.table.names) ∧
    ∀ fault, (p.session.withCompiler p.own (Work.emit db? pattern locale)).1 = .error fault ∧
      fault.IsOfName ↔ config.parameter ∈ c.table.names ∧ fault = .parameter config.parameter := by
  obtain ⟨u, hcheck, -⟩ := bind_eq_ok_iff.mp hmake
  subst hp
  have hown := (settled_after hmake db? events).own
  refine ⟨?_, fun fault => ?_⟩
  · rw [Program.checkNames_of_accepted hcheck]
    split <;> simp_all
  · rw [Session.fst_withCompiler]
    exact Work.run_emit_isOfName_iff hcheck hown db? _ pattern locale fault

/-- Behind a request that fails, the compiler whose instant is called like the day refuses a pattern
without days, and says why. -/
theorem emit_refusesName_iff_day : ∃ c p, Compiler.make none { parameter := ['d'] } = .ok c ∧
    p = after none ⟨.fresh, c⟩ [.setDefault ['d', 'e'], .own (.format ['M'] (.other []) none)] ∧
    (p.session.withCompiler p.own (Work.emit none ['y', 'y'] none)).1 =
      .error (.parameter ['d']) := by
  have hmem : ['d'] ∈ (SymbolTable.builtin false).names := by decide +kernel
  obtain ⟨p, hp⟩ : ∃ p, p = after none
      ⟨.fresh, .builtin false, { parameter := ['d'] }, TokenCache.ofCapacity? 256⟩
      [.setDefault ['d', 'e'], .own (.format ['M'] (.other []) none)] := ⟨_, rfl⟩
  have hmake : Compiler.make none { parameter := ['d'] } =
      .ok ⟨.builtin false, { parameter := ['d'] }, TokenCache.ofCapacity? 256⟩ :=
    Compiler.make_letter (by decide)
  obtain ⟨-, hrefused⟩ := emit_refusesName_iff hmake none _ hp ['y', 'y'] none
  exact ⟨_, p, hmake, hp, ((hrefused _).mpr ⟨hmem, rfl⟩).1⟩

/-- Settings that are accepted, with which no program is emitted. -/
theorem emit_refuses_day : ∃ c, Compiler.make none { parameter := ['d'] } = .ok c ∧
    (Session.fresh.withCompiler c (Work.emit (some .englishOnly) ['y', 'y', 'y', 'y'] none)).1 =
      .error (.parameter ['d']) := by
  have hmem : ['d'] ∈ (SymbolTable.builtin false).names := by decide +kernel
  have hletter : isIdentifierStart 'd' = true := by decide
  have hserves := Compiler.serves_of_make (Compiler.make_letter hletter)
  have hrefused := Work.run_emit_isOfName_iff (Config.check_letter hletter) hserves
    (some .englishOnly) Session.fresh.locales ['y', 'y', 'y', 'y'] none (.parameter ['d'])
  refine ⟨_, Compiler.make_letter hletter, ?_⟩
  rw [Session.fst_withCompiler]
  exact (hrefused.mpr ⟨hmem, rfl⟩).1

end Process

end DatePattern
