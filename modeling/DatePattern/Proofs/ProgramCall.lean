/-
  What a loaded program returns.

  A call assigns one variable after the other.  Each source is evaluated in a scope that still
  binds the instant, the locale and the calendar names, since no symbol is called like one of them
  (`Scope.Equips`), and no variable is assigned twice, so behind all assignments every variable
  shows as the value of its symbol (`assign_of_twins`).

  * `exists_calls_of_formatAll`: if tokens can be formatted without a fault, the program emitted for
    them returns the same text, in every locale that the calendar names it uses allow.
  * `call_of_formatAll`: so it does in the locale that they were formatted in.
-/
import DatePattern.Proofs.Emission
import DatePattern.Proofs.ProgramBody
import DatePattern.Proofs.TemplateValue
import DatePattern.Proofs.Twins

namespace DatePattern

open Text

/-! ## Scopes -/

namespace Scope

variable {s : Scope} {p : Text} {i : Instant} {usesNames : Prop} {names : CalendarNames}

theorem find_of_lookup {x : Text} {v : Value} (h : s.lookup x = some v) : s.find x = .ok v := by
  rw [Scope.find, h]

/-- What a name means is told by what it is bound to. -/
theorem find_congr {s' : Scope} {x : Text} (h : s'.lookup x = s.lookup x) :
    s'.find x = s.find x := by
  rw [Scope.find, Scope.find, h]

theorem find_cons_self (s : Scope) (x : Text) (v : Value) : Scope.find ((x, v) :: s) x = .ok v :=
  find_of_lookup (Language.lookup_cons_self s x v)

theorem find_cons_of_ne {x y : Text} (h : y ≠ x) (v : Value) :
    Scope.find ((x, v) :: s) y = s.find y :=
  find_congr (Language.lookup_cons_of_ne h v)

/-- A scope that binds these names as the sources expect it. -/
structure Equips (s : Scope) (p : Text) (i : Instant) (usesNames : Prop) (names : CalendarNames) :
    Prop where
  instant : s.find p = .ok (.instant i)
  str : s.find "str".toList = .ok (.callable .str)
  names : usesNames → s.OffersNames names

theorem Equips.cons (h : s.Equips p i usesNames names) {x : Text} (hx : x ∉ usedNames p)
    (v : Value) : Scope.Equips ((x, v) :: s) p i usesNames names := by
  have hne : ∀ y ∈ usedNames p, y ≠ x := by
    rintro y hy rfl
    exact hx hy
  have hfind : ∀ y ∈ usedNames p, Scope.find ((x, v) :: s) y = s.find y :=
    fun y hy => find_cons_of_ne (hne y hy) v
  refine ⟨?_, ?_, fun hu => ?_⟩
  · rw [hfind _ (by simp [usedNames])]
    exact h.instant
  · rw [hfind _ (by simp [usedNames])]
    exact h.str
  · obtain ⟨db, code, l, hcode, hdb, hl, hnames⟩ := h.names hu
    refine ⟨db, code, l, ?_, ?_, hl, hnames⟩
    · rw [hfind _ (by simp [usedNames])]
      exact hcode
    · rw [hfind _ (by simp [usedNames])]
      exact hdb

theorem Equips.serves (h : s.Equips p i usesNames names) {d : SymbolDefinition}
    (hd : SymbolDefinition.datesImport ∈ d.imports → usesNames) : s.Serves d p i names :=
  ⟨h.instant, h.str, fun hi => h.names (hd hi)⟩

end Scope

/-! ## Assignments -/

/-- The source of a declaration is that of a symbol whose value shows as a text, with a word for the
instant. -/
def Declaration.Computes (v : Declaration) (word : Text) (i : Instant) (x : LocaleContext)
    (usesNames : Prop) (text : Text) : Prop :=
  ∃ (d : SymbolDefinition) (val : SymbolValue), d.HasTwin ∧ d.renderSource word = .ok v.source ∧
    (SymbolDefinition.datesImport ∈ d.imports → usesNames) ∧ d.evaluate i x = .ok val ∧
    val.shown = text

theorem Declaration.Computes.mono {v : Declaration} {p : Text} {i : Instant} {x : LocaleContext}
    {usesNames usesNames' : Prop} {text : Text} (h : v.Computes p i x usesNames text)
    (huses : usesNames → usesNames') : v.Computes p i x usesNames' text := by
  obtain ⟨d, val, htwin, hrender, himports, hvalue⟩ := h
  exact ⟨d, val, htwin, hrender, fun hd => huses (himports hd), hvalue⟩

/-- Such a source is an expression, and its value shows as the same text. -/
theorem Declaration.Computes.exists_expr {v : Declaration} {word p : Text} {i : Instant}
    {x : LocaleContext} {usesNames : Prop} {text : Text} (h : v.Computes word i x usesNames text)
    (hp : Lexeme.IsWordFor word p) :
    ∃ e, Expr.read? v.source = some e ∧
      ∀ s : Scope, s.Equips p i usesNames x.locale.names →
        ∃ w, e.eval s = .ok w ∧ w.shown = .ok text := by
  obtain ⟨d, val, htwin, hrender, huses, heval, hshown⟩ := h
  obtain ⟨source, e, hrender', hread, -, hagrees⟩ := htwin word p hp
  rw [hrender] at hrender'
  cases hrender'
  refine ⟨e, hread, fun s hs => ?_⟩
  have hagree := hagrees s i x (hs.serves huses)
  rw [heval] at hagree
  cases hw : e.eval s with
  | error fault =>
    rw [hw] at hagree
    exact hagree.elim
  | ok w =>
    rw [hw] at hagree
    rw [← hshown]
    exact ⟨w, rfl, hagree⟩

/-- Behind the assignments every variable shows as its text. -/
theorem assign_of_twins {i : Instant} {x : LocaleContext} {word p : Text} {usesNames : Prop}
    {shown : Text → Text} {vs : List Declaration} {bs : List (Text × Expr)}
    (hbs : List.Forall₂ Expr.language.Reads vs bs)
    (hnodup : (vs.map (·.name)).Nodup) (hfree : ∀ v ∈ vs, v.name ∉ Scope.usedNames p)
    (hp : Lexeme.IsWordFor word p)
    (hvalue : ∀ v ∈ vs, v.Computes word i x usesNames (shown v.name))
    {s : Scope} (hs : s.Equips p i usesNames x.locale.names) :
    ∃ s' : Scope, Expr.language.assign s bs = .ok s' ∧
      ∀ v ∈ vs, s'.Shows v.name (shown v.name) := by
  induction hbs generalizing s with
  | nil => exact ⟨s, rfl, by simp⟩
  | @cons v b vs bs hb hbs ih =>
    obtain ⟨name, e⟩ := b
    obtain ⟨rfl, hread⟩ := hb
    obtain ⟨e', hread', heval⟩ := (hvalue v List.mem_cons_self).exists_expr hp
    cases hread.symm.trans hread'
    -- the first source has its value in the scope reached so far, the others in the next one
    obtain ⟨w, hw, hshown⟩ := heval s hs
    have hequips := hs.cons (hfree v List.mem_cons_self) w
    obtain ⟨hnot, hnodup'⟩ := List.nodup_cons.mp hnodup
    rw [← Language.map_fst_of_reads hbs] at hnot
    obtain ⟨s', hassign, hall⟩ := ih hnodup'
      (fun u hu => hfree u (List.mem_cons_of_mem v hu))
      (fun u hu => hvalue u (List.mem_cons_of_mem v hu)) hequips
    refine ⟨s', bind_eq_ok_iff.mpr ⟨w, hw, hassign⟩, fun u hu => ?_⟩
    rcases List.mem_cons.mp hu with rfl | hu
    · refine ⟨w, Scope.find_of_lookup ?_, hshown⟩
      rw [Language.lookup_assign_of_not_mem hassign hnot]
      exact Language.lookup_cons_self s _ w
    · exact hall u hu

/-! ## Names that can be bound -/

theorem isBindableName_iff {x : Text} :
    isBindableName x = true ↔ isIdentifier x = true ∧ x ∉ keywords ∧ x ∉ builtinNames := by
  simp only [isBindableName, Bool.and_eq_true, decide_eq_true_eq, and_assoc]

theorem isVariable_of_isBindableName {x : Text} (h : isBindableName x = true)
    (hascii : ∀ c ∈ x, c.toNat < 0x80) : Lexeme.IsVariable x := by
  obtain ⟨hid, hkeyword, -⟩ := isBindableName_iff.mp h
  cases x with
  | nil => cases hid
  | cons c rest =>
    simp only [isIdentifier, Bool.and_eq_true, List.all_eq_true] at hid
    refine ⟨⟨c, rest, rfl, hid.1⟩, fun d hd => ?_, hkeyword⟩
    have hsmall := hascii d hd
    rcases List.mem_cons.mp hd with rfl | hd
    · have hstart := hid.1
      rw [isIdentifierStart, if_pos hsmall] at hstart
      rw [isWordChar, hstart]
      rfl
    · have hcontinues := hid.2 d hd
      rw [isIdentifierContinuation, if_pos hsmall] at hcontinues
      exact hcontinues

/-- Any name that can be bound is a word for its normal form. -/
theorem isWordFor_of_isBindableName {x : Text} (h : isBindableName x = true) :
    Lexeme.IsWordFor x (normalized x) := by
  obtain ⟨hid, hkeyword, -⟩ := isBindableName_iff.mp h
  cases x with
  | nil => cases hid
  | cons c rest =>
    simp only [isIdentifier, Bool.and_eq_true, List.all_eq_true] at hid
    obtain ⟨hstart, hrest⟩ := hid
    refine ⟨⟨c, rest, rfl, hstart⟩, fun d hd => ?_, hkeyword, rfl⟩
    rcases List.mem_cons.mp hd with rfl | hd
    · exact isIdentifierContinuation_of_isIdentifierStart hstart
    · exact hrest d hd

theorem isVariable_of_nameProblem? {x : Text} (h : nameProblem? x = none) :
    Lexeme.IsVariable x := by
  obtain ⟨hne, hletters, hkeyword, -⟩ := nameProblem?_eq_none_iff.mp h
  exact Lexeme.isVariable_of_letters hne hletters hkeyword

-- Comparing the names before would take long, so only equal terms are compared.
theorem str_mem_builtinNames : "str".toList ∈ builtinNames := by
  unfold builtinNames
  repeat (first | with_reducible exact List.mem_cons_self | apply List.mem_cons_of_mem)

theorem constantName_mem_builtinNames : constantName ∈ builtinNames := by
  unfold builtinNames constantName
  repeat (first | with_reducible exact List.mem_cons_self | apply List.mem_cons_of_mem)

/-- A symbol is called neither like the instant nor like anything else that sources use. -/
theorem not_mem_usedNames {x p : Text} (h : nameProblem? x = none) (hp : x ≠ p) :
    x ∉ Scope.usedNames p := by
  obtain ⟨-, -, -, -, hreserved, hbuiltin⟩ := nameProblem?_eq_none_iff.mp h
  intro hx
  simp only [Scope.usedNames, List.mem_cons, List.not_mem_nil, or_false] at hx
  rcases hx with hx | hx | hx | hx
  · exact hp hx
  · exact hbuiltin (hx ▸ str_mem_builtinNames)
  · exact hreserved (by simp [hx, reservedNames])
  · exact hreserved (by simp [hx, reservedNames])

/-- A name that can be bound is neither a function that sources call nor the constant. -/
theorem ne_of_isBindableName {x : Text} (h : isBindableName x = true) :
    x ≠ "str".toList ∧ x ≠ constantName := by
  obtain ⟨-, -, hbuiltin⟩ := isBindableName_iff.mp h
  constructor
  · rintro rfl
    exact hbuiltin str_mem_builtinNames
  · rintro rfl
    exact hbuiltin constantName_mem_builtinNames

/-- No keyword and no built-in name is a single letter, so each letter can name the instant. -/
theorem Program.isParameterName_singleton {c : Char} (h : isIdentifierStart c = true) :
    isParameterName [c] = true := by
  have hlonger : ∀ {t : Text}, (t.length == 1) = false → [c] ≠ (String.ofList t).toList := by
    intro t ht heq
    rw [String.toList_ofList] at heq
    rw [← heq] at ht
    cases ht
  have hwords : (∀ w ∈ keywords, [c] ≠ w) ∧ ∀ w ∈ builtinNames, [c] ≠ w := by
    unfold keywords builtinNames
    refine ⟨?_, ?_⟩
    all_goals
      repeat refine List.forall_mem_cons.mpr ⟨hlonger rfl, ?_⟩
      exact List.forall_mem_nil _
  have hbindable : isBindableName [c] = true :=
    isBindableName_iff.mpr ⟨by rw [isIdentifier, h]; rfl, fun hmem => hwords.1 _ hmem rfl,
      fun hmem => hwords.2 _ hmem rfl⟩
  have hnames : [c] ≠ localeParameter ∧ [c] ≠ datesModule := ⟨hlonger rfl, hlonger rfl⟩
  simp [isParameterName, hbindable, hnames]

/-- Names for a function and its instant that stand in no other name's way, where some names are
those of variables.  The instant is bound under the normal form of its name. -/
structure Program.HasFreeNames (used : List Text) (functionName word p : Text) : Prop where
  function_normal : normalized functionName = functionName
  isWordFor : Lexeme.IsWordFor word p
  not_known : p ∉ ["str".toList, localeParameter]
  not_constant : functionName ≠ constantName ∧ p ≠ constantName
  not_used : p ∉ used

/-- Names that pass the checks are free if their normal forms are. -/
theorem Program.hasFreeNames_of_check {t : SymbolTable} {functionName p : Text} {used : List Text}
    (h : checkNames t functionName p = .ok ()) (hf : normalized functionName = functionName)
    (hknown : normalized p ∉ ["str".toList, localeParameter, constantName])
    (hused : normalized p ∉ used) : HasFreeNames used functionName p (normalized p) := by
  obtain ⟨hfunction, hparameter⟩ := isBindableName_of_check h
  simp only [List.mem_cons, List.not_mem_nil, or_false, not_or] at hknown
  obtain ⟨hstr, hlocale, hconstant⟩ := hknown
  refine ⟨hf, isWordFor_of_isBindableName hparameter, ?_,
    ⟨(ne_of_isBindableName hfunction).2, hconstant⟩, hused⟩
  simp only [List.mem_cons, List.not_mem_nil, or_false, not_or]
  exact ⟨hstr, hlocale⟩

/-- So are ASCII names, which are their own normal forms. -/
theorem Program.hasFreeNames_of_ascii {t : SymbolTable} {functionName p : Text} {used : List Text}
    (h : checkNames t functionName p = .ok ()) (hf : ∀ c ∈ functionName, c.toNat < 0x80)
    (hp : ∀ c ∈ p, c.toNat < 0x80) (hused : ∀ n ∈ used, n ∈ t.names) :
    HasFreeNames used functionName p p := by
  have hsmall : ∀ {x : Text}, (∀ c ∈ x, c.toNat < 0x80) → normalized x = x :=
    fun hx => normalized_of_small fun c hc => Nat.lt_trans (hx c hc) (by decide)
  obtain ⟨-, hparameter, hnot⟩ := checkNames_eq_ok_iff.mp h
  simp only [isParameterName, Bool.and_eq_true, decide_eq_true_eq] at hparameter
  obtain ⟨hbindable, hlocale, -⟩ := hparameter
  obtain ⟨hstr, hconstant⟩ := ne_of_isBindableName hbindable
  have hknown : p ∉ ["str".toList, localeParameter, constantName] := by
    simp only [List.mem_cons, List.not_mem_nil, or_false, not_or]
    exact ⟨hstr, hlocale, hconstant⟩
  have hfree : HasFreeNames used functionName p (normalized p) := by
    refine hasFreeNames_of_check h (hsmall hf) ?_ ?_
    all_goals rw [hsmall hp]
    · exact hknown
    · exact mt (hused p) hnot
  rwa [hsmall hp] at hfree

/-- A program with free names can bind them. -/
theorem Program.HasFreeNames.checkBound {used : List Text} {p : Program} {name : Text}
    (h : HasFreeNames used p.functionName p.parameter name) : p.checkBound = .ok () := by
  have hnormal : p.boundParameter = name := h.isWordFor.normalized_eq
  rw [checkBound_eq_ok_iff, hnormal, h.function_normal]
  refine ⟨?_, h.not_constant, rfl⟩
  rintro rfl
  exact h.not_known (by simp)

/-! ## Loading and calling -/

/-- The scope in which a call begins. -/
theorem equips_scope {f : LoadedFunction} {i : Instant} {locale : Text} {names : CalendarNames}
    (hp : f.parameter ∉ ["str".toList, localeParameter])
    (hnames : ∀ db, f.names = some db → f.parameter ≠ datesModule ∧
      ∃ l, db.choose (some (.text locale)) = .ok l ∧ l.names = names) :
    (f.scope (some i) locale).Equips f.parameter i (f.names.isSome = true) names := by
  simp only [List.mem_cons, List.not_mem_nil, or_false, not_or] at hp
  obtain ⟨hstr, hlocale⟩ := hp
  have hsl : "str".toList ≠ localeParameter := by decide
  have hsd : "str".toList ≠ datesModule := by decide
  have hdl : datesModule ≠ localeParameter := by decide
  unfold LoadedFunction.scope Language.start
  refine ⟨Scope.find_cons_self _ _ _, ?_, fun huses => ?_⟩
  · rw [Scope.find_cons_of_ne (Ne.symm hstr), Scope.find_cons_of_ne hsl]
    cases f.names with
    | none => rfl
    | some db =>
      change Scope.find ((datesModule, .calendar db) :: []) "str".toList = _
      rw [Scope.find_cons_of_ne hsd]
      rfl
  · obtain ⟨db, hdb⟩ := Option.isSome_iff_exists.mp huses
    obtain ⟨hdates, l, hl, hln⟩ := hnames db hdb
    refine ⟨db, locale, l, ?_, ?_, hl, hln⟩
    · rw [Scope.find_cons_of_ne (Ne.symm hlocale)]
      exact Scope.find_cons_self _ _ _
    · rw [Scope.find_cons_of_ne (Ne.symm hdates), Scope.find_cons_of_ne hdl, hdb]
      exact Scope.find_cons_self _ _ _

/-- A program whose sources are expressions over variables can be loaded, unless it needs calendar
names and there are none. -/
theorem exists_load {program : Program} {db? : Option LocaleDatabase}
    (hdb : program.needsNames = true → db?.isSome = true)
    (hsources : ∀ v ∈ program.declarations, ∃ e, Expr.read? v.source = some e)
    (hvariable : ∀ name, .substitution name ∈ program.segments → Lexeme.IsVariable name)
    (hbound : program.checkBound = .ok ()) :
    ∃ f, program.load db? = .ok f ∧
      List.Forall₂ Expr.language.Reads program.declarations f.bindings ∧
      (∀ (s : Scope) (shown : Text → Text),
        (∀ name, .substitution name ∈ program.segments → s.Shows name (shown name)) →
          f.result.eval s = .ok (.text (Template.fill shown program.segments))) ∧
      f.parameter = program.boundParameter ∧ f.locale = program.locale ∧
      f.names = if program.needsNames then db? else none := by
  obtain ⟨e, he, heval⟩ := Template.exists_expr hvariable
  obtain ⟨body, hbody, rfl⟩ := Program.exists_body? (L := Expr.language) hsources he
  exact ⟨_, Program.load_eq_ok_iff.mpr ⟨hdb, hbound, body, hbody, rfl⟩,
    (Program.body?_eq_some_iff.mp hbody).1, fun s shown hshown => heval hshown, rfl, rfl, rfl⟩

theorem call_eq {f : LoadedFunction} {i : Instant} {s : Scope} {text : Text} {called : Option Text}
    (hassign : Expr.language.assign (f.scope (some i) (called.getD f.locale)) f.bindings = .ok s)
    (hresult : f.result.eval s = .ok (.text text)) : f.call (some i) called = .ok text := by
  unfold LoadedFunction.call
  refine bind_eq_ok_iff.mpr ⟨(), rfl, ?_⟩
  exact bind_eq_ok_iff.mpr ⟨s, hassign, bind_eq_ok_iff.mpr ⟨_, hresult, rfl⟩⟩

/-- A declaration of an emitted program computes what the symbol of its name shows as. -/
theorem computes_of_describes {t : SymbolTable} {p : Text} {i : Instant} {x : LocaleContext}
    {d : Draft} {tokens : List Token} (htwins : ∀ d ∈ t.definitions, d.HasTwin)
    (hd : d.Describes t p) (hdeclares : ∀ n, d.declares n = true ↔ .symbol n ∈ tokens)
    (hsymbols : ∀ name, .symbol name ∈ tokens → t.HasValue i x name)
    {v : Declaration} (hv : v ∈ d.declarations) :
    v.Computes p i x (SymbolDefinition.datesImport ∈ d.imports) (t.shown i x v.name) := by
  obtain ⟨s, hlookup, hrender, himports⟩ := hd.source v hv
  have htoken : .symbol v.name ∈ tokens :=
    (hdeclares v.name).mp (Draft.declares_iff.mpr ⟨v, hv, rfl⟩)
  obtain ⟨s', val, hlookup', hval, hshown⟩ := hsymbols v.name htoken
  rw [hlookup] at hlookup'
  cases hlookup'
  exact ⟨s, val, htwins s (SymbolTable.mem_definitions_of_lookup? hlookup), hrender,
    himports _, hval, hshown⟩

/-- A call of a function whose variables have twins returns what its result is where they show as
these. -/
theorem call_of_twins {f : LoadedFunction} {i : Instant} {x : LocaleContext} {called : Option Text}
    {word : Text} (shown : Text → Text) {text : Text} {vs : List Declaration}
    (hword : Lexeme.IsWordFor word f.parameter)
    (hp : f.parameter ∉ ["str".toList, localeParameter])
    (hnames : ∀ db, f.names = some db → f.parameter ≠ datesModule ∧
      ∃ l, db.choose (some (.text (called.getD f.locale))) = .ok l ∧ l.names = x.locale.names)
    (hbs : List.Forall₂ Expr.language.Reads vs f.bindings)
    (hnodup : (vs.map (·.name)).Nodup) (hfree : ∀ v ∈ vs, v.name ∉ Scope.usedNames f.parameter)
    (hvalue : ∀ v ∈ vs, v.Computes word i x (f.names.isSome = true) (shown v.name))
    (hresult : ∀ s : Scope, (∀ v ∈ vs, s.Shows v.name (shown v.name)) →
      f.result.eval s = .ok (.text text)) :
    f.call (some i) called = .ok text := by
  have hequips := equips_scope (i := i) hp hnames
  obtain ⟨s, hassign, hshows⟩ :=
    assign_of_twins hbs hnodup hfree hword hvalue hequips
  exact call_eq hassign (hresult s hshows)

/-! ## Formatted tokens as a program -/

section

variable {t : SymbolTable} {functionName p text : Text} {i : Instant} {x : LocaleContext}
  {tokens : List Token}

/-- If tokens can be formatted without a fault, there is a program for them.  Its declarations
compute what the symbols show as, and its template puts in these only. -/
theorem emit_of_formatAll (locale : Text) (htwins : ∀ d ∈ t.definitions, d.HasTwin)
    (hnames : Program.checkNames t functionName p = .ok ()) {q : Text} (hp : Lexeme.IsWordFor p q)
    (hformat : Token.formatAll t i x tokens = .ok ⟨text, []⟩) :
    ∃ d : Draft, Program.emit t locale functionName p tokens =
        .ok ⟨d.declarations, .ofTokens tokens, d.imports, locale, functionName, p⟩ ∧
      (d.declarations.map (·.name)).Nodup ∧
      (∀ v ∈ d.declarations, v.name ∈ Token.symbolNames tokens ∧ v.name ∈ t.names) ∧
      (∀ v ∈ d.declarations,
        v.Computes p i x (SymbolDefinition.datesImport ∈ d.imports) (t.shown i x v.name)) ∧
      ∀ name, .substitution name ∈ Template.ofTokens tokens →
        ∃ v ∈ d.declarations, v.name = name := by
  obtain ⟨hsymbols, -⟩ := Token.formatAll_ok hformat
  have hsources : ∀ name, .symbol name ∈ tokens →
      ∃ s source, t.lookup? name = some s ∧ s.renderSource p = .ok source := by
    intro name h
    obtain ⟨d, v, hlookup, -⟩ := hsymbols name h
    obtain ⟨source, e, hrender, -⟩ :=
      htwins d (SymbolTable.mem_definitions_of_lookup? hlookup) p q hp
    exact ⟨d, source, hlookup, hrender⟩
  obtain ⟨d, hemit, hdescribes, hdeclares⟩ := Program.emit_of_sources locale hnames hsources
  refine ⟨d, hemit, hdescribes.nodup, fun v hv => ?_, fun v hv => ?_, fun name h => ?_⟩
  · have htoken := (hdeclares v.name).mp (Draft.declares_iff.mpr ⟨v, hv, rfl⟩)
    obtain ⟨e, w, hlookup, -⟩ := hsymbols v.name htoken
    exact ⟨Token.mem_symbolNames.mpr htoken, SymbolTable.mem_names_of_lookup? hlookup⟩
  · exact computes_of_describes htwins hdescribes hdeclares hsymbols hv
  · have htoken := Template.substitution_mem_ofTokens.mp h
    exact Draft.declares_iff.mp ((hdeclares name).mpr htoken)

/-- If tokens can be formatted without a fault, there is a program for them.  If its names stand in
no other name's way, it can be loaded unless it needs calendar names and there are none, and a call
returns the same text if the names that it needs are those of the context. -/
theorem exists_calls_of_formatAll (locale : Text) (hvalid : ∀ n ∈ t.names, nameProblem? n = none)
    (htwins : ∀ d ∈ t.definitions, d.HasTwin)
    (hnames : Program.checkNames t functionName p = .ok ()) {q : Text}
    (hfree : Program.HasFreeNames (Token.symbolNames tokens) functionName p q)
    (hformat : Token.formatAll t i x tokens = .ok ⟨text, []⟩) :
    ∃ program, Program.emit t locale functionName p tokens = .ok program ∧
      ∀ db?, (program.needsNames = true → db?.isSome = true ∧ q ≠ datesModule) →
        ∃ f, program.load db? = .ok f ∧ ∀ called,
          (∀ db, program.needsNames = true → db? = some db →
            ∃ l, db.choose (some (.text (called.getD locale))) = .ok l ∧
              l.names = x.locale.names) →
          f.call (some i) called = .ok text := by
  obtain ⟨-, htext⟩ := Token.formatAll_ok hformat
  have hnormal : normalized p = q := hfree.isWordFor.normalized_eq
  obtain ⟨d, hemit, hnodup, hmem, hcomputes, hdeclared⟩ :=
    emit_of_formatAll locale htwins hnames hfree.isWordFor hformat
  refine ⟨_, hemit, fun db? hdb => ?_⟩
  obtain ⟨f, hload, hreads, hresult, hparameter, hflocale, hfnames⟩ :
      ∃ f, Program.load ⟨d.declarations, .ofTokens tokens, d.imports, locale, functionName, p⟩
        db? = .ok f ∧ _ := by
    refine exists_load (fun h => (hdb h).1) (fun v hv => ?_) (fun name h => ?_)
      (Program.HasFreeNames.checkBound hfree)
    · obtain ⟨e, hread, -⟩ := (hcomputes v hv).exists_expr hfree.isWordFor
      exact ⟨e, hread⟩
    · obtain ⟨v, hv, rfl⟩ := hdeclared name h
      exact isVariable_of_nameProblem? (hvalid _ (hmem v hv).2)
  replace hparameter : f.parameter = q := hparameter.trans hnormal
  refine ⟨f, hload, fun called hlocale => ?_⟩
  -- the calendar names are known wherever a declaration needs them
  have huses : SymbolDefinition.datesImport ∈ d.imports → f.names.isSome = true := by
    intro himport
    have hneeds : Program.needsNames ⟨d.declarations, .ofTokens tokens, d.imports, locale,
        functionName, p⟩ = true := List.contains_iff_mem.mpr himport
    rw [hfnames, if_pos hneeds]
    exact (hdb hneeds).1
  refine call_of_twins (x := x) (t.shown i x) (hparameter ▸ hfree.isWordFor)
    (hparameter ▸ hfree.not_known) ?_ hreads hnodup ?_ ?_ ?_
  · intro db hnamed
    rw [hfnames] at hnamed
    split at hnamed
    · rename_i hneeds
      rw [hflocale, hparameter]
      exact ⟨(hdb hneeds).2, hlocale db hneeds hnamed⟩
    · cases hnamed
  · intro v hv
    rw [hparameter]
    refine not_mem_usedNames (hvalid _ (hmem v hv).2) fun heq => hfree.not_used ?_
    rw [← heq]
    exact (hmem v hv).1
  · intro v hv
    exact (hcomputes v hv).mono huses
  · intro s hshows
    rw [htext]
    refine hresult s _ fun name h => ?_
    obtain ⟨v, hv, rfl⟩ := hdeclared name h
    exact hshows v hv

/-- If tokens can be formatted without a fault, the program emitted for them can be loaded, and
returns the same text. -/
theorem call_of_formatAll {locale : Text} {db : LocaleDatabase}
    (hvalid : ∀ n ∈ t.names, nameProblem? n = none)
    (htwins : ∀ d ∈ t.definitions, d.HasTwin)
    (hnames : Program.checkNames t functionName p = .ok ())
    (hf : ∀ c ∈ functionName, c.toNat < 0x80) (hp : ∀ c ∈ p, c.toNat < 0x80)
    (hlocale : ∃ l, db.choose (some (.text locale)) = .ok l ∧ l.names = x.locale.names)
    (hformat : Token.formatAll t i x tokens = .ok ⟨text, []⟩) :
    ∃ program f, Program.emit t locale functionName p tokens = .ok program ∧
      program.load (some db) = .ok f ∧ f.call (some i) none = .ok text := by
  have hused : ∀ n ∈ Token.symbolNames tokens, n ∈ t.names := by
    intro n hn
    obtain ⟨d, v, hlookup, -⟩ := (Token.formatAll_ok hformat).1 n (Token.mem_symbolNames.mp hn)
    exact SymbolTable.mem_names_of_lookup? hlookup
  obtain ⟨-, hparameter, -⟩ := Program.checkNames_eq_ok_iff.mp hnames
  simp only [Program.isParameterName, Bool.and_eq_true, decide_eq_true_eq] at hparameter
  obtain ⟨program, hemit, hcalls⟩ := exists_calls_of_formatAll locale hvalid htwins hnames
    (Program.hasFreeNames_of_ascii hnames hf hp hused) hformat
  obtain ⟨f, hload, hcall⟩ := hcalls (some db) fun _ => ⟨rfl, hparameter.2.2⟩
  refine ⟨program, f, hemit, hload, hcall none fun db' _ hdb => ?_⟩
  cases hdb
  exact hlocale

end

end DatePattern
