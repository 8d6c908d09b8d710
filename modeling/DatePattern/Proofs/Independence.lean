/-
  The variables of an emitted program do not see each other.

  The checks of symbol names, of settings and of the emitter together keep the variables apart from
  every other name that a program binds or uses (`Program.NamesApart`).  So a source whose value
  depends on nothing but what the instant, the locale, the calendar names and built-in names stand
  for has the same value whichever variables have been assigned
  (`Program.IsIndependent`).  This is so whatever language the sources are written in.

  To mention these names only is not enough: a source that calls `dir` mentions a built-in name, and
  its value tells how many variables have been assigned (`Program.not_independent_dir`).  In the
  language of calendar fields it is enough without `dir` (`Expr.dependsOnKnownNames`).

  * `Program.namesApart_of_emit`: how the names of an emitted program lie apart.
  * `Program.apart_of_emit`: so its variables are apart where it is called.
  * `Program.isIndependent_of_apart`: such variables do not see each other.
  * `Program.independent_of_emit`: all of this for programs emitted with a table that was built.
-/
import DatePattern.Proofs.ProgramShape
import DatePattern.Proofs.TableQueries

namespace DatePattern

open Text

/-! ## Names -/

/-- The names of a program lie apart: no variable is declared twice or called like anything else
that the program binds or uses. -/
structure Program.NamesApart (p : Program) : Prop where
  nodup : (p.declarations.map (·.name)).Nodup
  declared : ∀ v ∈ p.declarations, v.name ∉ [p.parameter, localeParameter, datesModule] ∧
    v.name ∉ keywords ∧ v.name ∉ builtinNames
  bound : ∀ x ∈ [p.functionName, p.parameter],
    x ∉ keywords ∧ x ∉ builtinNames ∧ x ≠ datesModule

namespace Program

variable {isExpression : Text → Bool} {ds : List SymbolDefinition} {pairs : List (Text × Text)}
  {t : SymbolTable} {locale functionName parameter : Text} {tokens : List Token} {p : Program}

/-- A declaration of an emitted program is the source of a symbol of the table. -/
theorem exists_symbol_of_emit (h : emit t locale functionName parameter tokens = .ok p)
    {v : Declaration} (hv : v ∈ p.declarations) :
    ∃ s ∈ t.definitions, v.name ∈ t.names ∧ s.renderSource parameter = .ok v.source := by
  obtain ⟨d, hd, rfl⟩ := covers_of_emit h
  obtain ⟨ss, hall, -⟩ := hd.entries
  obtain ⟨s, -, hget, hrender⟩ := exists_of_forall₂ hall hv
  have hlookup := SymbolTable.lookup?_of_get hget
  exact ⟨s, SymbolTable.mem_definitions_of_lookup? hlookup,
    SymbolTable.mem_names_of_lookup? hlookup, hrender⟩

theorem namesApart_of_emit (hnames : ∀ n ∈ t.names, nameProblem? n = none)
    (h : emit t locale functionName parameter tokens = .ok p) : p.NamesApart := by
  have hsymbol := fun v hv => exists_symbol_of_emit (v := v) h hv
  obtain ⟨hcheck, -⟩ := emit_eq_ok_iff.mp h
  obtain ⟨hfunction, hparameter, hfree⟩ := checkNames_eq_ok_iff.mp hcheck
  obtain ⟨d, hd, rfl⟩ := covers_of_emit h
  simp only [isFunctionName, isParameterName, Bool.and_eq_true, decide_eq_true_eq,
    isBindableName_iff] at hfunction hparameter
  obtain ⟨⟨-, hfkeyword, hfbuiltin⟩, hfdates⟩ := hfunction
  obtain ⟨⟨-, hpkeyword, hpbuiltin⟩, -, hpdates⟩ := hparameter
  refine ⟨?nodup, fun v hv => ?declared, ?bound⟩
  case nodup =>
    rw [hd.names_eq]
    exact nodup_distinct _
  case declared =>
    obtain ⟨s, -, hmem, -⟩ := hsymbol v hv
    obtain ⟨-, -, hkeyword, -, hreserved, hbuiltin⟩ := nameProblem?_eq_none_iff.mp (hnames _ hmem)
    refine ⟨fun hx => ?_, hkeyword, hbuiltin⟩
    rcases List.mem_cons.mp hx with hx | hx
    · have hname : v.name = parameter := hx
      exact hfree (hname ▸ hmem)
    · simp only [List.mem_cons, List.not_mem_nil, or_false] at hx
      exact hreserved (by rcases hx with hx | hx <;> simp [hx, reservedNames])
  case bound =>
    exact List.forall_mem_cons.mpr ⟨⟨hfkeyword, hfbuiltin, hfdates⟩,
      List.forall_mem_singleton.mpr ⟨hpkeyword, hpbuiltin, hpdates⟩⟩

end Program

/-! ## Sources -/

/-- A name that means the same in every call: that of the instant, of the locale or of the calendar
names, or a built-in one. -/
def IsKnownName (p x : Text) : Prop := x ∈ [p, localeParameter, datesModule] ∨ x ∈ builtinNames

section

variable {Expression Value Fault : Type}

/-- In a call, the value of an expression depends on nothing but what known names stand for. -/
def Language.DependsOnKnownNames (L : Language Expression Value Fault) (p : Text)
    (e : Expression) : Prop :=
  ∀ instant locale names (s : List (Text × Value)),
    (∀ x, IsKnownName p x → s.lookup x = (L.start p instant locale names).lookup x) →
      L.eval s e = L.eval (L.start p instant locale names) e

/-- The sources of a table are expressions whose values depend on nothing but what known names stand
for.  The instant has some name, and a word, which need not be spelled like it, stands for it. -/
def SymbolTable.DependsOnKnownNames (t : SymbolTable) (L : Language Expression Value Fault)
    (word p : Text) : Prop :=
  ∀ d ∈ t.definitions, ∀ source, d.renderSource word = .ok source →
    ∃ e, L.read? source = some e ∧ L.DependsOnKnownNames p e

end

/-- What begins a call is not the function that looks at all variables. -/
theorem Expr.ne_dir_of_lookup_start {p locale x : Text} {instant : Option Instant}
    {names : Option LocaleDatabase} {v : Value}
    (h : (language.start p instant locale names).lookup x = some v) : v ≠ .callable .dir := by
  rintro rfl
  obtain ⟨y, hmem⟩ : ∃ y, (y, Value.callable .dir) ∈ language.start p instant locale names := by
    obtain ⟨s₁, s₂, hs, -⟩ := List.lookup_eq_some_iff.mp h
    exact ⟨x, hs ▸ by simp⟩
  cases instant <;> cases names <;> simp [Language.start, Value.nothing, Value.text] at hmem

/-- An expression that mentions known names only depends on what these stand for, unless it mentions
the function that looks at all variables. -/
theorem Expr.dependsOnKnownNames {p : Text} {e : Expr} (hknown : ∀ x ∈ e.freeNames, IsKnownName p x)
    (hdir : "dir".toList ∈ e.freeNames → p = "dir".toList) :
    language.DependsOnKnownNames p e := by
  intro instant locale names s hs
  refine eval_congr e fun x hx => ?_
  have hfind := Scope.find_congr (hs x (hknown x hx))
  refine ⟨hfind, fun hfound => ?_⟩
  rw [hfind, Scope.find] at hfound
  cases hlookup : (language.start p instant locale names).lookup x with
  | some v =>
    rw [hlookup] at hfound
    exact ne_dir_of_lookup_start hlookup (Except.ok.inj hfound)
  | none =>
    -- then the name is that of the function, and the instant is called so
    cases hbuiltin : Callable.builtin? x with
    | none => simp [hlookup, hbuiltin] at hfound
    | some g =>
      simp only [hlookup, hbuiltin, Except.ok.injEq, Value.callable.injEq] at hfound
      subst hfound
      obtain rfl := Callable.eq_of_builtin?_dir hbuiltin
      rw [hdir hx, Language.start, Language.lookup_cons_self] at hlookup
      cases hlookup

/-- The names that the sources of built-in symbols mention. -/
theorem SymbolTable.freeNames_builtin (withCase : Bool) {word p source : Text} {e : Expr}
    (hp : Lexeme.IsWordFor word p) {d : SymbolDefinition} (hd : d ∈ (builtin withCase).definitions)
    (hrender : d.renderSource word = .ok source) (hread : Expr.read? source = some e) :
    ∀ x ∈ e.freeNames, x ∈ Scope.usedNames p := by
  obtain ⟨source', e', hrender', hread', hfree, -⟩ :=
    SymbolDefinition.hasTwin_builtin d hd word p hp
  cases hrender.symm.trans hrender'
  cases hread.symm.trans hread'
  exact hfree

theorem isKnownName_of_used {p x : Text} (h : x ∈ Scope.usedNames p) : IsKnownName p x := by
  simp only [Scope.usedNames, List.mem_cons, List.not_mem_nil, or_false] at h
  rcases h with rfl | rfl | rfl | rfl
  · exact Or.inl (by simp)
  · exact Or.inr str_mem_builtinNames
  · exact Or.inl (by simp)
  · exact Or.inl (by simp)

theorem SymbolTable.dependsOnKnownNames_builtin (withCase : Bool) {word p : Text}
    (hp : Lexeme.IsWordFor word p) :
    (builtin withCase).DependsOnKnownNames Expr.language word p := by
  intro d hd source hrender
  obtain ⟨source', e, hrender', hread, -⟩ := SymbolDefinition.hasTwin_builtin d hd word p hp
  cases hrender.symm.trans hrender'
  have hused := freeNames_builtin withCase hp hd hrender hread
  refine ⟨e, hread, Expr.dependsOnKnownNames (fun x hx => isKnownName_of_used (hused x hx))
    fun hx => ?_⟩
  have hdir := hused _ hx
  simp only [Scope.usedNames, List.mem_cons, List.not_mem_nil, or_false] at hdir
  rcases hdir with rfl | hdir | hdir | hdir
  · rfl
  all_goals exact absurd hdir (by decide)

namespace Program

section

variable {Expression Value Fault : Type} {L : Language Expression Value Fault} {t : SymbolTable}
  {locale functionName parameter name : Text} {tokens : List Token} {p : Program}
  {b : Body Expression}

/-- Where sources depend on known names only, and no variable is called like the instant, the
variables of a program are apart where it is called. -/
theorem apart_of_emit (hnames : ∀ n ∈ t.names, nameProblem? n = none)
    (hemit : emit t locale functionName parameter tokens = .ok p)
    (hdepends : t.DependsOnKnownNames L parameter name)
    (hname : name ∉ p.declarations.map (·.name)) (hbody : p.body? L = some b)
    (instant : Option Instant) (called : Text) (names : Option LocaleDatabase) :
    L.Apart (L.start name instant called names) b.bindings := by
  have hapart := namesApart_of_emit hnames hemit
  have hreads := (body?_eq_some_iff.mp hbody).1
  have hkeys := Language.map_fst_of_reads hreads
  have hknown : ∀ x, IsKnownName name x → x ∉ p.declarations.map (·.name) := by
    intro x hx hmem
    obtain ⟨v, hv, rfl⟩ := List.mem_map.mp hmem
    obtain ⟨hbound, -, hbuiltin⟩ := hapart.declared v hv
    rcases hx with hx | hx
    · rcases List.mem_cons.mp hx with hx | hx
      · exact hname (hx ▸ hmem)
      · exact hbound (List.mem_cons_of_mem _ hx)
    · exact hbuiltin hx
  constructor
  · rw [hkeys]
    exact hapart.nodup
  · intro c hc r hr
    rw [hkeys] at hr
    obtain ⟨v, hv, -, hread⟩ := exists_of_forall₂ hreads.flip hc
    obtain ⟨d, hd, -, hrender⟩ := exists_symbol_of_emit hemit hv
    obtain ⟨e, hread', he⟩ := hdepends d hd _ hrender
    cases hread.symm.trans hread'
    exact he instant called names r fun x hx => hr x (hknown x hx)

end

/-! ## Independence -/

/-- The variables of a program do not see each other, in a language of expressions. -/
structure IsIndependent {Expression Value Fault : Type} (p : Program)
    (L : Language Expression Value Fault) : Prop where
  /-- The program can be read. -/
  exists_body : ∃ b, p.body? L = some b
  /-- A source has the same outcome whichever variables have been assigned before. -/
  unaffected : ∀ b, p.body? L = some b → ∀ instant locale names ran s, (∀ c ∈ ran, c ∈ b.bindings) →
    L.assign (L.start p.boundParameter instant locale names) ran = .ok s →
      ∀ c ∈ b.bindings,
        L.eval s c.2 = L.eval (L.start p.boundParameter instant locale names) c.2
  /-- With its declarations in another order the program returns the same. -/
  reordered : ∀ b, p.body? L = some b → ∀ vs : List Declaration, vs.Perm p.declarations →
    ∃ b', body? { p with declarations := vs } L = some b' ∧ ∀ instant locale names text,
      L.run (L.start p.boundParameter instant locale names) b' = .ok text ↔
        L.run (L.start p.boundParameter instant locale names) b = .ok text

/-- A program that can be loaded is then loaded with its declarations in another order, too, and the
functions return the same. -/
theorem IsIndependent.exists_load {p : Program} {db? : Option LocaleDatabase}
    (h : p.IsIndependent Expr.language) (hdb : p.needsNames = true → db?.isSome = true)
    (hbound : p.checkBound = .ok ()) :
    ∃ f, p.load db? = .ok f ∧ ∀ vs : List Declaration, vs.Perm p.declarations →
      ∃ f', load { p with declarations := vs } db? = .ok f' ∧
        ∀ i locale label text, f'.call i locale label = .ok text ↔
          f.call i locale label = .ok text := by
  obtain ⟨b, hbody⟩ := h.exists_body
  refine ⟨_, load_eq_ok_iff.mpr ⟨hdb, hbound, b, hbody, rfl⟩, fun vs hvs => ?_⟩
  obtain ⟨b', hbody', hruns⟩ := h.reordered b hbody vs hvs
  refine ⟨_, load_eq_ok_iff.mpr ⟨hdb, hbound, b', hbody', rfl⟩, fun i called label text => ?_⟩
  have hrun := hruns i (called.getD p.locale) (if p.needsNames then db? else none) text
  unfold LoadedFunction.call
  simp only [bind_eq_ok_iff]
  exact exists_congr fun _ => and_congr Iff.rfl hrun

end Program

end DatePattern
