/-
  Programs in which two variables have become one.

  Where a pattern calls one symbol by two names, its program assigns the same source twice, to a
  variable for each name.  With the own name for both there is one variable.  The variables do not
  see each other, so each of them has the value of its source in the scope in which the call begins,
  and the first source that fails there is what the call fails with.  Both are told by the names
  that the tokens use, in their order, whether or not a name comes again.  So the merged variables
  have the values of the ones that they stand for, the template puts the same texts in, and where
  one program fails the other one fails alike.

  All of this takes that no variable has the name of the instant.  The instant is bound under the
  normal form of its name, and the emitter compares the name as it is written with those of the
  symbols.  So a name can pass that is bound as a symbol, and then the programs part.

  * `Template.evalParts_rename`: a renamed template in a scope in which the new names stand for what
    the old ones stood for.
  * `Language.assign_eq_error_iff`: variables that are apart fail as the first one that fails.
  * `Language.assign_rename`, `Language.run_rename`: assigning variables under other names, and
    calling.
  * `Program.runsLike_of_emit`: the programs for tokens and for the renamed tokens run alike.
  * `SymbolTable.canonical_transparent`: tokens in which each symbol is called by its own name, in
    any table that has been built.
  * `SymbolTable.not_canonical_transparent`: an instant that is bound under the name of a symbol.
-/
import DatePattern.Proofs.CanonicalTokens
import DatePattern.Proofs.Independence
import DatePattern.Proofs.LocaleMemory

namespace DatePattern

open Text

variable {ρ : Text → Text}

/-! ## Templates -/

/-- A segment that puts another name in. -/
def Segment.rename (ρ : Text → Text) : Segment → Segment
  | .literal u => .literal u
  | .substitution name => .substitution (ρ name)

namespace Template

theorem joinLiteral_rename (u : Text) (segments : Template) :
    joinLiteral u (segments.map (Segment.rename ρ)) =
      (joinLiteral u segments).map (Segment.rename ρ) := by
  cases segments with
  | nil => rfl
  | cons s segments => cases s <;> rfl

theorem ofTokens_rename (tokens : List Token) :
    ofTokens (tokens.map (Token.rename ρ)) = (ofTokens tokens).map (Segment.rename ρ) := by
  induction tokens with
  | nil => rfl
  | cons token tokens ih =>
    cases token with
    | literal u => rw [List.map_cons, Token.rename, ofTokens, ofTokens, ih, joinLiteral_rename]
    | symbol name => rw [List.map_cons, Token.rename, ofTokens, ofTokens, ih, List.map_cons,
        Segment.rename]

theorem consChar_rename (c : Char) (segments : Template) :
    consChar c (segments.map (Segment.rename ρ)) =
      (consChar c segments).map (Segment.rename ρ) := by
  cases segments with
  | nil => rfl
  | cons s segments => cases s <;> rfl

theorem merged_rename (segments : Template) :
    merged (segments.map (Segment.rename ρ)) = (merged segments).map (Segment.rename ρ) := by
  induction segments with
  | nil => rfl
  | cons s segments ih =>
    cases s with
    | substitution name => rw [List.map_cons, Segment.rename, merged, merged, ih, List.map_cons,
        Segment.rename]
    | literal u =>
      have hchars : ∀ v : Text, v.foldr consChar (merged (segments.map (Segment.rename ρ))) =
          (v.foldr consChar (merged segments)).map (Segment.rename ρ) := by
        intro v
        induction v with
        | nil => exact ih
        | cons c v ihv => rw [List.foldr_cons, List.foldr_cons, ihv, consChar_rename]
      exact hchars u

/-- A template puts the same texts in under the new names as under the old ones, or fails alike. -/
theorem evalParts_rename {s s' : Scope} {segments : Template}
    (h : ∀ name, .substitution name ∈ segments → s'.find (ρ name) = s.find name) :
    Expr.evalParts s' ((segments.map (Segment.rename ρ)).map partExpr) =
      Expr.evalParts s (segments.map partExpr) := by
  refine Expr.evalParts_eq ?_
  rw [List.map_map, List.map_map, List.map_map]
  refine List.map_congr_left fun u hu => ?_
  cases u with
  | literal t => rfl
  | substitution name => exact h name hu

end Template

/-! ## Assignments -/

/-- The fault of a computation that fails. -/
def fault? {ε α : Type} : Except ε α → Option ε
  | .error fault => some fault
  | .ok _ => none

namespace Language

section

variable {Expression Value Fault : Type} {L : Language Expression Value Fault}
  {s : List (Text × Value)} {bs bs' : List (Text × Expression)} {names : List Text}
  {source? : Text → Option Expression}

/-- Assigning variables that are apart fails as the first source that fails where it begins. -/
theorem assign_eq_error_iff (h : L.Apart s bs) {fault : Fault} :
    L.assign s bs = .error fault ↔
      bs.findSome? (fun b => fault? (L.eval s b.2)) = some fault := by
  induction bs generalizing s with
  | nil => simp [assign]
  | cons b bs ih =>
    rw [List.findSome?_cons, assign]
    cases hb : L.eval s b.2 with
    | error e => simp [fault?, bind, Except.bind]
    | ok v =>
      have hrest : bs.findSome? (fun c => fault? (L.eval ((b.1, v) :: s) c.2)) =
          bs.findSome? (fun c => fault? (L.eval s c.2)) := by
        refine findSome?_congr fun c hc => ?_
        rw [h.eval_cons v (List.mem_cons_of_mem b hc)]
      exact (ih (h.tail v)).trans (by rw [hrest]; rfl)

/-- Variables with the sources of some names, one for each name, where the name first comes. -/
structure Binds (source? : Text → Option Expression) (names : List Text)
    (bs : List (Text × Expression)) : Prop where
  names_eq : bs.map Prod.fst = distinct names
  source : ∀ b ∈ bs, source? b.1 = some b.2

/-- The first of the variables that fails is told by the names, whether or not they come again. -/
theorem Binds.findSome?_eq (h : Binds source? names bs) (eval : Expression → Except Fault Value) :
    bs.findSome? (fun b => fault? (eval b.2)) =
      names.findSome? fun n => (source? n).bind fun e => fault? (eval e) := by
  rw [← findSome?_distinct _ names, ← h.names_eq, List.findSome?_map]
  refine findSome?_congr fun b hb => ?_
  rw [Function.comp_apply, h.source b hb]
  rfl

theorem Binds.exists_mem (h : Binds source? names bs) {n : Text} (hn : n ∈ names) :
    ∃ b ∈ bs, b.1 = n ∧ source? n = some b.2 := by
  rw [← mem_distinct, ← h.names_eq] at hn
  obtain ⟨b, hb, rfl⟩ := List.mem_map.mp hn
  exact ⟨b, hb, rfl, h.source b hb⟩

/-- Under names with the same sources assigning fails alike, or gives each variable the value that
it has under its old name. -/
theorem assign_rename (hbs : Binds source? names bs) (hbs' : Binds source? (names.map ρ) bs')
    (hapart : L.Apart s bs) (hapart' : L.Apart s bs')
    (hρ : ∀ n ∈ names, source? (ρ n) = source? n) :
    (∃ fault, L.assign s bs = .error fault ∧ L.assign s bs' = .error fault) ∨
      ∃ r r', L.assign s bs = .ok r ∧ L.assign s bs' = .ok r' ∧
        ∀ n ∈ names, ∃ v, r.lookup n = some v ∧ r'.lookup (ρ n) = some v := by
  have hfirst : bs'.findSome? (fun b => fault? (L.eval s b.2)) =
      bs.findSome? (fun b => fault? (L.eval s b.2)) := by
    rw [hbs.findSome?_eq, hbs'.findSome?_eq, List.findSome?_map]
    refine findSome?_congr fun n hn => ?_
    rw [Function.comp_apply, hρ n hn]
  have hfault : ∀ fault, L.assign s bs' = .error fault ↔ L.assign s bs = .error fault := by
    intro fault
    rw [assign_eq_error_iff hapart, assign_eq_error_iff hapart', hfirst]
  cases hassign : L.assign s bs with
  | error fault => exact Or.inl ⟨fault, rfl, (hfault fault).mpr hassign⟩
  | ok r =>
    cases hassign' : L.assign s bs' with
    | error fault =>
      rw [(hfault fault).mp hassign'] at hassign
      cases hassign
    | ok r' =>
      refine Or.inr ⟨r, r', rfl, rfl, fun n hn => ?_⟩
      obtain ⟨b, hb, rfl, hsource⟩ := hbs.exists_mem hn
      obtain ⟨b', hb', hname, hsource'⟩ := hbs'.exists_mem (List.mem_map_of_mem hn)
      rw [hρ b.1 hn, hsource] at hsource'
      obtain ⟨v, hv, hlookup⟩ := lookup_assign hapart hassign hb
      obtain ⟨v', hv', hlookup'⟩ := lookup_assign hapart' hassign' hb'
      rw [← Option.some.inj hsource'] at hv'
      cases hv.symm.trans hv'
      exact ⟨v, hlookup, hname ▸ hlookup'⟩

end

/-- Running with the variables under other names, with the same sources, where the template puts the
new names in. -/
theorem run_rename {s : Scope} {names : List Text} {source? : Text → Option Expr}
    {bs bs' : List (Text × Expr)} {segments : Template}
    (hused : ∀ name, .substitution name ∈ segments → name ∈ names)
    (hbs : Binds source? names bs) (hbs' : Binds source? (names.map ρ) bs')
    (hapart : Expr.language.Apart s bs) (hapart' : Expr.language.Apart s bs')
    (hρ : ∀ n ∈ names, source? (ρ n) = source? n) :
    Expr.language.run s
        ⟨bs', .joined ((segments.map (Segment.rename ρ)).map Template.partExpr)⟩ =
      Expr.language.run s ⟨bs, .joined (segments.map Template.partExpr)⟩ := by
  rcases assign_rename hbs hbs' hapart hapart' hρ with
    ⟨fault, hassign, hassign'⟩ | ⟨r, r', hassign, hassign', hlookup⟩
  · rw [run, run, hassign, hassign']
    rfl
  · have hparts := Template.evalParts_rename fun name hname => by
      obtain ⟨v, hv, hv'⟩ := hlookup name (hused name hname)
      exact (Scope.find_of_lookup hv').trans (Scope.find_of_lookup hv).symm
    rw [run, run, hassign, hassign']
    show ((Expr.evalParts r' _ >>= fun t => pure (Value.text t)) >>= fun w => w.shown) =
      ((Expr.evalParts r _ >>= fun t => pure (Value.text t)) >>= fun w => w.shown)
    rw [hparts]

end Language

/-! ## Programs -/

/-- The source of a symbol as an expression, by one of its names. -/
def SymbolTable.expr? (t : SymbolTable) (parameter n : Text) : Option Expr :=
  (t.lookup? n).bind fun d => (d.renderSource parameter).toOption.bind Expr.read?

theorem SymbolTable.IsSynonym.expr?_eq {t : SymbolTable} {m n : Text} (h : t.IsSynonym m n)
    (parameter : Text) : t.expr? parameter n = t.expr? parameter m := by
  rw [expr?, expr?, h.lookup?_eq]

namespace Program

/-- With a database or without, the programs cannot be loaded, for the same reason; or they can, and
their functions return the same text, or fail with the same fault, however they are called. -/
def RunsLike (p p' : Program) : Prop :=
  ∀ db?, (∃ fault, p.load db? = .error fault ∧ p'.load db? = .error fault) ∨
    ∃ f f', p.load db? = .ok f ∧ p'.load db? = .ok f' ∧
      ∀ i called label, f'.call i called label = f.call i called label

theorem RunsLike.outcome?_eq {p p' : Program} (h : p.RunsLike p') (db? : Option LocaleDatabase)
    (i : Instant) : p'.outcome? db? i = p.outcome? db? i := by
  rcases h db? with ⟨fault, hload, hload'⟩ | ⟨f, f', hload, hload', hcall⟩
  · rw [outcome?, outcome?, hload, hload']
  · rw [outcome?, outcome?, hload, hload']
    exact congrArg some (hcall (some i) none none)

variable {t : SymbolTable} {locale functionName parameter : Text} {tokens : List Token}
  {p p' : Program} {bs : List (Text × Expr)}

/-- A declaration of an emitted program holds the source that its name leads to. -/
theorem expr?_of_emit (h : emit t locale functionName parameter tokens = .ok p) {v : Declaration}
    (hv : v ∈ p.declarations) : t.expr? parameter v.name = Expr.read? v.source := by
  obtain ⟨d, hd, rfl⟩ := covers_of_emit h
  obtain ⟨ss, hall, -⟩ := hd.entries
  obtain ⟨s, -, hget, hrender⟩ := exists_of_forall₂ hall hv
  rw [SymbolTable.expr?, SymbolTable.lookup?_of_get hget, Option.bind_some, hrender]
  rfl

theorem binds_of_emit (h : emit t locale functionName parameter tokens = .ok p)
    (hreads : List.Forall₂ Expr.language.Reads p.declarations bs) :
    Language.Binds (t.expr? parameter) (Token.symbolNames tokens) bs where
  names_eq := by rw [Language.map_fst_of_reads hreads, names_of_emit h]
  source := by
    intro b hb
    obtain ⟨v, hv, hname, hread⟩ := exists_of_forall₂ hreads.flip hb
    rw [hname, expr?_of_emit h hv]
    exact hread

/-- What an emitted program does, if the sources of the table depend on known names only. -/
theorem exists_body?_joined {name : Text} (hvalid : ∀ n ∈ t.names, nameProblem? n = none)
    (hdepends : t.DependsOnKnownNames Expr.language parameter name)
    (h : emit t locale functionName parameter tokens = .ok p) :
    ∃ bs, p.body? Expr.language =
        some ⟨bs, .joined ((Template.ofTokens tokens).merged.map Template.partExpr)⟩ ∧
      Language.Binds (t.expr? parameter) (Token.symbolNames tokens) bs := by
  have hsources : ∀ v ∈ p.declarations, ∃ e, Expr.language.read? v.source = some e := by
    intro v hv
    obtain ⟨d, hd, -, hrender⟩ := exists_symbol_of_emit h hv
    obtain ⟨e, hread, -⟩ := hdepends d hd _ hrender
    exact ⟨e, hread⟩
  have hvariable : ∀ name, .substitution name ∈ Template.ofTokens tokens →
      Lexeme.IsVariable name := by
    intro name hname
    rw [Template.substitution_mem_ofTokens, ← Token.mem_symbolNames] at hname
    obtain ⟨s, source, hlookup, -⟩ := exists_source_of_emit h hname
    exact isVariable_of_nameProblem? (hvalid _ (SymbolTable.mem_names_of_lookup? hlookup))
  have htemplate : p.template = (Template.ofTokens tokens).render := by
    obtain ⟨d, -, rfl⟩ := covers_of_emit h
    rfl
  obtain ⟨⟨bs, result⟩, hbody, rfl⟩ := exists_body? hsources
    (htemplate ▸ Template.read?_quoted hvariable)
  exact ⟨bs, hbody, binds_of_emit h (body?_eq_some_iff.mp hbody).1⟩

/-- Whether names can be bound depends on the names and on the line of the head alone. -/
theorem checkBound_congr (hfunction : p'.functionName = p.functionName)
    (hparameter : p'.parameter = p.parameter) (himports : p'.imports = p.imports) :
    p'.checkBound = p.checkBound := by
  have hline : p'.headLineNumber = p.headLineNumber := by
    rw [headLineNumber, headLineNumber, importLines, importLines, himports]
  rw [checkBound, checkBound, boundParameter, boundParameter, hfunction, hparameter, hline]

/-- Programs that can be read, and that need and bind the same, are loaded alike. -/
theorem load_alike {b b' : Body Expr} (hbody : p.body? Expr.language = some b)
    (hbody' : p'.body? Expr.language = some b') (hneeds : p'.needsNames = p.needsNames)
    (hbound : p'.checkBound = p.checkBound) (db? : Option LocaleDatabase) :
    (∃ fault, p.load db? = .error fault ∧ p'.load db? = .error fault) ∨
      p.load db? = .ok (p.function db? b) ∧ p'.load db? = .ok (p'.function db? b') := by
  unfold load
  rw [hneeds, hbound, hbody, hbody']
  by_cases hdb : (p.needsNames && db?.isNone) = true
  · rw [if_pos hdb, if_pos hdb]
    exact Or.inl ⟨.noNames, rfl, rfl⟩
  rw [if_neg hdb, if_neg hdb]
  cases p.checkBound with
  | error fault => exact Or.inl ⟨.program fault, rfl, rfl⟩
  | ok u => exact Or.inr ⟨rfl, rfl⟩

/-- The programs for tokens and for the renamed tokens run alike, if the new names have the
definitions of the old ones, the sources of the table depend on known names only, and no name is the
one that the instant is bound under. -/
theorem runsLike_of_emit {ρ : Text → Text} (hvalid : ∀ n ∈ t.names, nameProblem? n = none)
    (hdepends : t.DependsOnKnownNames Expr.language parameter (normalized parameter))
    (hname : normalized parameter ∉ Token.symbolNames tokens)
    (hname' : normalized parameter ∉ Token.symbolNames (tokens.map (Token.rename ρ)))
    (hρ : ∀ n ∈ Token.symbolNames tokens, t.IsSynonym n (ρ n))
    (h : emit t locale functionName parameter tokens = .ok p)
    (h' : emit t locale functionName parameter (tokens.map (Token.rename ρ)) = .ok p') :
    p.RunsLike p' := by
  have hnames := Token.symbolNames_rename ρ tokens
  have hsource : ∀ n ∈ Token.symbolNames tokens,
      t.expr? parameter (ρ n) = t.expr? parameter n := fun n hn => (hρ n hn).expr?_eq parameter
  have himports : p'.imports = p.imports := by
    obtain ⟨q, hq, himports, -⟩ := emit_rename h hρ
    cases h'.symm.trans hq
    exact himports
  obtain ⟨hparameter, hfunction, hsame, hlocale⟩ : p.parameter = parameter ∧
      p'.functionName = p.functionName ∧ p'.parameter = p.parameter ∧ p'.locale = p.locale := by
    obtain ⟨d, -, rfl⟩ := covers_of_emit h
    obtain ⟨d', -, rfl⟩ := covers_of_emit h'
    exact ⟨rfl, rfl, rfl, rfl⟩
  have hneeds : p'.needsNames = p.needsNames := by rw [needsNames, needsNames, himports]
  have hused : ∀ name, .substitution name ∈ (Template.ofTokens tokens).merged →
      name ∈ Token.symbolNames tokens := by
    intro name hname
    rw [Template.substitution_mem_merged, Template.substitution_mem_ofTokens] at hname
    exact Token.mem_symbolNames.mpr hname
  obtain ⟨bs, hbody, hbinds⟩ := exists_body?_joined hvalid hdepends h
  obtain ⟨bs', hbody', hbinds'⟩ := exists_body?_joined hvalid hdepends h'
  rw [Template.ofTokens_rename, Template.merged_rename] at hbody'
  rw [hnames] at hbinds'
  rw [← mem_distinct, ← names_of_emit h] at hname
  rw [← mem_distinct, ← names_of_emit h'] at hname'
  intro db?
  rcases load_alike hbody hbody' hneeds (checkBound_congr hfunction hsame himports) db? with
    hfault | ⟨hload, hload'⟩
  · exact Or.inl hfault
  refine Or.inr ⟨_, _, hload, hload', fun i called label => ?_⟩
  have hruns := Language.run_rename hused hbinds hbinds'
    (apart_of_emit hvalid h hdepends hname hbody i (called.getD p.locale)
      (if p.needsNames then db? else none))
    (apart_of_emit hvalid h' hdepends hname' hbody' i (called.getD p.locale)
      (if p.needsNames then db? else none)) hsource
  have hbound : p.boundParameter = normalized parameter := by rw [boundParameter, hparameter]
  rw [function, function, boundParameter, hfunction, hsame, hlocale, hneeds, ← boundParameter,
    hbound]
  exact bind_congr fun _ => hruns

/-- The sign of feminine ordinals, which is bound as the letter `a`, can name the instant. -/
theorem checkNames_ordinalSign : checkNames (.builtin false) defaultFunctionName ['ª'] = .ok () :=
  checkNames_eq_ok_iff.mpr ⟨(checkNames_eq_ok_iff.mp checkNames_default).1,
    isParameterName_singleton (by decide +kernel), by decide +kernel⟩

end Program

namespace SymbolTable

/-- In any table that has been built, tokens of its names can be written with the own name of every
symbol.  They then have the same text and the same faults at every instant in every context.  If no
symbol lacks a source, there are programs for both, with the same import lines and no more
declarations.  With a built-in table these run alike, unless the normal form under which the instant
is bound is the name of a symbol that they use. -/
theorem canonical_transparent {isExpression : Text → Bool} {ds : List SymbolDefinition}
    {pairs : List (Text × Text)} {t : SymbolTable}
    (hbuild : buildWith isExpression ds pairs = .ok t)
    {tokens : List Token} (hnames : ∀ n ∈ Token.symbolNames tokens, n ∈ t.names) :
    ∃ tokens', tokens.mapM (Token.canonical t) = .ok tokens' ∧
      (∀ i x, ∃ output, Token.formatAll t i x tokens = .ok output ∧
        Token.formatAll t i x tokens' = .ok output) ∧
      ∀ locale functionName parameter, Program.checkNames t functionName parameter = .ok () →
        (∀ n ∈ Token.symbolNames tokens, ¬t.LacksSource n) →
        ∃ p p', Program.emit t locale functionName parameter tokens = .ok p ∧
          Program.emit t locale functionName parameter tokens' = .ok p' ∧
          p'.imports = p.imports ∧ p'.declarations.length ≤ p.declarations.length ∧
          ∀ withCase, t = builtin withCase → normalized parameter ∉ Token.symbolNames tokens →
            normalized parameter ∉ Token.symbolNames tokens' → p.RunsLike p' := by
  have hresolved := isResolved_of_buildWith hbuild
  have hsynonym : ∀ n ∈ Token.symbolNames tokens, t.IsSynonym n (t.ownName n) :=
    fun n hn => (hresolved.isSynonym_ownName (hnames n hn)).2
  refine ⟨_, Token.mapM_canonical hresolved hnames, fun i x => ?formatted,
    fun locale functionName parameter hcheck hsources => ?emitted⟩
  case formatted =>
    obtain ⟨output, houtput⟩ := Token.exists_formatAll (fun n hn => by
      obtain ⟨d, hget, -⟩ := (hsynonym n hn).get
      exact ⟨d, hget⟩) i x
    exact ⟨output, houtput, (Token.formatAll_rename hsynonym i x).trans houtput⟩
  case emitted =>
    obtain ⟨p, hemit⟩ := (Program.exists_emit_iff locale hcheck fun n hn hsource =>
      exists_source_of_buildWith hbuild parameter (hnames n (Token.mem_symbolNames.mpr hn))
        hsource).mpr fun n hn => hsources n (Token.mem_symbolNames.mpr hn)
    obtain ⟨p', hemit', himports, hlength⟩ := Program.emit_rename hemit hsynonym
    refine ⟨p, p', hemit, hemit', himports, hlength, fun withCase htable hname hname' => ?_⟩
    obtain ⟨-, hparameter⟩ := Program.isBindableName_of_check hcheck
    have hdepends : t.DependsOnKnownNames Expr.language parameter (normalized parameter) := by
      rw [htable]
      exact dependsOnKnownNames_builtin withCase (isWordFor_of_isBindableName hparameter)
    exact Program.runsLike_of_emit (nameProblem?_of_buildWith hbuild) hdepends hname hname'
      hsynonym hemit hemit'

/-- The weekday by two of its names, beside the day. -/
theorem canonical_transparent_weekday :
    (∀ i x, ∃ output,
      Token.formatAll (builtin false) i x
        [.symbol ['E', 'E'], .symbol ['E'], .literal [' '], .symbol ['d']] = .ok output ∧
      Token.formatAll (builtin false) i x
        [.symbol ['E'], .symbol ['E'], .literal [' '], .symbol ['d']] = .ok output) ∧
    ∃ p p', Program.emit (builtin false) LocaleCode.fallback defaultFunctionName defaultParameter
        [.symbol ['E', 'E'], .symbol ['E'], .literal [' '], .symbol ['d']] = .ok p ∧
      Program.emit (builtin false) LocaleCode.fallback defaultFunctionName defaultParameter
        [.symbol ['E'], .symbol ['E'], .literal [' '], .symbol ['d']] = .ok p' ∧
      p'.imports = p.imports ∧ p.declarations.length = 3 ∧ p'.declarations.length = 2 ∧
      p.RunsLike p' := by
  have hname : normalized defaultParameter = defaultParameter :=
    normalized_of_small (List.all_iff_forall_prop.mp (by decide))
  have hnames : ∀ n ∈ Token.symbolNames
      [.symbol ['E', 'E'], .symbol ['E'], .literal [' '], .symbol ['d']],
      n ∈ (builtin false).names := by decide +kernel
  have hown : [.symbol ['E', 'E'], .symbol ['E'], .literal [' '], .symbol ['d']].mapM
      (Token.canonical (builtin false)) =
        .ok [.symbol ['E'], .symbol ['E'], .literal [' '], .symbol ['d']] := rfl
  obtain ⟨tokens', htokens, hformatted, hemitted⟩ :=
    canonical_transparent (build_builtin false) hnames
  cases hown.symm.trans htokens
  obtain ⟨p, p', hemit, hemit', himports, -, hruns⟩ := hemitted LocaleCode.fallback
    defaultFunctionName defaultParameter Program.checkNames_default
    fun n _ => not_lacksSource_builtin false n
  have hlength := congrArg List.length (Program.names_of_emit hemit)
  have hlength' := congrArg List.length (Program.names_of_emit hemit')
  rw [List.length_map] at hlength hlength'
  have halike := hruns false rfl (by rw [hname]; decide) (by rw [hname]; decide)
  exact ⟨hformatted, p, p', hemit, hemit', himports, hlength, hlength', halike⟩

/-- The weekday by two of its names around the half of the day, where the instant is bound under the
name of the latter: the second name of the weekday asks what has been put in its place, and the own
name does not ask again. -/
theorem not_canonical_transparent :
    [.symbol ['E', 'E'], .symbol ['a'], .symbol ['E']].mapM (Token.canonical (builtin false)) =
        .ok [.symbol ['E'], .symbol ['a'], .symbol ['E']] ∧
      ∃ p p', Program.emit (builtin false) LocaleCode.fallback defaultFunctionName ['ª']
          [.symbol ['E', 'E'], .symbol ['a'], .symbol ['E']] = .ok p ∧
        Program.emit (builtin false) LocaleCode.fallback defaultFunctionName ['ª']
          [.symbol ['E'], .symbol ['a'], .symbol ['E']] = .ok p' ∧ ¬p.RunsLike p' := by
  refine ⟨rfl, ?_⟩
  obtain ⟨i, hi⟩ : ∃ i, i = Instant.ofDate ⟨2015, 10, 21, by decide, by decide, by decide⟩ :=
    ⟨_, rfl⟩
  obtain ⟨p, hemit, hfails⟩ : ∃ p, Program.emit (builtin false) LocaleCode.fallback
      defaultFunctionName ['ª'] [.symbol ['E', 'E'], .symbol ['a'], .symbol ['E']] = .ok p ∧
      p.outcome? (some .englishOnly) i =
        some (.error (.noAttribute "str".toList "weekday".toList)) :=
    Program.exists_emit_of_addAll Program.checkNames_ordinalSign (by rw [hi]; decide +kernel)
  obtain ⟨p', hemit', hreturns⟩ : ∃ p', Program.emit (builtin false) LocaleCode.fallback
      defaultFunctionName ['ª'] [.symbol ['E'], .symbol ['a'], .symbol ['E']] = .ok p' ∧
      p'.outcome? (some .englishOnly) i = some (.ok "WedAMWed".toList) :=
    Program.exists_emit_of_addAll Program.checkNames_ordinalSign (by rw [hi]; decide +kernel)
  refine ⟨p, p', hemit, hemit', fun h => ?_⟩
  rw [h.outcome?_eq, hfails] at hreturns
  cases hreturns

end SymbolTable

end DatePattern
