/-
  What emitting a program declares and imports.

  A draft `Describes` what it holds: no name is declared twice, each declaration is the source of
  its symbol, and the import lines of the symbols declared are there.  Each token keeps this and
  adds what it needs, so it holds of the draft behind all tokens.

  * `Program.emit_eq_ok_iff`: when there is a program, and which one.
  * `addAll_of_sources`: where every symbol has a source, all of them get declared.
  * `emit_of_sources`: and then there is a program.
-/
import DatePattern.Program.Emit
import DatePattern.Proofs.Success

namespace DatePattern

open Text

namespace SymbolTable

/-- A name under which a symbol is found is a name of the table. -/
theorem mem_names_of_lookup? {t : SymbolTable} {name : Text} {d : SymbolDefinition}
    (h : t.lookup? name = some d) : name ∈ t.names := by
  unfold lookup? at h
  cases hd : t.definition? name with
  | some e =>
    have hname := name_of_definition? hd
    refine List.mem_append_left _ (List.mem_map.mpr ⟨e, List.mem_of_find?_eq_some hd, hname⟩)
  | none =>
    rw [hd] at h
    obtain ⟨target, ha, -⟩ := Option.bind_eq_some_iff.mp h
    have hmem : (name, target) ∈ t.aliases := by
      obtain ⟨l, r, heq, -⟩ := List.lookup_eq_some_iff.mp ha
      rw [heq]
      exact List.mem_append_right _ List.mem_cons_self
    exact List.mem_append_right _ (List.mem_map.mpr ⟨_, hmem, rfl⟩)

theorem mem_definitions_of_lookup? {t : SymbolTable} {name : Text} {d : SymbolDefinition}
    (h : t.lookup? name = some d) : d ∈ t.definitions := by
  unfold lookup? at h
  cases hd : t.definition? name with
  | some e =>
    rw [hd] at h
    cases h
    exact List.mem_of_find?_eq_some hd
  | none =>
    rw [hd] at h
    obtain ⟨target, -, h⟩ := Option.bind_eq_some_iff.mp h
    exact List.mem_of_find?_eq_some h

end SymbolTable

namespace Draft

variable {t : SymbolTable} {p : Text}

/-- The draft holds what some symbols of the table need, and each of them once. -/
structure Describes (t : SymbolTable) (p : Text) (d : Draft) : Prop where
  nodup : (d.declarations.map (·.name)).Nodup
  source : ∀ v ∈ d.declarations, ∃ s, t.lookup? v.name = some s ∧
    s.renderSource p = .ok v.source ∧ ∀ line ∈ s.imports, line ∈ d.imports

theorem describes_empty : Describes t p {} where
  nodup := List.nodup_nil
  source v hv := by cases hv

theorem declares_iff {d : Draft} {name : Text} :
    d.declares name = true ↔ ∃ v ∈ d.declarations, v.name = name := by
  simp [declares]

theorem mem_addImports {imports lines : List Text} {line : Text} (h : line ∈ lines) :
    line ∈ addImports imports lines := by
  induction lines generalizing imports with
  | nil => cases h
  | cons l lines ih =>
    rcases List.mem_cons.mp h with rfl | h
    · refine (imports_addImports _ lines).subset ?_
      by_cases hm : line ∈ imports
      · rwa [if_pos hm]
      · rw [if_neg hm]
        exact List.mem_append_right _ (List.mem_singleton_self line)
    · exact ih h

/-- Declaring a symbol that has a source. -/
theorem declare_of_source {d : Draft} (hd : d.Describes t p) {name source : Text}
    {s : SymbolDefinition} (hs : t.lookup? name = some s) (hr : s.renderSource p = .ok source) :
    ∃ d', d.declare t p name = .ok d' ∧ d'.Describes t p ∧
      ∀ n, d'.declares n = true ↔ d.declares n = true ∨ n = name := by
  unfold declare
  by_cases hdeclared : d.declares name = true
  · rw [if_pos hdeclared]
    refine ⟨d, rfl, hd, fun n => ⟨Or.inl, ?_⟩⟩
    rintro (hn | rfl)
    · exact hn
    · exact hdeclared
  rw [if_neg hdeclared]
  have hemittable : s.isEmittable = true := by
    unfold SymbolDefinition.renderSource at hr
    unfold SymbolDefinition.isEmittable
    cases hsource : s.source with
    | none =>
      rw [hsource] at hr
      cases hr
    | some u => rfl
  have hdeclaration : declaration t p name = .ok (⟨name, source⟩, s.imports) := by
    simp only [declaration, SymbolTable.get, hs, hr, Except.mapError, bind, Except.bind,
      if_pos hemittable, pure, Except.pure]
  refine ⟨⟨d.declarations ++ [⟨name, source⟩], addImports d.imports s.imports⟩, ?_, ⟨?_, ?_⟩, ?_⟩
  · rw [hdeclaration]
    rfl
  · rw [List.map_append]
    refine List.nodup_append.mpr ⟨hd.nodup, by simp, ?_⟩
    intro n hn m hm heq
    obtain ⟨v, hv, rfl⟩ := List.mem_map.mp hn
    have hname : v.name = name := heq.trans (List.mem_singleton.mp hm)
    exact hdeclared (declares_iff.mpr ⟨v, hv, hname⟩)
  · intro v hv
    rcases List.mem_append.mp hv with hv | hv
    · obtain ⟨s', hs', hr', himports⟩ := hd.source v hv
      exact ⟨s', hs', hr', fun line hl => (imports_addImports _ _).subset (himports line hl)⟩
    · rw [List.mem_singleton.mp hv]
      exact ⟨s, hs, hr, fun line hl => mem_addImports hl⟩
  · intro n
    rw [declares_iff, declares_iff]
    simp only [List.mem_append, List.mem_singleton, or_and_right, exists_or, exists_eq_left]
    exact or_congr_right ⟨fun h => h.symm, fun h => h.symm⟩

/-- Where every symbol has a source, all of them are declared and nothing else is. -/
theorem addAll_of_sources {tokens : List Token}
    (hs : ∀ name, .symbol name ∈ tokens →
      ∃ s source, t.lookup? name = some s ∧ s.renderSource p = .ok source)
    {d : Draft} (hd : d.Describes t p) :
    ∃ d', d.addAll t p tokens = .ok d' ∧ d'.Describes t p ∧
      ∀ n, d'.declares n = true ↔ d.declares n = true ∨ .symbol n ∈ tokens := by
  induction tokens generalizing d with
  | nil => exact ⟨d, rfl, hd, by simp⟩
  | cons token tokens ih =>
    have hrest : ∀ name, .symbol name ∈ tokens →
        ∃ s source, t.lookup? name = some s ∧ s.renderSource p = .ok source :=
      fun name hname => hs name (List.mem_cons_of_mem token hname)
    cases token with
    | literal u =>
      obtain ⟨d', hadd, hdescribes, hdeclares⟩ := ih hrest hd
      refine ⟨d', hadd, hdescribes, fun n => (hdeclares n).trans ?_⟩
      simp
    | symbol name =>
      obtain ⟨s, source, hlookup, hrender⟩ := hs name List.mem_cons_self
      obtain ⟨d₁, hdeclare, hd₁, hdeclares₁⟩ := declare_of_source hd hlookup hrender
      obtain ⟨d', hadd, hdescribes, hdeclares⟩ := ih hrest hd₁
      refine ⟨d', bind_eq_ok_iff.mpr ⟨d₁, hdeclare, hadd⟩, hdescribes, fun n => ?_⟩
      rw [hdeclares, hdeclares₁, or_assoc, List.mem_cons, Token.symbol.injEq]

theorem addAll_append (t : SymbolTable) (p : Text) (d : Draft) (before behind : List Token) :
    d.addAll t p (before ++ behind) =
      d.addAll t p before >>= fun d => d.addAll t p behind := by
  induction before generalizing d with
  | nil => rfl
  | cons token before ih =>
    rw [List.cons_append, addAll, addAll]
    cases d.add t p token with
    | error fault => rfl
    | ok d' => exact ih d'

end Draft

/-- The names that the emitter has accepted. -/
theorem Program.checkNames_eq_ok_iff {t : SymbolTable} {functionName parameter : Text} :
    checkNames t functionName parameter = .ok () ↔
      isFunctionName functionName = true ∧ isParameterName parameter = true ∧
        parameter ∉ t.names := by
  have hcontains : t.contains parameter = true ↔ parameter ∈ t.names := List.contains_iff_mem
  rw [← hcontains]
  unfold checkNames
  cases isFunctionName functionName <;> cases isParameterName parameter <;>
    cases t.contains parameter <;> simp

theorem Program.isBindableName_of_check {t : SymbolTable} {functionName parameter : Text}
    (h : checkNames t functionName parameter = .ok ()) :
    isBindableName functionName = true ∧ isBindableName parameter = true := by
  obtain ⟨hfunction, hparameter, -⟩ := checkNames_eq_ok_iff.mp h
  rw [isFunctionName, Bool.and_eq_true] at hfunction
  rw [isParameterName, Bool.and_eq_true] at hparameter
  exact ⟨hfunction.1, hparameter.1⟩

theorem Program.emit_eq_ok_iff {t : SymbolTable} {locale functionName parameter : Text}
    {tokens : List Token} {p : Program} :
    emit t locale functionName parameter tokens = .ok p ↔
      checkNames t functionName parameter = .ok () ∧
      ∃ d, Draft.addAll t parameter {} tokens = .ok d ∧
        p = ⟨d.declarations, .ofTokens tokens, d.imports, locale, functionName, parameter⟩ := by
  unfold emit
  constructor
  · intro h
    obtain ⟨_, hnames, h⟩ := bind_eq_ok_iff.mp h
    obtain ⟨d, hadd, h⟩ := bind_eq_ok_iff.mp h
    cases h
    exact ⟨hnames, d, hadd, rfl⟩
  · rintro ⟨hnames, d, hadd, rfl⟩
    exact bind_eq_ok_iff.mpr ⟨(), hnames, bind_eq_ok_iff.mpr ⟨d, hadd, rfl⟩⟩

/-- There is a program with some property if the draft behind the tokens, as a program, has it. -/
theorem Program.exists_emit_of_addAll {t : SymbolTable} {locale functionName parameter : Text}
    {tokens : List Token} {P : Program → Prop} [DecidablePred P]
    (hnames : checkNames t functionName parameter = .ok ())
    (hadd : (Draft.addAll t parameter {} tokens).toOption.map (fun d =>
      decide (P ⟨d.declarations, .ofTokens tokens, d.imports, locale, functionName, parameter⟩)) =
        some true) : ∃ p, emit t locale functionName parameter tokens = .ok p ∧ P p := by
  obtain ⟨d, hd, hP⟩ := Option.map_eq_some_iff.mp hadd
  have hok : Draft.addAll t parameter {} tokens = .ok d := by
    cases hresult : Draft.addAll t parameter {} tokens with
    | error fault => simp [hresult, Except.toOption] at hd
    | ok d' => simpa [hresult, Except.toOption] using hd
  exact ⟨_, emit_eq_ok_iff.mpr ⟨hnames, d, hok, rfl⟩, of_decide_eq_true hP⟩

/-- Where the names can be used and every symbol has a source, there is a program. -/
theorem Program.emit_of_sources {t : SymbolTable} (locale : Text) {functionName p : Text}
    {tokens : List Token} (hnames : checkNames t functionName p = .ok ())
    (hs : ∀ name, .symbol name ∈ tokens →
      ∃ s source, t.lookup? name = some s ∧ s.renderSource p = .ok source) :
    ∃ d : Draft, emit t locale functionName p tokens =
        .ok ⟨d.declarations, .ofTokens tokens, d.imports, locale, functionName, p⟩ ∧
      d.Describes t p ∧ ∀ n, d.declares n = true ↔ .symbol n ∈ tokens := by
  obtain ⟨d, hadd, hdescribes, hdeclares⟩ := Draft.addAll_of_sources hs Draft.describes_empty
  refine ⟨d, ?_, hdescribes, fun n => (hdeclares n).trans ?_⟩
  · exact emit_eq_ok_iff.mpr ⟨hnames, d, hadd, rfl⟩
  · simp [Draft.declares]

end DatePattern
