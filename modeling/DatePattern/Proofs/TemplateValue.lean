/-
  What the template of a program returns.

  The template puts the texts that its variables show in between its literals (`Template.fill`).
  Reading it merges literals that meet, which does not change this text, and formatting the tokens
  it comes from returns the same text for the values of the symbols.

  * `Template.exists_expr`: a template is the text of an expression that returns this text.
  * `Token.formatAll_ok`: so does formatting without a fault.
-/
import DatePattern.Formatting
import DatePattern.Program.Emit
import DatePattern.Program.Run
import DatePattern.Proofs.ExpressionValue
import DatePattern.Proofs.SourceReading
import DatePattern.Proofs.Success

namespace DatePattern

open Text

/-- A name is bound to something that shows as a text. -/
def Scope.Shows (s : Scope) (name text : Text) : Prop :=
  ∃ w, s.find name = .ok w ∧ w.shown = .ok text

/-! ## Texts put into a template -/

namespace Template

/-- The text of a template with texts put in for the names. -/
def fill (shown : Text → Text) (segments : Template) : Text :=
  segments.flatMap fun
    | .literal t => t
    | .substitution name => shown name

/-- A segment as an expression. -/
def partExpr : Segment → Expr
  | .literal t => .text t
  | .substitution name => .name name

theorem fill_literal (shown : Text → Text) (t : Text) (segments : Template) :
    fill shown (.literal t :: segments) = t ++ fill shown segments :=
  List.flatMap_cons

theorem fill_substitution (shown : Text → Text) (name : Text) (segments : Template) :
    fill shown (.substitution name :: segments) = shown name ++ fill shown segments :=
  List.flatMap_cons

theorem fill_consChar (shown : Text → Text) (c : Char) (segments : Template) :
    fill shown (consChar c segments) = c :: fill shown segments := by
  cases segments with
  | nil => rfl
  | cons s segments => cases s <;> rfl

theorem fill_merged (shown : Text → Text) (segments : Template) :
    fill shown (merged segments) = fill shown segments := by
  induction segments with
  | nil => rfl
  | cons s segments ih =>
    cases s with
    | substitution name => rw [merged, fill_substitution, fill_substitution, ih]
    | literal t =>
      rw [merged, fill_literal]
      have hchars : ∀ u : Text, fill shown (u.foldr consChar (merged segments)) =
          u ++ fill shown segments := by
        intro u
        induction u with
        | nil => exact ih
        | cons c u ihu => rw [List.foldr_cons, fill_consChar, ihu, List.cons_append]
      exact hchars t

theorem fill_joinLiteral (shown : Text → Text) (t : Text) (segments : Template) :
    fill shown (joinLiteral t segments) = t ++ fill shown segments := by
  cases segments with
  | nil => simp [joinLiteral, fill]
  | cons s segments => cases s <;> simp [joinLiteral, fill]

theorem substitution_mem_consChar {c : Char} {segments : Template} {name : Text} :
    .substitution name ∈ consChar c segments ↔ .substitution name ∈ segments := by
  cases segments with
  | nil => simp [consChar]
  | cons s segments => cases s <;> simp [consChar]

theorem substitution_mem_merged {segments : Template} {name : Text} :
    .substitution name ∈ merged segments ↔ .substitution name ∈ segments := by
  induction segments with
  | nil => rfl
  | cons s segments ih =>
    cases s with
    | substitution n => rw [merged, List.mem_cons, List.mem_cons, ih]
    | literal t =>
      have hchars : ∀ u : Text, .substitution name ∈ u.foldr consChar (merged segments) ↔
          .substitution name ∈ segments := by
        intro u
        induction u with
        | nil => exact ih
        | cons c u ihu => rw [List.foldr_cons, substitution_mem_consChar, ihu]
      rw [merged, hchars t]
      simp

theorem substitution_mem_ofTokens {tokens : List Token} {name : Text} :
    .substitution name ∈ ofTokens tokens ↔ .symbol name ∈ tokens := by
  have hnames : ∀ segments : Template, .substitution name ∈ segments ↔ name ∈ names segments := by
    intro segments
    simp only [names, List.mem_filterMap]
    constructor
    · intro h
      exact ⟨_, h, rfl⟩
    · rintro ⟨s, hs, heq⟩
      cases s with
      | literal t => cases heq
      | substitution n =>
        cases heq
        exact hs
  rw [hnames, names_ofTokens, Token.mem_symbolNames]

theorem mapM_part? {segments : Template}
    (h : ∀ name, .substitution name ∈ segments → Lexeme.IsVariable name) :
    segments.mapM Expr.part? = some (segments.map partExpr) := by
  induction segments with
  | nil => rfl
  | cons s segments ih =>
    have hrest := ih fun name hname => h name (List.mem_cons_of_mem s hname)
    have hs : Expr.part? s = some (partExpr s) := by
      cases s with
      | literal t => rfl
      | substitution name => exact Expr.field?_variable (h name List.mem_cons_self)
    rw [List.mapM_cons, hs, hrest]
    rfl

theorem evalParts_fill {s : Scope} {shown : Text → Text} {segments : Template}
    (h : ∀ name, .substitution name ∈ segments → s.Shows name (shown name)) :
    Expr.evalParts s (segments.map partExpr) = .ok (fill shown segments) := by
  induction segments with
  | nil => rfl
  | cons u segments ih =>
    have hrest := ih fun name hname => h name (List.mem_cons_of_mem u hname)
    rw [List.map_cons]
    cases u with
    | literal t => exact Expr.evalParts_cons rfl (Value.shown_text t) hrest
    | substitution name =>
      obtain ⟨w, hfind, hw⟩ := h name List.mem_cons_self
      exact Expr.evalParts_cons hfind hw hrest

/-- A template is the text of an expression. -/
theorem read?_quoted {segments : Template}
    (hnames : ∀ name, .substitution name ∈ segments → Lexeme.IsVariable name) :
    Expr.read? ("f\"".toList ++ render segments ++ "\"".toList) =
      some (.joined ((merged segments).map partExpr)) := by
  have hfields : ∀ name, .substitution name ∈ segments → IsField name :=
    fun name h => isField_of_isWordChar (hnames name h).word
  exact Expr.read?_joined hfields
    (mapM_part? fun name h => hnames name (substitution_mem_merged.mp h))

/-- This expression returns the text of the template. -/
theorem exists_expr {segments : Template}
    (hnames : ∀ name, .substitution name ∈ segments → Lexeme.IsVariable name) :
    ∃ e, Expr.read? ("f\"".toList ++ render segments ++ "\"".toList) = some e ∧
      ∀ {s : Scope} {shown : Text → Text},
        (∀ name, .substitution name ∈ segments → s.Shows name (shown name)) →
        e.eval s = .ok (.text (fill shown segments)) := by
  refine ⟨_, read?_quoted hnames, fun {s shown} hshown => ?_⟩
  have hvalue := evalParts_fill fun name h => hshown name (substitution_mem_merged.mp h)
  rw [Expr.eval_joined hvalue, fill_merged]

end Template

/-! ## Formatting -/

/-- The text that a table's symbol of some name shows as. -/
def SymbolTable.shown (t : SymbolTable) (i : Instant) (x : LocaleContext) (name : Text) : Text :=
  match t.lookup? name with
  | some d => (Formatted.ofValue (d.evaluate i x)).text
  | none => []

theorem Formatted.append_eq_ofText {a b : Formatted} {text : Text}
    (h : a.append b = ⟨text, []⟩) : a.faults = [] ∧ b.faults = [] ∧ text = a.text ++ b.text := by
  obtain ⟨htext, hfaults⟩ := Formatted.mk.injEq .. ▸ h
  obtain ⟨ha, hb⟩ := List.append_eq_nil_iff.mp hfaults
  exact ⟨ha, hb, htext.symm⟩

theorem SymbolTable.lookup?_of_get {t : SymbolTable} {n : Text} {d : SymbolDefinition}
    (h : t.get n = .ok d) : t.lookup? n = some d := by
  unfold SymbolTable.get at h
  cases hl : t.lookup? n with
  | none =>
    rw [hl] at h
    cases h
  | some d' =>
    rw [hl] at h
    cases h
    rfl

/-- There is a symbol of this name, and it has a value. -/
def SymbolTable.HasValue (t : SymbolTable) (i : Instant) (x : LocaleContext) (n : Text) : Prop :=
  ∃ d v, t.lookup? n = some d ∧ d.evaluate i x = .ok v ∧ v.shown = t.shown i x n

theorem Token.format_symbol_ok {t : SymbolTable} {i : Instant} {x : LocaleContext} {n : Text}
    {a : Formatted} (h : (Token.symbol n).format t i x = .ok a) (hfaults : a.faults = []) :
    t.HasValue i x n ∧ a.text = t.shown i x n := by
  obtain ⟨d, hd, ha⟩ := bind_eq_ok_iff.mp h
  have hlookup := SymbolTable.lookup?_of_get hd
  have hshown : t.shown i x n = (Formatted.ofValue (d.evaluate i x)).text := by
    rw [SymbolTable.shown, hlookup]
  cases ha
  cases hv : d.evaluate i x with
  | error f =>
    rw [hv] at hfaults
    cases hfaults
  | ok v =>
    rw [hv] at hshown
    exact ⟨⟨d, v, hlookup, hv, hshown.symm⟩, hshown.symm⟩

/-- Formatting without a fault: every symbol is in the table and has a value, and the text is that
of the template with these values put in. -/
theorem Token.formatAll_ok {t : SymbolTable} {i : Instant} {x : LocaleContext}
    {tokens : List Token} {text : Text} (h : Token.formatAll t i x tokens = .ok ⟨text, []⟩) :
    (∀ name, .symbol name ∈ tokens → t.HasValue i x name) ∧
      text = Template.fill (t.shown i x) (Template.ofTokens tokens) := by
  induction tokens generalizing text with
  | nil =>
    cases h
    exact ⟨by simp, rfl⟩
  | cons token tokens ih =>
    obtain ⟨a, ha, h⟩ := bind_eq_ok_iff.mp h
    obtain ⟨b, hb, h⟩ := bind_eq_ok_iff.mp h
    injection h with h
    obtain ⟨hafaults, hbfaults, htext⟩ := Formatted.append_eq_ofText h
    have hb' : Token.formatAll t i x tokens = .ok ⟨b.text, []⟩ := by
      rw [hb, ← hbfaults]
    obtain ⟨hsymbols, hrest⟩ := ih hb'
    cases token with
    | literal u =>
      cases ha
      refine ⟨fun name hname => ?_, ?_⟩
      · rcases List.mem_cons.mp hname with heq | hname
        · cases heq
        · exact hsymbols name hname
      · rw [htext, hrest, Template.ofTokens, Template.fill_joinLiteral]
        rfl
    | symbol n =>
      obtain ⟨hvalue, hshown⟩ := Token.format_symbol_ok ha hafaults
      refine ⟨fun name hname => ?_, ?_⟩
      · rcases List.mem_cons.mp hname with heq | hname
        · cases heq
          exact hvalue
        · exact hsymbols name hname
      · rw [htext, hrest, Template.ofTokens, Template.fill_substitution, hshown]

end DatePattern
