/-
  What is lost when a pattern is read: its escapes, and nothing else.

  The words of names hold no escape, so a symbol never takes one.  Whatever symbols are found in
  between, the escapes that the scan drops are therefore those that `unescape` drops, and the tokens
  hold all other clusters in order.  Joining literals changes no text, neither in the tokens nor in
  the template of a program.

  * `flatten_scan`: the clusters that a scan keeps.
  * `Program.echo_of_emit`: a program shows the text of its tokens.
  * `Process.flatten_echo_eq_unescape`: tokens and programs show a pattern without its escapes.
-/
import DatePattern.Proofs.NameChecks
import DatePattern.Proofs.Outcomes
import DatePattern.Proofs.Tokenizing

namespace DatePattern

open Text

/-! ## Escapes -/

theorem unescapeClusters_dangling : unescapeClusters false [escapeCluster] = [escapeCluster] := rfl

theorem unescapeClusters_escape (next : Text) (rest : List Text) :
    unescapeClusters false (escapeCluster :: next :: rest) =
      next :: unescapeClusters false rest := by
  simp [unescapeClusters]

theorem unescapeClusters_cons {u : Text} (hu : u ≠ escapeCluster) (rest : List Text) :
    unescapeClusters false (u :: rest) = u :: unescapeClusters false rest := by
  simp only [unescapeClusters, hu, false_and, if_false]

/-- Clusters that are no escapes are kept. -/
theorem unescapeClusters_append {us : List Text} (h : escapeCluster ∉ us) (rest : List Text) :
    unescapeClusters false (us ++ rest) = us ++ unescapeClusters false rest := by
  induction us with
  | nil => rfl
  | cons u us ih =>
    have hu : u ≠ escapeCluster := fun heq => h (heq ▸ List.mem_cons_self)
    have hus : escapeCluster ∉ us := fun hmem => h (List.mem_cons_of_mem u hmem)
    rw [List.cons_append, unescapeClusters_cons hu, ih hus, List.cons_append]

/-- No name holds the escape as one of its clusters. -/
def FreeOfEscapes (names : List Text) : Prop := ∀ n ∈ names, escapeCluster ∉ graphemes n

theorem IsPlainName.not_mem_graphemes {name : Text} (h : IsPlainName name) :
    escapeCluster ∉ graphemes name := by
  rw [h.graphemes_eq, mem_singles]
  rintro ⟨c, hc, heq⟩
  exact h.singleton_ne_escape hc heq.symm

/-! ## Tokens -/

/-- A scan drops escapes and keeps all other clusters, whatever it takes for symbols. -/
theorem flatten_scan {a : Alphabet} (ha : ∀ w ∈ a, escapeCluster ∉ w) (clusters : List Text) :
    Token.flatten (scan a 0 clusters) = (unescapeClusters false clusters).flatten := by
  refine scan_induction (a := a)
    (P := fun clusters ts => Token.flatten ts = (unescapeClusters false clusters).flatten)
    rfl ?dangling ?escape ?literal ?symbol clusters
  case dangling =>
    rw [unescapeClusters_dangling]
    rfl
  case escape =>
    intro next rest ih
    rw [Token.flatten_joinLiteral, ih, unescapeClusters_escape, List.flatten_cons]
  case literal =>
    intro cluster rest hc _ ih
    rw [Token.flatten_joinLiteral, ih, unescapeClusters_cons hc, List.flatten_cons]
  case symbol =>
    intro cluster word rest _ hmatch ih
    have hword : escapeCluster ∉ cluster :: word := ha _ (Alphabet.longestMatch?_some hmatch).1
    rw [Token.flatten_cons, ih, unescapeClusters_append hword, List.flatten_append]
    rfl

theorem flatten_tokenize {names : List Text} (h : FreeOfEscapes names) (pattern : Text) :
    Token.flatten (tokenize names pattern) = unescape pattern := by
  refine flatten_scan (fun w hw => ?_) (graphemes pattern)
  obtain ⟨n, hn, rfl⟩ := List.mem_map.mp hw
  exact h n hn

/-! ## Programs -/

namespace Template

theorem echo_joinLiteral (t : Text) (segments : Template) :
    echo (joinLiteral t segments) = t ++ echo segments := by
  cases segments with
  | nil => simp [joinLiteral, echo]
  | cons s segments => cases s <;> simp [joinLiteral, echo]

theorem echo_ofTokens (ts : List Token) : echo (ofTokens ts) = Token.flatten ts := by
  induction ts with
  | nil => rfl
  | cons t ts ih =>
    cases t with
    | literal u =>
      rw [ofTokens, echo_joinLiteral, ih]
      rfl
    | symbol name =>
      rw [Token.flatten_cons, ← ih]
      rfl

end Template

/-- A program shows the text of the tokens that it is emitted for. -/
theorem Program.echo_of_emit {t : SymbolTable} {locale functionName parameter : Text}
    {tokens : List Token} {p : Program}
    (h : emit t locale functionName parameter tokens = .ok p) : p.echo = Token.flatten tokens := by
  obtain ⟨-, d, -, rfl⟩ := emit_eq_ok_iff.mp h
  exact Template.echo_ofTokens tokens

namespace SymbolTable

variable {isExpression : Text → Bool} {ds : List SymbolDefinition} {pairs : List (Text × Text)}
  {t : SymbolTable}

/-- With a table whose symbols all have a source, there is a program for any pattern exactly if the
parameter is no name of the table. -/
theorem exists_emit_iff_of_buildWith (h : buildWith isExpression ds pairs = .ok t)
    (hsources : ∀ n ∈ t.names, ¬t.LacksSource n) {config : Config} (hcheck : config.check = .ok ())
    (locale pattern : Text) :
    (∃ program, Program.emit t locale config.functionName config.parameter
        (DatePattern.tokenize t.names pattern) = .ok program) ↔ config.parameter ∉ t.names := by
  have hknown := (isImage_tokenize (isPlainName_of_buildWith h) pattern).symbol_mem
  constructor
  · rintro ⟨program, hemit⟩
    exact (Program.checkNames_eq_ok_iff.mp (Program.emit_eq_ok_iff.mp hemit).1).2.2
  · intro hfree
    have hnames := Program.checkNames_of_accepted hcheck t
    rw [if_neg hfree] at hnames
    refine (Program.exists_emit_iff locale hnames fun m hm => ?_).mpr fun m hm =>
      hsources m (hknown m hm)
    exact exists_source_of_buildWith h config.parameter (hknown m hm)

end SymbolTable

namespace Process

/-- Read with names of which none holds the escape, a pattern has tokens that together are the
pattern without its escapes; the names do not matter.  So the program for a pattern shows it without
its escapes, with any table that has been built and whatever has happened before.  If all symbols
have a source, there is a program unless the parameter is a name of the table. -/
theorem flatten_echo_eq_unescape (pattern : Text) :
    (∀ names : List Text, (∀ n ∈ names, n ≠ []) → FreeOfEscapes names →
      ∃ t ts, Tokenizer.ofNames? names = some t ∧ t.tokenize pattern = .ok ts ∧
        Token.flatten ts = unescape pattern) ∧
    ∀ isExpression ds pairs table? config c, Compiler.make table? config = .ok c →
      SymbolTable.buildWith isExpression ds pairs = .ok c.table →
      ∀ db? events p locale, p = after db? ⟨.fresh, c⟩ events →
        (∀ program, (p.session.withCompiler p.own (Work.emit db? pattern locale)).1 = .ok program →
          program.echo = unescape pattern) ∧
        ((∀ n ∈ c.table.names, ¬c.table.LacksSource n) →
          ((∃ program,
            (p.session.withCompiler p.own (Work.emit db? pattern locale)).1 = .ok program) ↔
              config.parameter ∉ c.table.names)) := by
  refine ⟨fun names hnames hfree => ?_, ?_⟩
  · obtain ⟨t, ht, hmem⟩ := Tokenizer.exists_ofNames? hnames
    exact ⟨t, _, ht, (Tokenizer.exists_runFor_of_names hmem pattern).2,
      flatten_tokenize hfree pattern⟩
  · rintro isExpression ds pairs table? config c hmake hbuild db? events p locale rfl
    obtain ⟨u, hcheck, -⟩ := bind_eq_ok_iff.mp hmake
    have hown := (settled_after hmake db? events).own
    have hfree : FreeOfEscapes c.table.names := fun n hn =>
      (SymbolTable.isPlainName_of_buildWith hbuild n hn).not_mem_graphemes
    obtain ⟨code, hrun⟩ := Work.exists_run_emit db?
      (after db? ⟨.fresh, c⟩ events).session.locales pattern locale
    simp only [Session.fst_withCompiler, hrun hown, mapError_eq_ok_iff]
    refine ⟨fun program hemit => ?_, fun hsources => ?_⟩
    · rw [Program.echo_of_emit hemit, flatten_tokenize hfree]
    · exact SymbolTable.exists_emit_iff_of_buildWith hbuild hsources hcheck code pattern

/-- An escaped escape, an escape with a mark on it, an escaped symbol and an escape at the end: read
with a name that is the second of these, and with the built-in names. -/
theorem flatten_echo_eq_unescape_marked :
    (∃ t ts, Tokenizer.ofNames? [['d'], ['\\', '\u0301']] = some t ∧
      t.tokenize ['\\', '\\', 'd', '\\', '\u0301', '\\', 'd', '\\'] = .ok ts ∧
      Token.flatten ts = ['\\', 'd', '\\', '\u0301', 'd', '\\']) ∧
    ∃ c program, Compiler.make none {} = .ok c ∧
      (Session.fresh.withCompiler c (Work.emit none
        ['\\', '\\', 'd', '\\', '\u0301', '\\', 'd', '\\'] none)).1 = .ok program ∧
      program.echo = ['\\', 'd', '\\', '\u0301', 'd', '\\'] := by
  have hunescape : unescape ['\\', '\\', 'd', '\\', '\u0301', '\\', 'd', '\\'] =
      ['\\', 'd', '\\', '\u0301', 'd', '\\'] := by decide +kernel
  obtain ⟨hread, hemitted⟩ :=
    flatten_echo_eq_unescape ['\\', '\\', 'd', '\\', '\u0301', '\\', 'd', '\\']
  rw [hunescape] at hread hemitted
  have hfree : FreeOfEscapes [['d'], ['\\', '\u0301']] :=
    List.forall_mem_cons.mpr ⟨by decide +kernel, List.forall_mem_singleton.mpr (by decide +kernel)⟩
  obtain ⟨hecho, hprogram⟩ := hemitted _ _ _ _ _ _ Compiler.make_default
    (SymbolTable.build_builtin false) none [] _ none rfl
  have hsources : ∀ n ∈ (SymbolTable.builtin false).names,
      ¬(SymbolTable.builtin false).LacksSource n :=
    fun n _ => SymbolTable.not_lacksSource_builtin false n
  have hparameter : ({} : Config).parameter ∉ (SymbolTable.builtin false).names := by
    decide +kernel
  obtain ⟨program, hrun⟩ := (hprogram hsources).mpr hparameter
  exact ⟨hread _ (by simp) hfree, _, program, Compiler.make_default, hrun, hecho program hrun⟩

end Process

end DatePattern
