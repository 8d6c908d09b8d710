/-
  The source text of a program loses nothing.

  Whatever text a locale or a literal holds, its escaped form holds no line feed and no quote that
  could end the string around it (`fitsQuotes_escape`), and it is read back as this text
  (`readEscaped?_escape`).  So each line of a source ends where it should, and is read back as what
  it was written for.

  * `fields_joinLines`: lines without line feeds are what their text is cut into.
  * `Program.IsReadable`: what this asks of a program, its names and its sources.
  * `Program.IsReadable.readsBack`: the pieces of the source, and what each is read back as.
-/
import DatePattern.Program.Reading
import DatePattern.Proofs.SourceReading
import DatePattern.Proofs.Success

namespace DatePattern

open Text

namespace Text

/-! ## Escaped text -/

/-- What the inside of a string is read as with any fuel that it can need. -/
def ReadsAs (t u : Text) : Prop := ∀ fuel, t.length ≤ fuel → readEscapedWithin? fuel t = some u

theorem readsAs_nil : ReadsAs [] [] := by
  intro fuel _
  cases fuel <;> rfl

/-- A piece of at least one character leaves fuel for what follows. -/
theorem ReadsAs.of_step {piece t u : Text} {c : Char} (h : ReadsAs t u) (hne : piece ≠ [])
    (hstep : ∀ fuel, readEscapedWithin? (fuel + 1) (piece ++ t) =
      (readEscapedWithin? fuel t).map (c :: ·)) : ReadsAs (piece ++ t) (c :: u) := by
  intro fuel hfuel
  have hpos : 0 < piece.length := List.length_pos_iff.mpr hne
  rw [List.length_append] at hfuel
  cases fuel with
  | zero => omega
  | succ fuel =>
    rw [hstep, h fuel (by omega)]
    rfl

theorem ReadsAs.escapeChar {t u : Text} (h : ReadsAs t u) (c : Char) :
    ReadsAs (escapeChar c ++ t) (c :: u) := by
  unfold Text.escapeChar
  rcases escapeCharWith_cases keepsLine_isPrintable c with ⟨he, hb, hq, -⟩ | ⟨e, he, -, hread⟩
  · rw [he]
    exact h.of_step (by simp) fun fuel => by simp [readEscapedWithin?, hb, hq]
  · rw [he]
    exact h.of_step (by simp) fun fuel => by simp [readEscapedWithin?, hread]

theorem readsAs_escape (t : Text) : ReadsAs (escape t) t := by
  induction t with
  | nil => exact readsAs_nil
  | cons c t ih => exact ih.escapeChar c

/-- Escaped text is read back, whatever it is. -/
theorem readEscaped?_escape (t : Text) : readEscaped? (escape t) = some t :=
  readsAs_escape t _ (Nat.le_refl _)

/-- It fits between quotes. -/
theorem fitsQuotes_escape (t : Text) : FitsQuotes (escape t) :=
  FitsQuotes.flatMap fun c _ => fitsQuotes_escapeCharWith keepsLine_isPrintable c

theorem isPrintable_of_ascii {c : Char} (h : 0x20 ≤ c.toNat ∧ c.toNat ≤ 0x7E) :
    isPrintable c = true := by
  have hranges : ∀ r ∈ unprintable, r.2 < 0x20 ∨ 0x7E < r.1 := by decide +kernel
  cases hcontains : unprintable.contains c.toNat with
  | false => rw [isPrintable, hcontains]; rfl
  | true =>
    obtain ⟨r, hr, hc⟩ := CodePoints.contains_iff.mp hcontains
    have := hranges r hr
    omega

/-- A character of ASCII that nothing is special about. -/
def isPlain (c : Char) : Bool :=
  decide (0x20 ≤ c.toNat ∧ c.toNat ≤ 0x7E) && c != '\\' && c != '"'

theorem escape_of_plain {t : Text} (h : t.all isPlain = true) : escape t = t := by
  induction t with
  | nil => rfl
  | cons c t ih =>
    obtain ⟨hc, ht⟩ := Bool.and_eq_true_iff.mp (List.all_cons ▸ h)
    simp only [isPlain, Bool.and_eq_true, decide_eq_true_eq, bne_iff_ne] at hc
    obtain ⟨⟨hascii, hb⟩, hq⟩ := hc
    rw [escape_cons, ih ht, escapeChar, escapeCharWith, if_neg hb, if_neg hq,
      if_pos (isPrintable_of_ascii hascii)]
    rfl

/-- Plain text around other text stays as it is. -/
theorem escape_between {a b : Text} (ha : a.all isPlain = true) (hb : b.all isPlain = true)
    (t : Text) : escape (a ++ t ++ b) = a ++ escape t ++ b := by
  rw [escape_append, escape_append, escape_of_plain ha, escape_of_plain hb]

/-- What fits between single quotes fits between triple ones. -/
theorem tripleBody?_of_fitsQuotes {t : Text} (h : FitsQuotes t) (rest : Text) :
    tripleBody? (t ++ '"' :: '"' :: '"' :: rest) = some t := by
  induction h with
  | nil => rfl
  | @char c t hb hq hl _ ih =>
    rw [List.cons_append, tripleBody?, ih]
    · rfl
    · intro d rest' h _
      exact hb h
    · intro rest' h _
      exact hq h
  | escaped _ _ ih =>
    rw [List.cons_append, List.cons_append, tripleBody?, ih]
    rfl

/-! ## Lines -/

theorem fields_append {separator : Char} {s : Text} (h : separator ∉ s) (t : Text) :
    fields separator (s ++ separator :: t) = s :: fields separator t := by
  induction s with
  | nil => rw [List.nil_append, fields, if_pos rfl]
  | cons c s ih =>
    obtain ⟨hc, hs⟩ := not_or.mp (mt List.mem_cons.mpr h)
    rw [List.cons_append, fields, if_neg (Ne.symm hc), ih hs]

/-- Lines are what their text is cut into, with an empty piece behind the last one. -/
theorem fields_joinLines {ls : List Text} (h : ∀ l ∈ ls, '\n' ∉ l) :
    fields '\n' (Program.joinLines ls) = ls ++ [[]] := by
  induction ls with
  | nil => rfl
  | cons l ls ih =>
    obtain ⟨hl, hls⟩ := List.forall_mem_cons.mp h
    have hjoin : Program.joinLines (l :: ls) = l ++ '\n' :: Program.joinLines ls := by
      simp [Program.joinLines]
    rw [hjoin, fields_append hl, ih hls]
    rfl

/-- No line ends in a text. -/
def IsOneLine (t : Text) : Prop := ∀ c ∈ t, isLineBreak c = false

instance (t : Text) : Decidable t.IsOneLine :=
  decidable_of_iff ((t.all fun c => !isLineBreak c) = true) (by simp [IsOneLine])

theorem IsOneLine.append {s t : Text} (hs : s.IsOneLine) (ht : t.IsOneLine) :
    (s ++ t).IsOneLine := List.forall_mem_append.mpr ⟨hs, ht⟩

theorem IsOneLine.not_mem_newline {t : Text} (h : t.IsOneLine) : '\n' ∉ t := fun hn =>
  absurd (h _ hn) (by decide)

theorem isOneLine_of_isWordChar {t : Text} (h : ∀ c ∈ t, isWordChar c = true) : t.IsOneLine :=
  fun c hc => not_isLineBreak_of_isWordChar (h c hc)

theorem isOneLine_escape (t : Text) : (escape t).IsOneLine := (fitsQuotes_escape t).not_isLineBreak

theorem not_mem_of_isWordChar {t : Text} (h : ∀ c ∈ t, isWordChar c = true) {c : Char}
    (hc : isWordChar c = false) : c ∉ t := fun hmem => ne_of_isWordChar (h c hmem) hc rfl

end Text

namespace Program

variable {p p' : Program}

/-! ## Programs that can be read -/

/-- The names of a program are words, its sources and import lines are single lines, no import line
looks like the definition of a function, and no literal is empty or follows another. -/
structure IsReadable (p : Program) : Prop where
  functionName : ∀ c ∈ p.functionName, isWordChar c = true
  parameter : ∀ c ∈ p.parameter, isWordChar c = true
  declared : ∀ v ∈ p.declarations, (∀ c ∈ v.name, isWordChar c = true) ∧ v.source.IsOneLine
  imported : ∀ l ∈ p.imports, l.IsOneLine ∧ definitionWord.isPrefixOf l = false
  substituted : ∀ name, .substitution name ∈ p.segments → ∀ c ∈ name, isWordChar c = true
  literal_ne_nil : ∀ t, .literal t ∈ p.segments → t ≠ []
  not_adjacent : ∀ s t rest, ¬(.literal s :: .literal t :: rest) <:+ p.segments

/-- What the source of a program is cut into, and what each piece is read back as. -/
structure ReadsBack (p : Program) : Prop where
  /-- The import lines with two empty ones, if there are any; the definition, the description, a
  line for each declaration, the template, and nothing behind the last line. -/
  pieces : fields '\n' p.source =
    (if p.imports = [] then [] else p.imports ++ [[], []]) ++ [p.headLine, p.descriptionLine] ++
      p.statements.map (indent ++ ·) ++ [p.returnLine, []]
  /-- No character of any kind ends a line within a piece. -/
  unbroken : ∀ piece ∈ fields '\n' p.source, piece.IsOneLine
  head : readHead? p.headLine = some (p.functionName, p.parameter, p.locale)
  description : readDescription? p.descriptionLine =
    some ("Format a datetime as ``".toList ++ p.echo ++ "``.".toList)
  statement : ∀ v ∈ p.declarations, readStatement? (indent ++ v.statement) = some v
  template : readReturn? p.returnLine = some p.segments
  /-- So nothing is lost. -/
  source : readSource? p.source = some p

/-- The definition as it is read. -/
theorem headLine_eq (p : Program) :
    p.headLine = definitionWord ++ (p.functionName ++ '(' :: (p.parameter ++ ',' ::
      ((" ".toList ++ localeParameter ++ "=\"".toList) ++
        (escape p.locale ++ '"' :: "):".toList)))) := by
  have hpieces : p.headLine = definitionWord ++ p.functionName ++ ['('] ++ p.parameter ++
      (',' :: " ".toList) ++ localeParameter ++ "=\"".toList ++ escape p.locale ++
      ('"' :: "):".toList) := rfl
  rw [hpieces]
  simp only [List.append_assoc, List.cons_append, List.nil_append]

/-- The description as it is read. -/
theorem descriptionLine_eq (p : Program) :
    p.descriptionLine = indent ++ "\"\"\"".toList ++ (escape p.description ++ "\"\"\"".toList) := by
  have hescape : escape p.description =
      "Format a datetime as ``".toList ++ escape p.echo ++ "``.".toList :=
    escape_between (by decide) (by decide) p.echo
  have hopen : "\"\"\"Format a datetime as ``".toList =
      "\"\"\"".toList ++ "Format a datetime as ``".toList := by
    repeat rw [String.toList_ofList]
    rfl
  have hclose : "``.\"\"\"".toList = "``.".toList ++ "\"\"\"".toList := by
    repeat rw [String.toList_ofList]
    rfl
  have hpieces : p.descriptionLine =
      indent ++ ("\"\"\"".toList ++ "Format a datetime as ``".toList) ++ escape p.echo ++
        ("``.".toList ++ "\"\"\"".toList) :=
    hopen ▸ hclose ▸ rfl
  rw [hpieces, hescape]
  simp only [List.append_assoc]

namespace IsReadable

theorem fitsQuotes_template (h : p.IsReadable) : FitsQuotes p.template :=
  Template.fitsQuotes_render fun name hname =>
    Template.isField_of_isWordChar (h.substituted name hname)

/-! ## Reading lines -/

theorem readHead?_headLine (h : p.IsReadable) :
    readHead? p.headLine = some (p.functionName, p.parameter, p.locale) := by
  have hbracket : '(' ∉ p.functionName := not_mem_of_isWordChar h.functionName (by decide)
  have hcomma : ',' ∉ p.parameter := not_mem_of_isWordChar h.parameter (by decide)
  have hbody := quotedBody?_of_fitsQuotes (fitsQuotes_escape p.locale) "):".toList
  have hdrop : (escape p.locale ++ '"' :: "):".toList).drop (escape p.locale).length =
      "\"):".toList := List.drop_left
  simp only [readHead?, headLine_eq, after?_append, behind?_append hbracket, behind?_append hcomma,
    hbody, readEscaped?_escape, hdrop, upTo_append hbracket, upTo_append hcomma, bind, Option.bind,
    if_true]

theorem readDescription?_escape (t : Text) :
    readDescription? (indent ++ "\"\"\"".toList ++ (escape t ++ "\"\"\"".toList)) = some t := by
  have hbody : tripleBody? (escape t ++ "\"\"\"".toList) = some (escape t) := by
    have hquotes : "\"\"\"".toList = ['"', '"', '"'] := String.toList_ofList
    simp only [hquotes]
    exact tripleBody?_of_fitsQuotes (fitsQuotes_escape t) []
  rw [readDescription?, after?_append]
  simp only [hbody, List.drop_left, readEscaped?_escape, bind, Option.bind, if_true]

theorem readDescription?_descriptionLine (p : Program) :
    readDescription? p.descriptionLine = some p.description := by
  rw [descriptionLine_eq]
  exact readDescription?_escape p.description

theorem readStatement?_statement {v : Declaration} (h : ∀ c ∈ v.name, isWordChar c = true) :
    readStatement? (indent ++ v.statement) = some v := by
  have hblank : ' ' ∉ v.name := not_mem_of_isWordChar h (by decide)
  have hname : upTo ' ' v.statement = v.name := by
    have hsign : " = ".toList = ' ' :: "= ".toList := rfl
    rw [Declaration.statement, hsign, List.append_assoc, List.cons_append]
    exact upTo_append hblank _
  have hsource : after? (v.name ++ " = ".toList) v.statement = some v.source :=
    after?_append _ _
  simp only [readStatement?, after?_append, hname, hsource, bind, Option.bind, pure]

theorem readReturn?_returnLine (h : p.IsReadable) : readReturn? p.returnLine = some p.segments := by
  have hquote : "\"".toList = ['"'] := rfl
  have hbody := quotedBody?_of_fitsQuotes h.fitsQuotes_template []
  have hread : Template.read? p.template = some p.segments := by
    have hrender := Template.read?_render fun name hname =>
      Template.isField_of_isWordChar (h.substituted name hname)
    rwa [Template.merged_of_separate h.literal_ne_nil h.not_adjacent] at hrender
  rw [readReturn?, returnLine, hquote, List.append_assoc]
  simp only [after?_append, hbody, List.drop_left, hread, bind, Option.bind, if_true]

/-! ## Reading the source -/

theorem isOneLine_headLine (h : p.IsReadable) : p.headLine.IsOneLine := by
  have hname : IsOneLine ("def ".toList ++ p.functionName ++ "(".toList) :=
    (IsOneLine.append (by decide) (isOneLine_of_isWordChar h.functionName)).append (by decide)
  have hnames := hname.append (isOneLine_of_isWordChar h.parameter)
  exact ((((hnames.append (by decide)).append (by decide)).append (by decide)).append
    (isOneLine_escape p.locale)).append (by decide)

theorem isOneLine_descriptionLine (p : Program) : p.descriptionLine.IsOneLine :=
  (IsOneLine.append (by decide) (isOneLine_escape p.echo)).append (by decide)

theorem isOneLine_statement (h : p.IsReadable) {v : Declaration} (hv : v ∈ p.declarations) :
    (indent ++ v.statement).IsOneLine := by
  obtain ⟨hname, hsource⟩ := h.declared v hv
  exact IsOneLine.append (by decide)
    (((isOneLine_of_isWordChar hname).append (by decide)).append hsource)

theorem isOneLine_returnLine (h : p.IsReadable) : p.returnLine.IsOneLine :=
  (IsOneLine.append (by decide) h.fitsQuotes_template.not_isLineBreak).append (by decide)

theorem isOneLine_of_mem_lines (h : p.IsReadable) : ∀ l ∈ p.lines, l.IsOneLine := by
  have himports : ∀ l ∈ p.importLines, l.IsOneLine := by
    unfold importLines
    split
    · exact List.forall_mem_nil _
    · exact List.forall_mem_append.mpr ⟨fun l hl => (h.imported l hl).1, by decide⟩
  have hstatements : ∀ l ∈ p.statements.map (indent ++ ·), l.IsOneLine := by
    intro l hl
    obtain ⟨_, hs, rfl⟩ := List.mem_map.mp hl
    obtain ⟨v, hv, rfl⟩ := List.mem_map.mp hs
    exact h.isOneLine_statement hv
  simp only [lines, List.forall_mem_append, List.forall_mem_cons]
  exact ⟨⟨⟨himports, h.isOneLine_headLine, isOneLine_descriptionLine p, List.forall_mem_nil _⟩,
    hstatements⟩, h.isOneLine_returnLine, List.forall_mem_nil _⟩

theorem fields_source (h : p.IsReadable) : fields '\n' p.source = p.lines ++ [[]] :=
  fields_joinLines fun l hl => (h.isOneLine_of_mem_lines l hl).not_mem_newline

theorem readImports?_importLines (p : Program) : readImports? p.importLines = some p.imports := by
  unfold importLines
  by_cases himports : p.imports = []
  · rw [himports]
    rfl
  · rw [if_neg (by rwa [List.isEmpty_iff]), readImports?, List.reverse_append]
    exact congrArg some (List.reverse_reverse p.imports)

/-- The lines in front of the definition are those that bring imports. -/
theorem takeWhile_lines (h : p.IsReadable) (rest : List Text) :
    (p.importLines ++ p.headLine :: rest).takeWhile (fun l => !definitionWord.isPrefixOf l) =
      p.importLines := by
  have hfront : ∀ l ∈ p.importLines, (!definitionWord.isPrefixOf l) = true := by
    unfold importLines
    split
    · exact List.forall_mem_nil _
    · refine List.forall_mem_append.mpr ⟨fun l hl => ?_, by decide⟩
      rw [(h.imported l hl).2]
      rfl
  have hhead : (!definitionWord.isPrefixOf p.headLine) = false := by
    rw [headLine_eq, List.isPrefixOf_iff_prefix.mpr (List.prefix_append definitionWord _)]
    rfl
  rw [List.takeWhile_append_of_pos hfront, List.takeWhile_cons, hhead, if_neg Bool.false_ne_true,
    List.append_nil]

theorem readSource?_source (h : p.IsReadable) : readSource? p.source = some p := by
  have hlines : p.lines ++ [[]] = p.importLines ++ p.headLine :: p.descriptionLine ::
      (p.statements.map (indent ++ ·) ++ [p.returnLine, []]) := by
    simp only [lines, List.append_assoc, List.cons_append, List.nil_append]
  have hreverse : (p.statements.map (indent ++ ·) ++ [p.returnLine, []]).reverse =
      [] :: p.returnLine :: (p.statements.map (indent ++ ·)).reverse := List.reverse_append
  have hstatements : (p.statements.map (indent ++ ·)).mapM readStatement? =
      some p.declarations := by
    refine mapM_eq_some_iff.mpr ?_
    rw [statements, List.map_map, List.forall₂_map_left_iff, List.forall₂_same]
    exact fun v hv => readStatement?_statement (h.declared v hv).1
  rw [readSource?, h.fields_source, readLines?, hlines]
  simp only [h.takeWhile_lines, readImports?_importLines, List.drop_left, h.readHead?_headLine,
    hreverse, List.reverse_reverse, hstatements, h.readReturn?_returnLine, bind, Option.bind]
  exact if_pos (readDescription?_descriptionLine p)

theorem readsBack (h : p.IsReadable) : p.ReadsBack where
  pieces := by
    rw [h.fields_source, lines, importLines]
    simp only [List.isEmpty_iff, List.append_assoc, List.cons_append, List.nil_append]
  unbroken := by
    rw [h.fields_source]
    exact List.forall_mem_append.mpr ⟨h.isOneLine_of_mem_lines, by decide⟩
  head := h.readHead?_headLine
  description := readDescription?_descriptionLine p
  statement v hv := readStatement?_statement (h.declared v hv).1
  template := h.readReturn?_returnLine
  source := h.readSource?_source

end IsReadable

end Program

end DatePattern
