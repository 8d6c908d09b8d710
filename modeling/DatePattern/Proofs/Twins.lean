/-
  The two descriptions of a symbol agree.

  A symbol has a value, and a source that is an expression.  `HasTwin` says that whatever word
  stands for the variable that holds the instant, the source with this word is an expression, which
  mentions this variable and few other names, and its value shows as the value of the symbol does,
  or both fail.  Here it is proved for symbols whose value is computed from the instant alone, one
  shape of sources after the other: attributes, padded attributes (`hasTwin_attribute`,
  `hasTwin_paddedAttribute`), arithmetic on them, and the ordinal.
-/
import Mathlib.Tactic.IntervalCases
import DatePattern.Proofs.ExpressionValue
import DatePattern.Proofs.FreeNames
import DatePattern.Proofs.SourceReading
import DatePattern.Symbol.Builtin

namespace DatePattern

open Text Lexeme

/-! ## Agreement -/

/-- A symbol's value and the outcome of an expression agree: they show as the same text, or there
is none of either. -/
def Agrees : Except FormattingFault SymbolValue → Except EvalFault Value → Prop
  | .ok v, .ok w => w.shown = .ok v.shown
  | .error _, .error _ => True
  | _, _ => False

theorem agrees_of_eval {v : SymbolValue} {o : Except EvalFault Value} {w : Value} (ho : o = .ok w)
    (h : w.shown = .ok v.shown) : Agrees (.ok v) o := by
  rw [ho]
  exact h

/-- A scope in which expressions find the given names. -/
def Scope.OffersNames (s : Scope) (names : CalendarNames) : Prop :=
  ∃ db code l, s.find localeParameter = .ok (.text code) ∧
    s.find datesModule = .ok (.calendar db) ∧ db.choose (some (.text code)) = .ok l ∧
    l.names = names

/-- What the source of a symbol needs of a scope in which a variable holds the instant: calendar
names only if it imports them. -/
structure Scope.Serves (s : Scope) (d : SymbolDefinition) (p : Text) (i : Instant)
    (names : CalendarNames) : Prop where
  instant : s.find p = .ok (.instant i)
  str : s.find "str".toList = .ok (.callable .str)
  names : SymbolDefinition.datesImport ∈ d.imports → s.OffersNames names

/-- The names that the sources of symbols use, where a variable holds the instant. -/
def Scope.usedNames (p : Text) : List Text := [p, "str".toList, localeParameter, datesModule]

namespace SymbolDefinition

/-- With any word for the instant, the source of a symbol is an expression that agrees with its
value, and it mentions no names but those used. -/
def HasTwin (d : SymbolDefinition) : Prop :=
  ∀ w p, IsWordFor w p → ∃ source e, d.renderSource w = .ok source ∧ Expr.read? source = some e ∧
    (∀ y ∈ e.freeNames, y ∈ Scope.usedNames p) ∧
    ∀ s i x, Scope.Serves s d p i x.locale.names → Agrees (d.evaluate i x) (e.eval s)

/-! ## Reading sources -/

/-- A source in which the instant stands once, with an attribute behind it. -/
theorem read?_around {w p : Text} (hp : IsWordFor w p) {t u : Text} {ls ms : List Lexeme} {e : Expr}
    (ht : settledFrom? 0 t = some ls) (hu : ofTextFrom? 0 u = some ms)
    (he : Expr.ofLexemes? Expr.template? (ls ++ (.name p :: .mark '.' :: ms)) = some e) :
    Expr.read? (t ++ (w ++ '.' :: u)) = some e := by
  have hlexemes : ofText? (t ++ (w ++ '.' :: u)) = some (ls ++ (.name p :: .mark '.' :: ms)) := by
    rw [ofText?, ofTextFrom?_settled_word ht hp, hu, behind_some, behind_some]
    rfl
  rw [Expr.read?, hlexemes]
  exact he

/-! ## Attributes -/

/-- The attributes of an instant that sources use. -/
def attributes : List Text :=
  ["day".toList, "year".toList, "month".toList, "hour".toList, "minute".toList, "second".toList,
   "microsecond".toList, "weekday".toList]

theorem isVariable_attribute : ∀ x ∈ attributes, IsVariable x := by
  have hplain : ∀ x ∈ attributes, x ≠ [] ∧ x.all isAsciiLetter = true ∧ x ∉ keywords := by
    decide +kernel
  intro x hx
  obtain ⟨hne, hletters, hkeyword⟩ := hplain x hx
  exact isVariable_of_letters hne (List.all_eq_true.mp hletters) hkeyword

/-! ## Numbers -/

variable {name description source : String} {field : CalendarField}

/-- A number computed from an attribute of the instant. -/
theorem hasTwin_numeric {value : Instant → Nat} {hsmall : ∀ i, value i < 10000} (t u : Text)
    (ls ms : List Lexeme)
    {e : Text → Expr}
    (hrender : ∀ w, substitute (bindings w) source.toList = .ok (t ++ (w ++ '.' :: u)))
    (ht : settledFrom? 0 t = some ls) (hu : ofTextFrom? 0 u = some ms)
    (he : ∀ p, Expr.ofLexemes? Expr.template? (ls ++ (.name p :: .mark '.' :: ms)) = some (e p))
    (hfree : ∀ p, (e p).freeNames = [p])
    (hvalue : ∀ s p i, Scope.find s p = .ok (.instant i) → Expr.Counts s (e p) (value i)) :
    (numeric name field description source value hsmall).HasTwin := by
  intro w p hp
  refine ⟨t ++ (w ++ '.' :: u), e p, ?_, read?_around hp ht hu (he p), ?_, ?_⟩
  · simp only [renderSource, numeric, hrender]
    rfl
  · rw [hfree]
    simp [Scope.usedNames]
  · intro s i x h
    have hcount := hvalue s p i h.instant
    unfold Expr.Counts at hcount
    rw [hcount]
    rfl

/-- A number that is an attribute of the instant. -/
theorem hasTwin_attribute {value : Instant → Nat} {hsmall : ∀ i, value i < 10000} {x : Text}
    (hx : x ∈ attributes)
    (hrender : ∀ w, substitute (bindings w) source.toList = .ok (w ++ '.' :: x))
    (hvalue : ∀ i : Instant, i.attribute? x = some (.number (value i))) :
    (numeric name field description source value hsmall).HasTwin :=
  hasTwin_numeric [] x [] [.name x] hrender rfl (ofText?_variable (isVariable_attribute x hx))
    (fun _ => rfl) (fun _ => rfl) fun _ _ i h => Expr.counts_attribute h (hvalue i)

/-- A padded number computed from an attribute of the instant. -/
theorem hasTwin_padded {value : Instant → Nat} {width : Nat} (u format : Text) (ms : List Lexeme)
    {e : Text → Expr}
    (hrender : ∀ w, substitute (bindings w) source.toList =
      .ok ("f\"\x7b".toList ++ (w ++ ('.' :: u ++ ':' :: format ++ "\x7d\"".toList))))
    (hu : ofTextFrom? 0 u = some ms)
    (he : ∀ p, Expr.ofLexemes? (fun _ => none) (.name p :: .mark '.' :: ms) = some (e p))
    (hfree : ∀ p, (e p).freeNames = [p])
    (hformat : Expr.padding? format = some width)
    (hclosed : ∀ c ∈ u ++ ':' :: format, c ≠ '}' ∧ c ≠ '\\' ∧ c ≠ '"' ∧ isLineBreak c = false)
    (hcolon : ':' ∉ u)
    (hvalue : ∀ s p i, Scope.find s p = .ok (.instant i) → Expr.Counts s (e p) (value i)) :
    (textual name field description source fun i => zeroPadded width (value i)).HasTwin := by
  intro w p hp
  have hlexemes : ofText? (w ++ '.' :: u) = some (.name p :: .mark '.' :: ms) := by
    rw [ofText?, ofTextFrom?_word_dot hp, hu]
    rfl
  have hsource : ':' ∉ w ++ '.' :: u := by
    intro h
    rcases List.mem_append.mp h with h | h
    · exact ne_of_isIdentifierContinuation (hp.word ':' h) (by decide) rfl
    rcases List.mem_cons.mp h with h | h
    · exact absurd h (by decide)
    · exact hcolon h
  have hfield : Template.IsField ((w ++ '.' :: u) ++ ':' :: format) := by
    have hname := hp.isField
    obtain ⟨c, q, rfl, -⟩ := hp.start
    refine ⟨fun rest heq => ?_, fun d hd => ?_, ?_⟩
    · exact hname.not_brace q (by rw [(List.cons.inj heq).1])
    · rw [List.append_assoc] at hd
      rcases List.mem_append.mp hd with hd | hd
      · exact hname.closed d hd
      rcases List.mem_cons.mp hd with rfl | hd
      · decide
      · exact (hclosed d hd).1
    · rw [List.append_assoc]
      refine hname.fitsQuotes.append (.char (by decide) (by decide) (by decide) ?_)
      exact fitsQuotes_of_chars fun d hd => (hclosed d hd).2
  refine ⟨_, _, ?_, Expr.read?_padded hfield hsource hlexemes (he p) hformat, ?_, ?_⟩
  · simp only [renderSource, textual, hrender, List.append_assoc, List.cons_append]
    rfl
  · change ∀ y ∈ (e p).freeNames ++ [], y ∈ Scope.usedNames p
    rw [hfree]
    simp [Scope.usedNames]
  · intro s i x h
    rw [Expr.eval_padded (hvalue s p i h.instant)]
    rfl

/-- A padded attribute of the instant. -/
theorem hasTwin_paddedAttribute {value : Instant → Nat} {width : Nat} {x : Text}
    (hx : x ∈ attributes) (format : Text)
    (hrender : ∀ w, substitute (bindings w) source.toList =
      .ok ("f\"\x7b".toList ++ (w ++ ('.' :: x ++ ':' :: format ++ "\x7d\"".toList))))
    (hword : ∀ c ∈ format, isWordChar c = true) (hformat : Expr.padding? format = some width)
    (hvalue : ∀ i : Instant, i.attribute? x = some (.number (value i))) :
    (textual name field description source fun i => zeroPadded width (value i)).HasTwin := by
  have hvariable := isVariable_attribute x hx
  have hclosed : ∀ c ∈ x ++ ':' :: format,
      c ≠ '}' ∧ c ≠ '\\' ∧ c ≠ '"' ∧ isLineBreak c = false := by
    have hplain : ∀ c, isWordChar c = true →
        c ≠ '}' ∧ c ≠ '\\' ∧ c ≠ '"' ∧ isLineBreak c = false := fun c hc =>
      ⟨ne_of_isWordChar hc (by decide), ne_of_isWordChar hc (by decide),
        ne_of_isWordChar hc (by decide), not_isLineBreak_of_isWordChar hc⟩
    intro c hc
    rcases List.mem_append.mp hc with hc | hc
    · exact hplain c (hvariable.word c hc)
    rcases List.mem_cons.mp hc with rfl | hc
    · decide
    · exact hplain c (hword c hc)
  have hcolon : ':' ∉ x := fun h => ne_of_isWordChar (hvariable.word ':' h) (by decide) rfl
  exact hasTwin_padded x format [.name x] hrender (ofText?_variable hvariable) (fun _ => rfl)
    (fun _ => rfl) hformat hclosed hcolon fun _ _ i h => Expr.counts_attribute h (hvalue i)

/-! ## Arithmetic on attributes -/

theorem hasTwin_occurrence :
    (numeric name field description "($date.day - 1) // 7 + 1"
      (fun i => weekdayOccurrence i.date.day) weekdayOccurrence_lt).HasTwin := by
  have hday := isVariable_attribute "day".toList (by simp [attributes])
  refine hasTwin_numeric ['('] ("day".toList ++ ' ' :: "- 1) // 7 + 1".toList) [.mark '(']
    [.name "day".toList, .mark '-', .number 1, .mark ')', .floorDiv, .number 7, .mark '+',
      .number 1]
    (fun _ => ?_) rfl (ofTextFrom?_variable_of hday (endsWord_blank _) ?_) (fun _ => rfl)
    (fun _ => rfl) fun _ _ i h =>
      (((Expr.counts_attribute h rfl).sub i.date.day_mem.1).floorDiv (by decide)).add 1
  all_goals
    repeat rw [String.toList_ofList]
    rfl

theorem hasTwin_milliseconds :
    (numeric name field description "$date.microsecond // 1000"
      (fun i => i.time.microsecond / 1000) millisecond_lt).HasTwin := by
  have hmicrosecond := isVariable_attribute "microsecond".toList (by simp [attributes])
  refine hasTwin_numeric [] ("microsecond".toList ++ ' ' :: "// 1000".toList) []
    [.name "microsecond".toList, .floorDiv, .number 1000]
    (fun _ => ?_) rfl (ofTextFrom?_variable_of hmicrosecond (endsWord_blank _) ?_) (fun _ => rfl)
    (fun _ => rfl) fun _ _ _ h => (Expr.counts_attribute h rfl).floorDiv (by decide)
  all_goals
    repeat rw [String.toList_ofList]
    rfl

theorem hasTwin_hourOfHalf :
    (numeric name field description "$date.hour % 12 or 12"
      (fun i => hourOfHalf i.time.hour) hourOfHalf_lt).HasTwin := by
  have hhour := isVariable_attribute "hour".toList (by simp [attributes])
  refine hasTwin_numeric [] ("hour".toList ++ ' ' :: "% 12 or 12".toList) []
    [.name "hour".toList, .mark '%', .number 12, .orWord, .number 12]
    (fun _ => ?_) rfl (ofTextFrom?_variable_of hhour (endsWord_blank _) ?_) (fun _ => rfl)
    (fun _ => rfl) fun _ _ _ h => ((Expr.counts_attribute h rfl).mod (by decide)).orElse 12
  all_goals
    repeat rw [String.toList_ofList]
    rfl

theorem hasTwin_paddedHourOfHalf :
    (textual name field description "f\"\x7b$date.hour % 12 or 12:02d\x7d\""
      fun i => zeroPadded 2 (hourOfHalf i.time.hour)).HasTwin := by
  have hhour := isVariable_attribute "hour".toList (by simp [attributes])
  refine hasTwin_padded ("hour".toList ++ ' ' :: "% 12 or 12".toList) "02d".toList
    [.name "hour".toList, .mark '%', .number 12, .orWord, .number 12]
    (fun _ => ?_) (ofTextFrom?_variable_of hhour (endsWord_blank _) ?_) (fun _ => rfl)
    (fun _ => rfl) rfl
    (List.all_iff_forall_prop.mp (by decide)) (by decide)
    fun _ _ _ h => ((Expr.counts_attribute h rfl).mod (by decide)).orElse 12
  all_goals
    repeat rw [String.toList_ofList]
    rfl

theorem hasTwin_paddedYearOfCentury :
    (textual name field description "f\"\x7b$date.year % 100:02d\x7d\""
      fun i => zeroPadded 2 (i.date.year % 100)).HasTwin := by
  have hyear := isVariable_attribute "year".toList (by simp [attributes])
  refine hasTwin_padded ("year".toList ++ ' ' :: "% 100".toList) "02d".toList
    [.name "year".toList, .mark '%', .number 100]
    (fun _ => ?_) (ofTextFrom?_variable_of hyear (endsWord_blank _) ?_) (fun _ => rfl)
    (fun _ => rfl) rfl
    (List.all_iff_forall_prop.mp (by decide)) (by decide)
    fun _ _ _ h => (Expr.counts_attribute h rfl).mod (by decide)
  all_goals
    repeat rw [String.toList_ofList]
    rfl

/-! ## The ordinal -/

/-- The endings of ordinal numbers by their last digit, but for the common one. -/
def endings : List (Atom × Atom) :=
  [(.number 1, .text "st".toList), (.number 2, .text "nd".toList), (.number 3, .text "rd".toList)]

/-- The numbers below a hundred that take the common ending whatever their last digit is. -/
def teens : List Atom := [.number 11, .number 12, .number 13]

theorem ordinalSuffix_eq (n : Nat) :
    ordinalSuffix n =
      if teens.contains (.number (n % 100 : Nat)) then "th".toList
      else match endings.lookup (.number (n % 10 : Nat)) with
        | some (.text t) => t
        | _ => "th".toList := by
  unfold ordinalSuffix
  have hteens : teens.contains (.number (n % 100 : Nat)) =
      decide ((n : Int) % 100 = 11 ∨ (n : Int) % 100 = 12 ∨ (n : Int) % 100 = 13) := by
    simp [teens]
  rw [hteens]
  by_cases ht : (n : Int) % 100 = 11 ∨ (n : Int) % 100 = 12 ∨ (n : Int) % 100 = 13
  · simp [ht]
  · have hlast : n % 10 < 10 := Nat.mod_lt n (by decide)
    simp only [ht, decide_false, Bool.false_eq_true, if_false]
    have hcast : (n : Int) % 10 = ((n % 10 : Nat) : Int) := by omega
    rw [hcast]
    interval_cases n % 10 <;> rfl

/-- The ending of a day as an expression. -/
def endingExpr (day : Expr) : Expr :=
  .conditional
    (.binary .isIn (.binary .mod day (.number 100)) (.tuple [.number 11, .number 12, .number 13]))
    (.text "th".toList)
    (.call
      (.attribute
        (.dictionary [(1, .text "st".toList), (2, .text "nd".toList), (3, .text "rd".toList)])
        "get".toList)
      [(none, .binary .mod day (.number 10)), (none, .text "th".toList)])

theorem eval_endingExpr {s : Scope} {e : Expr} {n : Nat} (h : Expr.Counts s e n) :
    (endingExpr e).eval s = .ok (.text (ordinalSuffix n)) := by
  have hhundred := h.mod (k := 100) (by decide)
  have hten := h.mod (k := 10) (by decide)
  unfold Expr.Counts at hhundred hten
  have htest : (Expr.binary .isIn (.binary .mod e (.number 100))
      (.tuple [.number 11, .number 12, .number 13])).eval s =
        .ok (.atom (.truth (teens.contains (.number (n % 100 : Nat))))) := by
    have hteens : (Expr.tuple [.number 11, .number 12, .number 13]).eval s =
        .ok (.sequence teens) := rfl
    rw [Expr.eval_binary hhundred hteens]
    rfl
  have harguments : Expr.evalArguments s
      [(none, .binary .mod e (.number 10)), (none, .text "th".toList)] =
        .ok [(none, .number (n % 10 : Nat)), (none, .text "th".toList)] :=
    Expr.evalArguments_cons hten rfl
  have hget : (Expr.attribute
      (.dictionary [(1, .text "st".toList), (2, .text "nd".toList), (3, .text "rd".toList)])
      "get".toList).eval s = .ok (.callable (.get endings)) := rfl
  unfold endingExpr
  rw [Expr.eval_conditional htest, ordinalSuffix_eq]
  by_cases hteens : teens.contains (.number (n % 100 : Nat)) = true
  · rw [if_pos hteens, if_pos hteens]
    rfl
  · rw [if_neg hteens, if_neg hteens, Expr.eval_call hget harguments]
    have hlast : n % 10 < 10 := Nat.mod_lt n (by decide)
    interval_cases n % 10 <;> rfl

/-- The day of the month with its ending, as an expression. -/
def ordinalExpr (p : Text) : Expr :=
  .binary .add (.call (.name "str".toList) [(none, .attribute (.name p) "day".toList)])
    (endingExpr (.attribute (.name p) "day".toList))

/-- The source of that expression, in which the instant stands three times. -/
def ordinalText (w : Text) : Text :=
  "str(".toList ++ (w ++ '.' ::
    ("day) + (\"th\" if ".toList ++ (w ++ '.' ::
      ("day % 100 in (11, 12, 13) else \x7b1: \"st\", 2: \"nd\", 3: \"rd\"\x7d.get(".toList
        ++ (w ++ '.' :: "day % 10, \"th\"))".toList)))))

theorem read?_ordinalText {w p : Text} (hp : IsWordFor w p) :
    Expr.read? (ordinalText w) = some (ordinalExpr p) := by
  have hfirst : settledFrom? 0 "str(".toList = some [.name "str".toList, .mark '('] := by
    repeat rw [String.toList_ofList]
    rfl
  have hsecond : settledFrom? 0 "day) + (\"th\" if ".toList =
      some [.name "day".toList, .mark ')', .mark '+', .mark '(', .string "th".toList, .ifWord] := by
    repeat rw [String.toList_ofList]
    rfl
  have hthird : settledFrom? 0
      "day % 100 in (11, 12, 13) else \x7b1: \"st\", 2: \"nd\", 3: \"rd\"\x7d.get(".toList =
        some [.name "day".toList, .mark '%', .number 100, .inWord, .mark '(', .number 11, .mark ',',
          .number 12, .mark ',', .number 13, .mark ')', .elseWord, .mark '\x7b', .number 1,
          .mark ':', .string "st".toList, .mark ',', .number 2, .mark ':', .string "nd".toList,
          .mark ',', .number 3, .mark ':', .string "rd".toList, .mark '\x7d', .mark '.',
          .name "get".toList, .mark '('] := by
    repeat rw [String.toList_ofList]
    rfl
  have hlast : ofTextFrom? 0 "day % 10, \"th\"))".toList =
      some [.name "day".toList, .mark '%', .number 10, .mark ',', .string "th".toList, .mark ')',
        .mark ')'] := by
    repeat rw [String.toList_ofList]
    rfl
  unfold ordinalText
  rw [Expr.read?, ofText?, ofTextFrom?_settled_word hfirst hp,
    ofTextFrom?_settled_word hsecond hp, ofTextFrom?_settled_word hthird hp, hlast]
  simp only [behind_some]
  rfl

theorem eval_ordinalExpr {s : Scope} {p : Text} {i : Instant} (hp : s.find p = .ok (.instant i))
    (hstr : s.find "str".toList = .ok (.callable .str)) :
    (ordinalExpr p).eval s = .ok (.text (ofNat i.date.day ++ ordinalSuffix i.date.day)) := by
  have hday : Expr.Counts s (.attribute (.name p) "day".toList) i.date.day :=
    Expr.counts_attribute hp rfl
  rw [ordinalExpr, Expr.eval_binary (Expr.eval_str hstr hday) (eval_endingExpr hday)]
  rfl

set_option maxRecDepth 1000 in
theorem substitute_ordinal (w : Text) :
    substitute (bindings w)
        ("str($date.day) + (\"th\" if $date.day % 100 in (11, 12, 13) "
          ++ "else \x7b1: \"st\", 2: \"nd\", 3: \"rd\"\x7d.get($date.day % 10, \"th\"))").toList =
      .ok (ordinalText w) := by
  unfold ordinalText
  rw [String.toList_append]
  repeat rw [String.toList_ofList]
  rfl

theorem hasTwin_ordinal :
    (textual name field description
      ("str($date.day) + (\"th\" if $date.day % 100 in (11, 12, 13) "
        ++ "else \x7b1: \"st\", 2: \"nd\", 3: \"rd\"\x7d.get($date.day % 10, \"th\"))")
      fun i => ofNat i.date.day ++ ordinalSuffix i.date.day).HasTwin := by
  intro w p hp
  refine ⟨ordinalText w, ordinalExpr p, ?_, read?_ordinalText hp, ?_, ?_⟩
  · simp only [renderSource, textual, substitute_ordinal]
    rfl
  · change ∀ y ∈ ["str".toList, p, p, p], y ∈ Scope.usedNames p
    simp [Scope.usedNames]
  · intro s i x h
    rw [eval_ordinalExpr h.instant h.str]
    rfl

end SymbolDefinition

end DatePattern
