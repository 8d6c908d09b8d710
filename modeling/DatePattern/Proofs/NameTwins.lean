/-
  The two descriptions of symbols that show a name in a locale agree, and with them those of every
  built-in symbol.

  The source of such a symbol asks for the names of the locale of the program and picks one by the
  instant.  `Scope.OffersNames` is what it takes for these to be the names of the context that the
  value comes from.  A locale can lack names for the halves of the day, and then both fail.

  * `hasTwin_localized`: the shape of these sources.
  * `hasTwin_builtin`: every built-in symbol has a twin.
-/
import DatePattern.Proofs.Twins

namespace DatePattern

open Text Lexeme

namespace SymbolDefinition

/-! ## Names -/

theorem evalArguments_width {s : Scope} {code : Text}
    (hcode : s.find localeParameter = .ok (.text code)) (w : Width) :
    Expr.evalArguments s [(none, .text w.name), (some "locale".toList, .name localeParameter)] =
      .ok [(none, .text w.name), (some "locale".toList, .text code)] :=
  Expr.evalArguments_cons rfl (Expr.evalArguments_cons hcode rfl)

/-- The name of a day. -/
theorem eval_weekdayName {s : Scope} {p : Text} {i : Instant} {names : CalendarNames}
    (hp : s.find p = .ok (.instant i)) (hn : s.OffersNames names) (w : Width) :
    (Expr.index
      (Expr.namesCall .weekday
        [(none, .text w.name), (some "locale".toList, .name localeParameter)])
      (.call (.attribute (.name p) "weekday".toList) [])).eval s =
        .ok (.text (names.weekday (.common w) i.date.weekday)) := by
  obtain ⟨db, code, l, hcode, hdb, hl, rfl⟩ := hn
  obtain ⟨entries, hentries, hlookup⟩ := l.lookup_weekday (.common w) i.date.weekday
  have hinstant : (Expr.name p).eval s = .ok (.instant i) := hp
  have hmethod : (Expr.attribute (.name p) "weekday".toList).eval s =
      .ok (.callable (.weekday i)) := by
    rw [Expr.eval_attribute hinstant]
    rfl
  have hkey : (Expr.call (.attribute (.name p) "weekday".toList) []).eval s =
      .ok (.atom (.number i.date.weekday.val)) := by
    rw [Expr.eval_call hmethod rfl]
    rfl
  exact Expr.eval_index (Expr.eval_namesCall hdb (evalArguments_width hcode w) rfl hl rfl hentries)
    hkey hlookup

/-- The name of a month. -/
theorem eval_monthName {s : Scope} {p : Text} {i : Instant} {names : CalendarNames}
    (hp : s.find p = .ok (.instant i)) (hn : s.OffersNames names) (w : Width) :
    (Expr.index
      (Expr.namesCall .month
        [(none, .text w.name), (some "locale".toList, .name localeParameter)])
      (.attribute (.name p) "month".toList)).eval s =
        .ok (.text (names.month w i.date.monthIndex)) := by
  obtain ⟨db, code, l, hcode, hdb, hl, rfl⟩ := hn
  obtain ⟨entries, hentries, hlookup⟩ := l.lookup_month w i.date.monthIndex
  have hkey : (Expr.attribute (.name p) "month".toList).eval s =
      .ok (.atom (.number (i.date.monthIndex.val + 1 : Nat))) := by
    have hmonth : i.date.monthIndex.val + 1 = i.date.month := by
      have := i.date.month_mem
      change i.date.month - 1 + 1 = i.date.month
      omega
    rw [hmonth]
    exact Expr.counts_attribute hp rfl
  exact Expr.eval_index (Expr.eval_namesCall hdb (evalArguments_width hcode w) rfl hl rfl hentries)
    hkey hlookup

/-- The name of a half of the day, which a locale can lack. -/
theorem agrees_periodName {s : Scope} {p : Text} {i : Instant} {x : LocaleContext}
    (hp : s.find p = .ok (.instant i)) (hn : s.OffersNames x.locale.names) (w : Width) :
    Agrees (SymbolValue.text <$> x.name .period i w.name)
      ((Expr.index
        (Expr.namesCall .period
          [(some "width".toList, .text w.name), (some "context".toList, .text "format".toList),
            (some "locale".toList, .name localeParameter)])
        (.conditional (.binary .less (.attribute (.name p) "hour".toList) (.number 12))
          (.text DayPeriod.am.key) (.text DayPeriod.pm.key))).eval s) := by
  obtain ⟨db, code, l, hcode, hdb, hl, hnames⟩ := hn
  obtain ⟨entries, hentries, hlookup⟩ := l.lookup_period w (LocaleContext.dayPeriod i)
  have harguments : Expr.evalArguments s
      [(some "width".toList, .text w.name), (some "context".toList, .text "format".toList),
        (some "locale".toList, .name localeParameter)] =
        .ok [(some "width".toList, .text w.name), (some "context".toList, .text "format".toList),
          (some "locale".toList, .text code)] :=
    Expr.evalArguments_cons rfl (Expr.evalArguments_cons rfl (Expr.evalArguments_cons hcode rfl))
  have hkey : (Expr.conditional (.binary .less (.attribute (.name p) "hour".toList) (.number 12))
      (.text DayPeriod.am.key) (.text DayPeriod.pm.key)).eval s =
        .ok (.atom (.text (LocaleContext.dayPeriod i).key)) := by
    have hhour : Expr.Counts s (.attribute (.name p) "hour".toList) i.time.hour :=
      Expr.counts_attribute hp rfl
    rw [Expr.eval_conditional (hhour.less 12)]
    unfold LocaleContext.dayPeriod Instant.isMorning
    by_cases hm : i.time.hour < 12
    · simp only [hm, decide_true, if_true]
      rfl
    · simp only [hm, decide_false, Bool.false_eq_true, if_false]
      rfl
  have hcall := Expr.eval_namesCall hdb harguments rfl hl rfl hentries
  rw [hnames] at hlookup
  simp only [LocaleContext.name, LocaleContext.periodName, Width.ofName?_name]
  cases hname : x.locale.names.period w (LocaleContext.dayPeriod i) with
  | some t =>
    rw [hname] at hlookup
    rw [Expr.eval_index hcall hkey hlookup]
    rfl
  | none =>
    rw [hname] at hlookup
    rw [Expr.eval_index_missing hcall hkey hlookup]
    trivial

variable {name description source : String} {field : CalendarField} {w : Width}

/-- A name in a locale. -/
theorem hasTwin_localized {kind : LocaleContext.NameKind} {width : Width} {cut : Text → Text}
    (t u : Text) (ls ms : List Lexeme) {e : Text → Expr}
    (hrender : ∀ q, substitute (bindings q) source.toList = .ok (t ++ (q ++ '.' :: u)))
    (ht : settledFrom? 0 t = some ls) (hu : ofTextFrom? 0 u = some ms)
    (he : ∀ p, Expr.ofLexemes? Expr.template? (ls ++ (.name p :: .mark '.' :: ms)) = some (e p))
    (hfree : ∀ p, (e p).freeNames = [datesModule, localeParameter, p])
    (hvalue : ∀ s p i x, Scope.find s p = .ok (.instant i) →
      s.OffersNames (LocaleContext.locale x).names →
      Agrees ((fun t => .text (cut t)) <$> x.name kind i width.name) ((e p).eval s)) :
    (localized name field description source kind width cut).HasTwin := by
  intro q p hp
  refine ⟨t ++ (q ++ '.' :: u), e p, ?_, read?_around hp ht hu (he p), ?_, ?_⟩
  · simp only [renderSource, localized, hrender]
    rfl
  · rw [hfree]
    simp [Scope.usedNames]
  · intro s i x h
    exact hvalue s p i x h.instant (h.names (by simp [localized]))

/-! ## Sources -/

/-- A call for names of a width, up to the bracket in front of the key. -/
def namesText (kind : LocaleContext.NameKind) (w : Width) : Text :=
  "dates.".toList ++ (kind.getter ++ ("(\"".toList ++ (w.name ++ "\", locale=locale)[".toList)))

/-- The lexemes of that call. -/
def namesLexemes (kind : LocaleContext.NameKind) (w : Width) : List Lexeme :=
  [.name datesModule, .mark '.', .name kind.getter, .mark '(', .string w.name, .mark ',',
    .name localeParameter, .mark '=', .name localeParameter, .mark ')', .mark '[']

theorem settledFrom?_namesText {kind : LocaleContext.NameKind} (hkind : kind ≠ .period)
    (w : Width) : settledFrom? 0 (namesText kind w) = some (namesLexemes kind w) := by
  have hall : ∀ k ∈ [LocaleContext.NameKind.weekday, .month],
      ∀ w ∈ [Width.abbreviated, .wide, .narrow],
        settledFrom? 0 (namesText k w) = some (namesLexemes k w) := by decide +kernel
  refine hall kind ?_ w ?_
  · cases kind <;> simp at hkind ⊢
  · cases w <;> simp

theorem hasTwin_weekday
    (hrender : ∀ q, substitute (bindings q) source.toList =
      .ok (namesText .weekday w ++ (q ++ '.' :: ("weekday".toList ++ '(' :: ")]".toList)))) :
    (localized name field description source .weekday w id).HasTwin := by
  have hweekday := isVariable_attribute "weekday".toList (by simp [attributes])
  refine hasTwin_localized _ _ _ [.name "weekday".toList, .mark '(', .mark ')', .mark ']'] hrender
    (settledFrom?_namesText (by simp) w)
    (ofTextFrom?_variable_of hweekday (endsWord_cons (by decide) _) ?_)
    (fun _ => rfl) (fun _ => rfl) fun s p i x hp hn => ?_
  · repeat rw [String.toList_ofList]
    rfl
  · have hname : x.name .weekday i w.name = .ok _ := x.weekdayName_of_width i (.common w)
    rw [hname]
    exact agrees_of_eval (eval_weekdayName hp hn w) rfl

/-- The first characters of the name of a day. -/
theorem hasTwin_weekdayStart
    (hrender : ∀ q, substitute (bindings q) source.toList =
      .ok (namesText .weekday w ++ (q ++ '.' :: ("weekday".toList ++ '(' :: ")][:2]".toList)))) :
    (localized name field description source .weekday w fun t => t.take 2).HasTwin := by
  have hweekday := isVariable_attribute "weekday".toList (by simp [attributes])
  refine hasTwin_localized _ _ _
    [.name "weekday".toList, .mark '(', .mark ')', .mark ']', .mark '[', .mark ':', .number 2,
      .mark ']'] hrender (settledFrom?_namesText (by simp) w)
    (ofTextFrom?_variable_of hweekday (endsWord_cons (by decide) _) ?_)
    (fun _ => rfl) (fun _ => rfl) fun s p i x hp hn => ?_
  · repeat rw [String.toList_ofList]
    rfl
  · have hname : x.name .weekday i w.name = .ok _ := x.weekdayName_of_width i (.common w)
    rw [hname]
    exact agrees_of_eval (Expr.eval_leading (eval_weekdayName hp hn w) 2) rfl

theorem hasTwin_month
    (hrender : ∀ q, substitute (bindings q) source.toList =
      .ok (namesText .month w ++ (q ++ '.' :: ("month".toList ++ [']'])))) :
    (localized name field description source .month w id).HasTwin := by
  have hmonth := isVariable_attribute "month".toList (by simp [attributes])
  refine hasTwin_localized _ _ _ [.name "month".toList, .mark ']'] hrender
    (settledFrom?_namesText (by simp) w)
    (ofTextFrom?_variable_of hmonth (endsWord_cons (by decide) _) rfl)
    (fun _ => rfl) (fun _ => rfl) fun s p i x hp hn => ?_
  have hname : x.name .month i w.name = .ok _ := x.monthName_of_width i w
  rw [hname]
  exact agrees_of_eval (eval_monthName hp hn w) rfl

/-- The lexemes of a call for the halves of the day, up to the test of the hour. -/
def halvesLexemes (w : Width) : List Lexeme :=
  [.name datesModule, .mark '.', .name LocaleContext.NameKind.period.getter, .mark '(',
    .name "width".toList, .mark '=', .string w.name, .mark ',', .name "context".toList, .mark '=',
    .string "format".toList, .mark ',', .name localeParameter, .mark '=', .name localeParameter,
    .mark ')', .mark '[', .string "am".toList, .ifWord]

theorem hasTwin_period (t : Text)
    (hrender : ∀ q, substitute (bindings q) source.toList =
      .ok (t ++ (q ++ '.' :: ("hour".toList ++ ' ' :: "< 12 else \"pm\"]".toList))))
    (ht : settledFrom? 0 t = some (halvesLexemes w)) :
    (localized name field description source .period w id).HasTwin := by
  have hhour := isVariable_attribute "hour".toList (by simp [attributes])
  refine hasTwin_localized t _ _
    [.name "hour".toList, .mark '<', .number 12, .elseWord, .string "pm".toList, .mark ']']
    hrender ht (ofTextFrom?_variable_of hhour (endsWord_blank _) ?_) (fun _ => rfl)
    (fun _ => rfl) fun s p i x hp hn => ?_
  · repeat rw [String.toList_ofList]
    rfl
  · exact agrees_periodName hp hn w

set_option maxRecDepth 1000 in
theorem hasTwin_half :
    (localized name field description
      ("dates.get_period_names(width=\"abbreviated\", context=\"format\", locale=$locale)"
        ++ "[\"am\" if $date.hour < 12 else \"pm\"]") .period .abbreviated id).HasTwin := by
  refine hasTwin_period ("dates.get_period_names(width=\"abbreviated\", context=\"format\", "
    ++ "locale=locale)[\"am\" if ").toList (fun _ => ?_) ?_
  · rw [String.toList_append, String.toList_append]
    repeat rw [String.toList_ofList]
    rfl
  · rw [String.toList_append]
    repeat rw [String.toList_ofList]
    decide +kernel

/-! ## The built-in symbols -/

theorem hasTwin_builtin : ∀ d ∈ builtin, HasTwin d := by
  -- each attribute by itself, to be named below
  have hattributes : ∀ x ∈ attributes, x ∈ attributes := fun _ hx => hx
  simp only [attributes, List.forall_mem_cons] at hattributes
  obtain ⟨hday, hyear, hmonth, hhour, hminute, hsecond, -⟩ := hattributes
  have hdigits : ∀ c ∈ "02d".toList, isWordChar c = true := List.all_eq_true.mp (by decide)
  have hdigits' : ∀ c ∈ "04d".toList, isWordChar c = true := List.all_eq_true.mp (by decide)
  simp only [builtin, List.forall_mem_cons]
  refine ⟨hasTwin_attribute hday ?_ fun _ => rfl,
    hasTwin_paddedAttribute hday "02d".toList ?_ hdigits rfl fun _ => rfl,
    hasTwin_ordinal, hasTwin_occurrence,
    hasTwin_weekday ?_, hasTwin_weekday ?_, hasTwin_weekday ?_, hasTwin_weekdayStart ?_,
    hasTwin_attribute hyear ?_ fun _ => rfl, hasTwin_paddedYearOfCentury,
    hasTwin_paddedAttribute hyear "04d".toList ?_ hdigits' rfl fun _ => rfl,
    hasTwin_attribute hmonth ?_ fun _ => rfl,
    hasTwin_paddedAttribute hmonth "02d".toList ?_ hdigits rfl fun _ => rfl,
    hasTwin_month ?_, hasTwin_month ?_, hasTwin_month ?_,
    hasTwin_hourOfHalf, hasTwin_paddedHourOfHalf,
    hasTwin_attribute hhour ?_ fun _ => rfl,
    hasTwin_paddedAttribute hhour "02d".toList ?_ hdigits rfl fun _ => rfl,
    hasTwin_half,
    hasTwin_attribute hminute ?_ fun _ => rfl,
    hasTwin_paddedAttribute hminute "02d".toList ?_ hdigits rfl fun _ => rfl,
    hasTwin_attribute hsecond ?_ fun _ => rfl,
    hasTwin_paddedAttribute hsecond "02d".toList ?_ hdigits rfl fun _ => rfl,
    hasTwin_milliseconds, by simp⟩
  -- what is left are the sources with a word for the instant put in
  all_goals
    intro q
    try unfold namesText LocaleContext.NameKind.getter Width.name
    repeat rw [String.toList_ofList]
    rfl

end SymbolDefinition

end DatePattern
