/-
  Values of the expressions that symbols are described by.

  `Counts` says that the value of an expression is a natural number, and there is a lemma for each
  operation on numbers.  Names of days, months and halves of the day are looked up in the dictionary
  of a locale, in which each of them stands under its own key (`lookup_weekday`, `lookup_month`,
  `lookup_period`).
-/
import DatePattern.Expression.Eval
import DatePattern.Symbol.Name

namespace DatePattern

open Text

namespace Expr

variable {s : Scope}

/-! ## One step -/

variable {e f key a b test yes no : Expr} {v w : Value}

theorem eval_attribute (he : e.eval s = .ok v) (x : Text) :
    (Expr.attribute e x).eval s = v.attribute x := by
  change (e.eval s >>= fun v => v.attribute x) = _
  rw [he]
  rfl

theorem eval_call {arguments : List (Option Text × Expr)} {as : Arguments}
    (hf : f.eval s = .ok v) (has : evalArguments s arguments = .ok as) :
    (call f arguments).eval s = v.call s as := by
  change (f.eval s >>= fun v => evalArguments s arguments >>= fun as => v.call s as) = _
  rw [hf, has]
  rfl

theorem eval_subscript (he : e.eval s = .ok v) (hk : key.eval s = .ok w) :
    (index e key).eval s = v.subscript w := by
  change (e.eval s >>= fun v => key.eval s >>= fun k => v.subscript k) = _
  rw [he, hk]
  rfl

theorem eval_start (he : e.eval s = .ok v) (count : Nat) :
    (leading e count).eval s = v.leading count := by
  change (e.eval s >>= fun v => v.leading count) = _
  rw [he]
  rfl

theorem eval_binary (ha : a.eval s = .ok v) (hb : b.eval s = .ok w) (op : Operator) :
    (binary op a b).eval s = op.apply v w := by
  change (a.eval s >>= fun v => b.eval s >>= fun w => op.apply v w) = _
  rw [ha, hb]
  rfl

theorem eval_orElse (ha : a.eval s = .ok v) :
    (orElse a b).eval s = if v.isTrue then .ok v else b.eval s := by
  change (a.eval s >>= fun v => if v.isTrue then pure v else b.eval s) = _
  rw [ha]
  rfl

theorem eval_choice (ht : test.eval s = .ok v) :
    (conditional test yes no).eval s = if v.isTrue then yes.eval s else no.eval s := by
  change (test.eval s >>= fun v => if v.isTrue then yes.eval s else no.eval s) = _
  rw [ht]
  rfl

theorem eval_padding (he : e.eval s = .ok v) (width : Nat) :
    (padded e width).eval s = v.padded width := by
  change (e.eval s >>= fun v => v.padded width) = _
  rw [he]
  rfl

theorem eval_joined {parts : List Expr} {t : Text} (h : evalParts s parts = .ok t) :
    (joined parts).eval s = .ok (.text t) := by
  change (evalParts s parts >>= fun t => pure (Value.text t)) = _
  rw [h]
  rfl

theorem evalArguments_cons {label : Option Text} {rest : List (Option Text × Expr)}
    {as : Arguments} (he : e.eval s = .ok v) (hrest : evalArguments s rest = .ok as) :
    evalArguments s ((label, e) :: rest) = .ok ((label, v) :: as) := by
  change (e.eval s >>= fun v => evalArguments s rest >>= fun vs => pure ((label, v) :: vs)) = _
  rw [he, hrest]
  rfl

theorem evalParts_cons {rest : List Expr} {t u : Text} (he : e.eval s = .ok v)
    (hv : v.shown = .ok t) (hrest : evalParts s rest = .ok u) :
    evalParts s (e :: rest) = .ok (t ++ u) := by
  change (e.eval s >>= fun v => v.shown >>= fun t => evalParts s rest >>= fun ts =>
    pure (t ++ ts)) = _
  rw [he]
  change (v.shown >>= fun t => evalParts s rest >>= fun ts => pure (t ++ ts)) = _
  rw [hv, hrest]
  rfl

/-- Parts with the same outcomes, each in its own scope, make the same text. -/
theorem evalParts_eq {s' : Scope} {es es' : List Expr}
    (h : es'.map (eval s') = es.map (eval s)) :
    evalParts s' es' = evalParts s es := by
  induction es generalizing es' with
  | nil =>
    cases List.map_eq_nil_iff.mp h
    rfl
  | cons e es ih =>
    cases es' with
    | nil => cases h
    | cons e' es' =>
      obtain ⟨hfirst, hrest⟩ := List.cons.inj h
      change (e'.eval s' >>= fun v => v.shown >>= fun t => evalParts s' es' >>= fun ts =>
          pure (t ++ ts)) =
        (e.eval s >>= fun v => v.shown >>= fun t => evalParts s es >>= fun ts => pure (t ++ ts))
      rw [hfirst, ih hrest]

/-! ## Numbers -/

/-- An expression whose value is a natural number. -/
def Counts (s : Scope) (e : Expr) (n : Nat) : Prop := e.eval s = .ok (.number n)

theorem counts_number (n : Nat) : Counts s (.number n) n := rfl

theorem counts_attribute {p x : Text} {i : Instant} {n : Nat} (h : s.find p = .ok (.instant i))
    (hx : i.attribute? x = some (.number n)) : Counts s (.attribute (.name p) x) n := by
  have hname : (Expr.name p).eval s = .ok (.instant i) := h
  unfold Counts
  rw [eval_attribute hname]
  simp only [Value.attribute, hx]

theorem Counts.binary {n k m : Nat} {op : Operator} (h : Counts s e n)
    (hop : op.apply (.number n) (.number k) = .ok (.number m)) :
    Counts s (.binary op e (.number k)) m := by
  unfold Counts
  rw [eval_binary h (counts_number k)]
  exact hop

theorem Counts.mod {n k : Nat} (h : Counts s e n) (hk : 0 < k) :
    Counts s (.binary .mod e (.number k)) (n % k) := by
  have hne : (k : Int) ≠ 0 := by omega
  have hmod : (n : Int).fmod k = ((n % k : Nat) : Int) := by
    rw [Int.fmod_eq_emod_of_nonneg _ (by omega), Int.natCast_emod]
  refine h.binary ?_
  show (if (k : Int) = 0 then _ else Except.ok (Value.number ((n : Int).fmod k))) = _
  rw [if_neg hne, hmod]

theorem Counts.floorDiv {n k : Nat} (h : Counts s e n) (hk : 0 < k) :
    Counts s (.binary .floorDiv e (.number k)) (n / k) := by
  have hne : (k : Int) ≠ 0 := by omega
  have hdiv : (n : Int).fdiv k = ((n / k : Nat) : Int) := by
    rw [Int.fdiv_eq_ediv_of_nonneg _ (by omega), Int.natCast_ediv]
  refine h.binary ?_
  show (if (k : Int) = 0 then _ else Except.ok (Value.number ((n : Int).fdiv k))) = _
  rw [if_neg hne, hdiv]

theorem Counts.sub {n k : Nat} (h : Counts s e n) (hk : k ≤ n) :
    Counts s (.binary .sub e (.number k)) (n - k) := by
  refine h.binary ?_
  show Except.ok (Value.number ((n : Int) - k)) = _
  rw [Int.natCast_sub hk]

theorem Counts.add {n : Nat} (h : Counts s e n) (k : Nat) :
    Counts s (.binary .add e (.number k)) (n + k) := by
  refine h.binary ?_
  show Except.ok (Value.number ((n : Int) + k)) = _
  rw [Int.natCast_add]

theorem Counts.orElse {n : Nat} (h : Counts s e n) (k : Nat) :
    Counts s (.orElse e (.number k)) (if n = 0 then k else n) := by
  unfold Counts
  rw [eval_orElse h]
  by_cases hn : n = 0
  · subst hn
    exact (counts_number k : Counts s (.number k) k)
  · have htrue : (Value.number n).isTrue = true := by simp [Value.isTrue, Value.number, hn]
    rw [if_neg hn, if_pos htrue]

theorem Counts.less {n : Nat} (h : Counts s e n) (k : Nat) :
    (Expr.binary .less e (.number k)).eval s = .ok (.atom (.truth (decide (n < k)))) := by
  rw [eval_binary h (counts_number k)]
  show Except.ok (Value.atom (.truth (decide ((n : Int) < k)))) = _
  simp only [Int.ofNat_lt]

theorem eval_padded {n : Nat} (h : Counts s e n) (width : Nat) :
    (joined [.padded e width]).eval s = .ok (.text (zeroPadded width n)) := by
  have hpadded : (padded e width).eval s = .ok (.text (zeroPadded width n)) := by
    rw [eval_padding h]
    simp only [Value.padded, Value.number, zeroPaddedInt_natCast]
  have hparts : evalParts s [.padded e width] = .ok (zeroPadded width n ++ []) :=
    evalParts_cons hpadded (Value.shown_text _) rfl
  rw [eval_joined hparts, List.append_nil]

theorem eval_str (hstr : s.find "str".toList = .ok (.callable .str)) {n : Nat}
    (h : Counts s e n) :
    (call (.name "str".toList) [(none, e)]).eval s = .ok (.text (ofNat n)) := by
  have hname : (Expr.name "str".toList).eval s = .ok (.callable .str) := hstr
  rw [eval_call hname (evalArguments_cons h rfl)]
  simp only [Value.call, Callable.apply, Value.shown_number, Functor.map, Except.map, ofInt_natCast]

/-! ## Subscripts and choices -/

theorem eval_index {entries : List (Atom × Atom)} {k a : Atom}
    (he : e.eval s = .ok (.mapping entries)) (hk : key.eval s = .ok (.atom k))
    (ha : entries.lookup k = some a) : (index e key).eval s = .ok (.atom a) := by
  rw [eval_subscript he hk]
  simp only [Value.subscript, ha]

theorem eval_index_missing {entries : List (Atom × Atom)} {k : Atom}
    (he : e.eval s = .ok (.mapping entries)) (hk : key.eval s = .ok (.atom k))
    (ha : entries.lookup k = none) : (index e key).eval s = .error (.missingKey k) := by
  rw [eval_subscript he hk]
  simp only [Value.subscript, ha]

theorem eval_leading {t : Text} (he : e.eval s = .ok (.text t)) (count : Nat) :
    (leading e count).eval s = .ok (.text (t.take count)) :=
  eval_start he count

theorem eval_conditional {b : Bool} (h : test.eval s = .ok (.atom (.truth b))) :
    (conditional test yes no).eval s = if b then yes.eval s else no.eval s := by
  rw [eval_choice h]
  cases b <;> rfl

/-! ## Calendar names -/

/-- The call that asks for the names of some kind, or anything else that is called so. -/
def namesCall (kind : LocaleContext.NameKind) (arguments : List (Option Text × Expr)) : Expr :=
  .call (.attribute (.name datesModule) kind.getter) arguments

theorem eval_namesCall {kind : LocaleContext.NameKind} {arguments : List (Option Text × Expr)}
    {as : Arguments} {db : LocaleDatabase} {code width : Text} {l : Locale}
    {entries : List (Atom × Atom)} (hdb : s.find datesModule = .ok (.calendar db))
    (has : evalArguments s arguments = .ok as)
    (hcode : as.find? 2 "locale".toList = some (.text code))
    (hl : db.choose (some (.text code)) = .ok l)
    (hwidth : chooseWidth (as.find? 0 "width".toList) = .ok width)
    (hentries : l.entries? kind width = some entries) :
    (namesCall kind arguments).eval s = .ok (.mapping entries) := by
  have hattribute : (Value.calendar db).attribute kind.getter =
      .ok (.callable (.names kind db)) := by
    cases kind <;> rfl
  have hname : (Expr.name datesModule).eval s = .ok (.calendar db) := hdb
  have hcallee := (eval_attribute hname kind.getter).trans hattribute
  rw [namesCall, eval_call hcallee has]
  simp only [Value.call, Callable.apply, hcode, hl, hwidth, hentries, bind, Except.bind, pure,
    Except.pure]

end Expr

namespace Locale

theorem lookup_map_of_injective {α : Type} {as : List α} (key : α → Atom) {value : α → Atom}
    (hinj : ∀ a b, key a = key b → a = b) {a : α} (ha : a ∈ as) :
    (as.map fun a => (key a, value a)).lookup (key a) = some (value a) := by
  induction as with
  | nil => cases ha
  | cons b as ih =>
    rw [List.map_cons, List.lookup_cons]
    by_cases hb : a = b
    · simp [hb]
    · have hkey : (key a == key b) = false := by simpa using fun h => hb (hinj a b h)
      rw [hkey]
      exact ih ((List.mem_cons.mp ha).resolve_left hb)

theorem lookup_weekday (l : Locale) (w : DayWidth) (d : Fin 7) :
    ∃ entries, l.entries? .weekday w.name = some entries ∧
      entries.lookup (.number d.val) = some (.text (l.names.weekday w d)) := by
  refine ⟨_, by rw [entries?, DayWidth.ofName?_name]; rfl, ?_⟩
  refine lookup_map_of_injective (fun d : Fin 7 => .number d.val) ?_ (List.mem_finRange d)
  intro a b h
  injection h with h
  omega

theorem lookup_month (l : Locale) (w : Width) (m : Fin 12) :
    ∃ entries, l.entries? .month w.name = some entries ∧
      entries.lookup (.number (m.val + 1 : Nat)) = some (.text (l.names.month w m)) := by
  refine ⟨_, by rw [entries?, Width.ofName?_name]; rfl, ?_⟩
  refine lookup_map_of_injective (fun m : Fin 12 => .number (m.val + 1 : Nat)) ?_
    (List.mem_finRange m)
  intro a b h
  injection h with h
  omega

theorem lookup_period (l : Locale) (w : Width) (p : DayPeriod) :
    ∃ entries, l.entries? .period w.name = some entries ∧
      entries.lookup (.text p.key) = (l.names.period w p).map .text := by
  refine ⟨_, by rw [entries?, Width.ofName?_name]; rfl, ?_⟩
  have hpa : (Atom.text DayPeriod.pm.key == Atom.text DayPeriod.am.key) = false := by decide
  have hap : (Atom.text DayPeriod.am.key == Atom.text DayPeriod.pm.key) = false := by decide
  cases ham : l.names.period w .am <;> cases hpm : l.names.period w .pm <;> cases p <;>
    simp [ham, hpm, List.lookup_cons, hpa, hap]

end Locale

end DatePattern
