/-
  The names that an expression mentions.

  Unless one of them stands for `dir`, the value of an expression depends on a scope only through
  these names (`Expr.eval_congr`), so scopes that find the same values under them give the same
  outcome, be it a value or a fault.  Attributes and the labels of arguments are no names in this
  sense.

  The condition on `dir` is one on names alone: no operation gives this function back, so what is
  called is `dir` only where a name stands for it (`Expr.ne_dir_of_eval`).

  The induction is on the expression; lists of arguments, elements, entries and parts each have a
  statement of their own beside it.
-/
import DatePattern.Expression.Eval
import DatePattern.Proofs.Success

namespace DatePattern

open Text

/-! ## Functions that look at the scope -/

theorem Callable.eq_of_builtin?_dir {x : Text} (h : builtin? x = some .dir) : x = "dir".toList := by
  unfold builtin? at h
  split at h
  · cases h
  split at h
  · cases h
  split at h
  · assumption
  · cases h

theorem Instant.ne_dir_of_attribute? {i : Instant} {x : Text} {w : Value}
    (h : i.attribute? x = some w) : w ≠ .callable .dir := by
  rintro rfl
  unfold attribute? at h
  repeat' split at h
  all_goals cases h

theorem Value.ne_dir_of_attribute {v w : Value} {x : Text} (h : v.attribute x = .ok w) :
    w ≠ .callable .dir := by
  rintro rfl
  unfold Value.attribute at h
  cases v with
  | instant i =>
    cases hi : i.attribute? x with
    | none => simp [hi] at h
    | some w =>
      have hw := Instant.ne_dir_of_attribute? hi
      simp only [hi] at h
      exact hw (Except.ok.inj h)
  | calendar db =>
    cases hk : [LocaleContext.NameKind.weekday, .month, .period].find? fun kind =>
        LocaleContext.NameKind.getter kind = x with
    | none => simp [hk] at h
    | some kind => simp [hk] at h
  | mapping entries =>
    dsimp only at h
    split at h
    · rename_i w hw
      split at hw <;> cases hw
      cases h
    · cases h
  | _ => cases h

theorem Callable.ne_dir_of_apply {s : Scope} {f : Callable} {as : Arguments} {w : Value}
    (h : f.apply s as = .ok w) : w ≠ .callable .dir := by
  rintro rfl
  cases f with
  | names kind db =>
    obtain ⟨l, -, h⟩ := bind_eq_ok_iff.mp h
    obtain ⟨width, -, h⟩ := bind_eq_ok_iff.mp h
    split at h <;> cases h
  | _ =>
    simp only [apply] at h
    split at h
    all_goals
      try obtain ⟨_, -, h⟩ := map_eq_ok_iff.mp h
      cases h

namespace Expr

mutual

/-- The names that an expression mentions, repeats kept. -/
def freeNames : Expr → List Text
  | .number _ => []
  | .text _ => []
  | .name x => [x]
  | .attribute e _ => freeNames e
  | .call f arguments => freeNames f ++ argumentNames arguments
  | .index e key => freeNames e ++ freeNames key
  | .leading e _ => freeNames e
  | .binary _ a b => freeNames a ++ freeNames b
  | .orElse a b => freeNames a ++ freeNames b
  | .conditional test yes no => freeNames test ++ (freeNames yes ++ freeNames no)
  | .tuple elements => elementNames elements
  | .dictionary entries => entryNames entries
  | .joined parts => elementNames parts
  | .padded e _ => freeNames e

/-- The names that arguments mention. -/
def argumentNames : List (Option Text × Expr) → List Text
  | [] => []
  | (_, e) :: rest => freeNames e ++ argumentNames rest

/-- The names that elements or parts mention. -/
def elementNames : List Expr → List Text
  | [] => []
  | e :: rest => freeNames e ++ elementNames rest

/-- The names that entries mention. -/
def entryNames : List (Nat × Expr) → List Text
  | [] => []
  | (_, e) :: rest => freeNames e ++ entryNames rest

end

/-- Both scopes find the same under these names, and it is not the function that looks at the whole
scope. -/
def AgreeOn (s s' : Scope) (names : List Text) : Prop :=
  ∀ x ∈ names, s.find x = s'.find x ∧ s.find x ≠ .ok (.callable .dir)

variable {s s' : Scope} {xs ys : List Text}

theorem AgreeOn.left (h : AgreeOn s s' (xs ++ ys)) : AgreeOn s s' xs :=
  fun x hx => h x (List.mem_append_left ys hx)

theorem AgreeOn.right (h : AgreeOn s s' (xs ++ ys)) : AgreeOn s s' ys :=
  fun x hx => h x (List.mem_append_right xs hx)

/-- An expression has the value `dir` only where one of its names has. -/
theorem ne_dir_of_eval : ∀ (e : Expr) {w : Value},
    (∀ x ∈ e.freeNames, s.find x ≠ .ok (.callable .dir)) → e.eval s = .ok w → w ≠ .callable .dir
  | .number _, _, _, h => by cases h; nofun
  | .text _, _, _, h => by cases h; nofun
  | .name x, _, hnames, h => fun hw => hnames x (List.mem_singleton_self x) (hw ▸ h)
  | .attribute _ _, _, _, h => by
    obtain ⟨v, -, h⟩ := bind_eq_ok_iff.mp h
    exact Value.ne_dir_of_attribute h
  | .call _ _, _, _, h => by
    obtain ⟨v, -, h⟩ := bind_eq_ok_iff.mp h
    obtain ⟨as, -, h⟩ := bind_eq_ok_iff.mp h
    cases v with
    | callable f => exact Callable.ne_dir_of_apply h
    | _ => cases h
  | .index _ _, _, _, h => by
    obtain ⟨v, -, h⟩ := bind_eq_ok_iff.mp h
    obtain ⟨k, -, h⟩ := bind_eq_ok_iff.mp h
    unfold Value.subscript at h
    repeat' split at h
    all_goals cases h
    nofun
  | .leading _ _, _, _, h => by
    obtain ⟨v, -, h⟩ := bind_eq_ok_iff.mp h
    unfold Value.leading at h
    split at h <;> cases h
    nofun
  | .binary op _ _, _, _, h => by
    obtain ⟨v, -, h⟩ := bind_eq_ok_iff.mp h
    obtain ⟨w, -, h⟩ := bind_eq_ok_iff.mp h
    unfold Operator.apply at h
    repeat' split at h
    all_goals
      cases h
      try nofun
  | .orElse a b, _, hnames, h => by
    obtain ⟨v, hv, h⟩ := bind_eq_ok_iff.mp h
    split at h
    · cases h
      exact ne_dir_of_eval a (fun x hx => hnames x (List.mem_append_left _ hx)) hv
    · exact ne_dir_of_eval b (fun x hx => hnames x (List.mem_append_right _ hx)) h
  | .conditional test yes no, _, hnames, h => by
    obtain ⟨v, -, h⟩ := bind_eq_ok_iff.mp h
    have hrest : ∀ x ∈ yes.freeNames ++ no.freeNames, s.find x ≠ .ok (.callable .dir) :=
      fun x hx => hnames x (List.mem_append_right _ hx)
    split at h
    · exact ne_dir_of_eval yes (fun x hx => hrest x (List.mem_append_left _ hx)) h
    · exact ne_dir_of_eval no (fun x hx => hrest x (List.mem_append_right _ hx)) h
  | .tuple _, _, _, h => by
    obtain ⟨as, -, h⟩ := bind_eq_ok_iff.mp h
    cases h
    nofun
  | .dictionary _, _, _, h => by
    obtain ⟨as, -, h⟩ := bind_eq_ok_iff.mp h
    cases h
    nofun
  | .joined _, _, _, h => by
    obtain ⟨t, -, h⟩ := bind_eq_ok_iff.mp h
    cases h
    nofun
  | .padded _ _, _, _, h => by
    obtain ⟨v, -, h⟩ := bind_eq_ok_iff.mp h
    unfold Value.padded at h
    split at h <;> cases h
    nofun

/-- In scopes that agree on the names of what is called, a call has the same value. -/
theorem AgreeOn.call_eq {f : Expr} {v : Value} (h : AgreeOn s s' f.freeNames)
    (hv : f.eval s = .ok v) (as : Arguments) : v.call s as = v.call s' as := by
  have hne := ne_dir_of_eval f (fun x hx => (h x hx).2) hv
  cases v with
  | callable g =>
    cases g with
    | dir => exact absurd rfl hne
    | _ => rfl
  | _ => rfl

mutual

/-- Expressions see of a scope only what it has under their names. -/
theorem eval_congr : ∀ e : Expr, AgreeOn s s' e.freeNames → e.eval s = e.eval s'
  | .number _, _ => rfl
  | .text _, _ => rfl
  | .name x, h => (h x (List.mem_singleton_self x)).1
  | .attribute e x, h => by
    change (e.eval s >>= fun v => v.attribute x) = (e.eval s' >>= fun v => v.attribute x)
    rw [eval_congr e h]
  | .call f arguments, h => by
    change (f.eval s >>= fun v => evalArguments s arguments >>= fun as => v.call s as) =
      (f.eval s' >>= fun v => evalArguments s' arguments >>= fun as => v.call s' as)
    rw [← eval_congr f h.left, ← evalArguments_congr arguments h.right]
    cases hv : f.eval s with
    | error fault => rfl
    | ok v =>
      change (evalArguments s arguments >>= fun as => v.call s as) =
        (evalArguments s arguments >>= fun as => v.call s' as)
      exact bind_congr fun as => h.left.call_eq hv as
  | .index e key, h => by
    change (e.eval s >>= fun v => key.eval s >>= fun k => v.subscript k) =
      (e.eval s' >>= fun v => key.eval s' >>= fun k => v.subscript k)
    rw [eval_congr e h.left, eval_congr key h.right]
  | .leading e count, h => by
    change (e.eval s >>= fun v => v.leading count) = (e.eval s' >>= fun v => v.leading count)
    rw [eval_congr e h]
  | .binary op a b, h => by
    change (a.eval s >>= fun v => b.eval s >>= fun w => op.apply v w) =
      (a.eval s' >>= fun v => b.eval s' >>= fun w => op.apply v w)
    rw [eval_congr a h.left, eval_congr b h.right]
  | .orElse a b, h => by
    change (a.eval s >>= fun v => if v.isTrue then pure v else b.eval s) =
      (a.eval s' >>= fun v => if v.isTrue then pure v else b.eval s')
    rw [eval_congr a h.left, eval_congr b h.right]
  | .conditional test yes no, h => by
    change (test.eval s >>= fun v => if v.isTrue then yes.eval s else no.eval s) =
      (test.eval s' >>= fun v => if v.isTrue then yes.eval s' else no.eval s')
    rw [eval_congr test h.left, eval_congr yes h.right.left, eval_congr no h.right.right]
  | .tuple elements, h =>
    congrArg (· >>= fun as => pure (Value.sequence as)) (evalElements_congr elements h)
  | .dictionary entries, h =>
    congrArg (· >>= fun as => pure (Value.mapping as)) (evalEntries_congr entries h)
  | .joined parts, h => congrArg (· >>= fun t => pure (Value.text t)) (evalParts_congr parts h)
  | .padded e width, h => by
    change (e.eval s >>= fun v => v.padded width) = (e.eval s' >>= fun v => v.padded width)
    rw [eval_congr e h]

theorem evalArguments_congr : ∀ arguments : List (Option Text × Expr),
    AgreeOn s s' (argumentNames arguments) →
      evalArguments s arguments = evalArguments s' arguments
  | [], _ => rfl
  | (label, e) :: rest, h => by
    change (e.eval s >>= fun v => evalArguments s rest >>= fun vs => pure ((label, v) :: vs)) =
      (e.eval s' >>= fun v => evalArguments s' rest >>= fun vs => pure ((label, v) :: vs))
    rw [eval_congr e h.left, evalArguments_congr rest h.right]

theorem evalElements_congr : ∀ elements : List Expr, AgreeOn s s' (elementNames elements) →
    evalElements s elements = evalElements s' elements
  | [], _ => rfl
  | e :: rest, h => by
    change (e.eval s >>= fun v => v.toAtom >>= fun a => evalElements s rest >>= fun as =>
        pure (a :: as)) =
      (e.eval s' >>= fun v => v.toAtom >>= fun a => evalElements s' rest >>= fun as =>
        pure (a :: as))
    rw [eval_congr e h.left, evalElements_congr rest h.right]

theorem evalEntries_congr : ∀ entries : List (Nat × Expr), AgreeOn s s' (entryNames entries) →
    evalEntries s entries = evalEntries s' entries
  | [], _ => rfl
  | (n, e) :: rest, h => by
    change (e.eval s >>= fun v => v.toAtom >>= fun a => evalEntries s rest >>= fun as =>
        pure ((Atom.number n, a) :: as)) =
      (e.eval s' >>= fun v => v.toAtom >>= fun a => evalEntries s' rest >>= fun as =>
        pure ((Atom.number n, a) :: as))
    rw [eval_congr e h.left, evalEntries_congr rest h.right]

theorem evalParts_congr : ∀ parts : List Expr, AgreeOn s s' (elementNames parts) →
    evalParts s parts = evalParts s' parts
  | [], _ => rfl
  | e :: rest, h => by
    change (e.eval s >>= fun v => v.shown >>= fun t => evalParts s rest >>= fun ts =>
        pure (t ++ ts)) =
      (e.eval s' >>= fun v => v.shown >>= fun t => evalParts s' rest >>= fun ts =>
        pure (t ++ ts))
    rw [eval_congr e h.left, evalParts_congr rest h.right]

end

end Expr

end DatePattern
