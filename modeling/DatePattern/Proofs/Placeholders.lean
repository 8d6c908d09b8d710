/-
  What replacing the placeholders of a text comes to.

  A text is replaced from the left: each character outside of placeholders stands for itself, and
  each placeholder for a dollar sign or for the text that its name is bound to (`Replaces`).  Which
  characters belong to a placeholder does not depend on what is bound.

  * `substituteFrom_eq_ok_iff`: the first piece, and the rest.
  * `exists_substituteFrom`: success depends on which names are bound, and not on the texts.
  * `mem_of_substituteFrom`: every character comes from the text or from a bound text.
-/
import DatePattern.Proofs.Success
import DatePattern.Text.Placeholder

namespace DatePattern.Text

variable {bindings bindings' : List (Text × Text)}

/-- What is put in the place of a character in front of the rest of a text, and how many characters
of the rest go with it. -/
inductive Replaces (bindings : List (Text × Text)) : Char → Text → Text → Nat → Prop
  | char {c : Char} {rest : Text} (hc : c ≠ '$') : Replaces bindings c rest [c] 0
  | dollar {rest : Text} {n : Nat} (h : placeholder? rest = some (.dollar, n)) :
    Replaces bindings '$' rest ['$'] n
  | bound {rest name text : Text} {n : Nat} (h : placeholder? rest = some (.name name, n))
    (hname : bindings.lookup name = some text) : Replaces bindings '$' rest text n

theorem substituteFrom_eq_ok_iff {done rest u : Text} {c : Char} :
    substituteFrom bindings done 0 (c :: rest) = .ok u ↔ ∃ piece n v,
      Replaces bindings c rest piece n ∧ substituteFrom bindings (c :: done) n rest = .ok v ∧
        u = piece ++ v := by
  constructor
  · intro h
    rw [substituteFrom] at h
    by_cases hc : c = '$'
    · subst hc
      rw [if_pos rfl] at h
      rcases hplaceholder : placeholder? rest with _ | ⟨_ | name, n⟩
      · rw [hplaceholder] at h
        cases h
      · rw [hplaceholder] at h
        obtain ⟨v, hv, rfl⟩ := map_eq_ok_iff.mp h
        exact ⟨['$'], n, v, .dollar hplaceholder, hv, rfl⟩
      · rw [hplaceholder] at h
        dsimp only at h
        cases hname : bindings.lookup name with
        | none =>
          rw [hname] at h
          cases h
        | some text =>
          rw [hname] at h
          obtain ⟨v, hv, rfl⟩ := map_eq_ok_iff.mp h
          exact ⟨text, n, v, .bound hplaceholder hname, hv, rfl⟩
    · rw [if_neg hc] at h
      obtain ⟨v, hv, rfl⟩ := map_eq_ok_iff.mp h
      exact ⟨[c], 0, v, .char hc, hv, rfl⟩
  · rintro ⟨piece, n, v, hpiece, hv, rfl⟩
    rw [substituteFrom]
    cases hpiece with
    | char hc =>
      rw [if_neg hc]
      exact map_eq_ok_iff.mpr ⟨v, hv, rfl⟩
    | dollar h =>
      rw [if_pos rfl, h]
      exact map_eq_ok_iff.mpr ⟨v, hv, rfl⟩
    | bound h hname =>
      rw [if_pos rfl, h]
      dsimp only
      rw [hname]
      exact map_eq_ok_iff.mpr ⟨v, hv, rfl⟩

/-- Where the same names are bound to other texts, other texts are put in, in the same places. -/
theorem Replaces.exists_of_bound {c : Char} {rest piece : Text} {n : Nat}
    (h : ∀ name, (bindings.lookup name).isSome = true → (bindings'.lookup name).isSome = true)
    (hpiece : Replaces bindings c rest piece n) : ∃ piece', Replaces bindings' c rest piece' n := by
  cases hpiece with
  | char hc => exact ⟨[c], .char hc⟩
  | dollar hplaceholder => exact ⟨['$'], .dollar hplaceholder⟩
  | @bound _ name text _ hplaceholder hname =>
    obtain ⟨text', hname'⟩ := Option.isSome_iff_exists.mp (h name (hname ▸ rfl))
    exact ⟨text', .bound hplaceholder hname'⟩

/-- Whether placeholders can be replaced depends on the names that are bound, and not on the texts
that they are bound to. -/
theorem exists_substituteFrom
    (h : ∀ name, (bindings.lookup name).isSome = true → (bindings'.lookup name).isSome = true)
    {done t u : Text} {skip : Nat} (hu : substituteFrom bindings done skip t = .ok u) :
    ∃ u', substituteFrom bindings' done skip t = .ok u' := by
  induction t generalizing done skip u with
  | nil => cases skip <;> exact ⟨[], rfl⟩
  | cons c rest ih =>
    cases skip with
    | succ skip => exact ih hu
    | zero =>
      obtain ⟨piece, n, v, hpiece, hv, rfl⟩ := substituteFrom_eq_ok_iff.mp hu
      obtain ⟨piece', hpiece'⟩ := hpiece.exists_of_bound h
      obtain ⟨v', hv'⟩ := ih hv
      exact ⟨_, substituteFrom_eq_ok_iff.mpr ⟨piece', n, v', hpiece', hv', rfl⟩⟩

theorem Replaces.mem {c d : Char} {rest piece : Text} {n : Nat}
    (h : Replaces bindings c rest piece n) (hd : d ∈ piece) :
    d = c ∨ ∃ b ∈ bindings, d ∈ b.2 := by
  cases h with
  | char hc => exact Or.inl (List.mem_singleton.mp hd)
  | dollar hplaceholder => exact Or.inl (List.mem_singleton.mp hd)
  | bound hplaceholder hname =>
    obtain ⟨l, r, heq, -⟩ := List.lookup_eq_some_iff.mp hname
    exact Or.inr ⟨_, heq ▸ List.mem_append_right l List.mem_cons_self, hd⟩

/-- A character of a text in which placeholders have been replaced stood there before, or in one of
the texts that have been put in. -/
theorem mem_of_substituteFrom {done t u : Text} {skip : Nat}
    (hu : substituteFrom bindings done skip t = .ok u) {d : Char} (hd : d ∈ u) :
    d ∈ t ∨ ∃ b ∈ bindings, d ∈ b.2 := by
  induction t generalizing done skip u with
  | nil => cases skip <;> cases hu <;> cases hd
  | cons c rest ih =>
    cases skip with
    | succ skip => exact (ih hu hd).imp_left (List.mem_cons_of_mem c)
    | zero =>
      obtain ⟨piece, n, v, hpiece, hv, rfl⟩ := substituteFrom_eq_ok_iff.mp hu
      rcases List.mem_append.mp hd with hd | hd
      · exact (hpiece.mem hd).imp_left fun heq => List.mem_cons.mpr (Or.inl heq)
      · exact (ih hv hd).imp_left (List.mem_cons_of_mem c)

end DatePattern.Text
