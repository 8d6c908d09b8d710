/-
  Chains of aliases.

  An alias has a target, which may be an alias again, and so on up to the first symbol.  A chain
  that leads to a symbol never comes to a name twice, so a name that is seen again shows that the
  chain has no end.  Following a chain while remembering what has been seen is `Chase`; it ends for
  all aliases, because only so many names can be seen.

  * `LeadsTo.unique`: a chain leads to one symbol at most.
  * `LeadsTo.not_cyclic`: no name on such a chain comes again.
  * `chase_follow`: following ends, with the outcome of `follow`.
  * `follow_eq_ok_iff`: it finds exactly the symbol that the alias leads to.
  * `resolveAlias_eq`: leaping ahead on chains makes no difference.
-/
import DatePattern.Proofs.Success
import DatePattern.Symbol.Table
import Mathlib.Logic.Relation

namespace DatePattern.SymbolTable

variable {canonical : List Text} {next : Text → Option Text} {a b n name target : Text}

/-! ## Where chains lead -/

/-- A step of a chain, which stops at symbols. -/
def AliasStep (canonical : List Text) (next : Text → Option Text) (a b : Text) : Prop :=
  a ∉ canonical ∧ next a = some b

/-- The chain of a name comes to a symbol, which is the first one on it. -/
structure LeadsTo (canonical : List Text) (next : Text → Option Text) (a n : Text) : Prop where
  chain : Relation.ReflTransGen (AliasStep canonical next) a n
  symbol : n ∈ canonical

theorem AliasStep.unique (h : AliasStep canonical next a b) (h' : AliasStep canonical next a n) :
    b = n :=
  Option.some.inj (h.2.symm.trans h'.2)

theorem leadsTo_self (h : a ∈ canonical) : LeadsTo canonical next a a := ⟨.refl, h⟩

theorem LeadsTo.eq_of_mem (h : LeadsTo canonical next a n) (ha : a ∈ canonical) : n = a := by
  rcases h.chain.cases_head with rfl | ⟨b, hstep, -⟩
  · rfl
  · exact absurd ha hstep.1

/-- Taking a step on a chain does not change where it leads. -/
theorem AliasStep.leadsTo_iff (h : AliasStep canonical next a b) :
    LeadsTo canonical next a n ↔ LeadsTo canonical next b n := by
  constructor
  · intro hn
    rcases hn.chain.cases_head with rfl | ⟨c, hstep, hrest⟩
    · exact absurd hn.symbol h.1
    · rw [h.unique hstep]
      exact ⟨hrest, hn.symbol⟩
  · intro hn
    exact ⟨.head h hn.chain, hn.symbol⟩

theorem LeadsTo.unique {m : Text} (h : LeadsTo canonical next a n)
    (h' : LeadsTo canonical next a m) : n = m := by
  obtain ⟨hchain, hn⟩ := h
  induction hchain using Relation.ReflTransGen.head_induction_on with
  | refl => exact (h'.eq_of_mem hn).symm
  | head hstep hrest ih => exact ih (hstep.leadsTo_iff.mp h')

/-- A chain that leads to a symbol does not come back to where it began. -/
theorem LeadsTo.not_cyclic (h : LeadsTo canonical next a n) :
    ¬Relation.TransGen (AliasStep canonical next) a a := by
  obtain ⟨hchain, hn⟩ := h
  induction hchain using Relation.ReflTransGen.head_induction_on with
  | refl =>
    intro hcycle
    obtain ⟨b, hstep, -⟩ := Relation.TransGen.head'_iff.mp hcycle
    exact hstep.1 hn
  | @head a b hstep hrest ih =>
    intro hcycle
    obtain ⟨c, hstep', hback⟩ := Relation.TransGen.head'_iff.mp hcycle
    rw [← hstep.unique hstep'] at hback
    exact ih (Relation.TransGen.tail' hback hstep)

theorem leadsTo_congr {canonical' : List Text} {next' : Text → Option Text}
    (hcanonical : ∀ m, m ∈ canonical ↔ m ∈ canonical') (hnext : ∀ m, next m = next' m) :
    LeadsTo canonical next a n ↔ LeadsTo canonical' next' a n := by
  have hstep : AliasStep canonical next = AliasStep canonical' next' := by
    funext a b
    rw [AliasStep, AliasStep, hcanonical, hnext]
  constructor
  · rintro ⟨hchain, hn⟩
    exact ⟨hstep ▸ hchain, (hcanonical n).mp hn⟩
  · rintro ⟨hchain, hn⟩
    exact ⟨hstep ▸ hchain, (hcanonical n).mpr hn⟩

/-! ## Following a chain -/

/-- Following the chain of an alias: from the names seen and the present one to the outcome, which
is a symbol or the name at which there is no way on. -/
inductive Chase (canonical : List Text) (next : Text → Option Text) (name : Text) :
    List Text → Text → Except TableFault Text → Prop
  | found {seen : List Text} {target : Text} (h : target ∈ canonical) :
    Chase canonical next name seen target (.ok target)
  | missing {seen : List Text} {target : Text} (h : target ∉ canonical)
    (hnext : next target = none) :
    Chase canonical next name seen target (.error (.badTarget name target))
  | met {seen : List Text} {target : Text} (h : target ∉ canonical) (hseen : target ∈ seen) :
    Chase canonical next name seen target (.error (.badTarget name target))
  | step {seen : List Text} {target b : Text} {outcome : Except TableFault Text}
    (h : target ∉ canonical) (hseen : target ∉ seen) (hnext : next target = some b)
    (hrest : Chase canonical next name (target :: seen) b outcome) :
    Chase canonical next name seen target outcome

theorem Chase.leadsTo {seen : List Text} {outcome : Except TableFault Text}
    (h : Chase canonical next name seen target outcome) (hn : outcome = .ok n) :
    LeadsTo canonical next target n := by
  induction h with
  | found h =>
    cases hn
    exact leadsTo_self h
  | missing | met => cases hn
  | step h hseen hnext hrest ih => exact AliasStep.leadsTo_iff ⟨h, hnext⟩ |>.mpr (ih hn)

/-- Where there is a symbol it is found, if all names seen lie on the way. -/
theorem Chase.eq_ok {seen : List Text} {outcome : Except TableFault Text}
    (h : Chase canonical next name seen target outcome)
    (hseen : ∀ m ∈ seen, Relation.TransGen (AliasStep canonical next) m target)
    (hn : LeadsTo canonical next target n) : outcome = .ok n := by
  induction h with
  | found h => rw [hn.eq_of_mem h]
  | missing h hnext =>
    rcases hn.chain.cases_head with rfl | ⟨b, hstep, -⟩
    · exact absurd hn.symbol h
    · have hsome := hstep.2
      rw [hnext] at hsome
      cases hsome
  -- a name that is seen again would lie on a cycle
  | met h hmet => exact absurd (hseen _ hmet) hn.not_cyclic
  | @step seen target b outcome h hnew hnext hrest ih =>
    have hstep : AliasStep canonical next target b := ⟨h, hnext⟩
    refine ih (fun m hm => ?_) (hstep.leadsTo_iff.mp hn)
    rcases List.mem_cons.mp hm with rfl | hm
    · exact .single hstep
    · exact (hseen m hm).tail hstep

theorem lookup_filter_fst (p : Text → Bool) (pairs : List (Text × Text)) (k : Text) :
    (pairs.filter fun a => p a.1).lookup k = if p k then pairs.lookup k else none := by
  induction pairs with
  | nil => simp
  | cons a pairs ih =>
    obtain ⟨key, target⟩ := a
    by_cases hk : k = key
    · subst hk
      cases hp : p k <;> simp [hp, ih]
    · have hne : (k == key) = false := by simp [hk]
      cases hp : p key <;> simp [hp, List.lookup_cons, hne, ih]

theorem length_filter_lt_of_lookup {pairs : List (Text × Text)} {k target : Text}
    (h : pairs.lookup k = some target) :
    (pairs.filter fun a => a.1 ≠ k).length < pairs.length := by
  obtain ⟨front, rest, rfl, -⟩ := List.lookup_eq_some_iff.mp h
  exact List.length_filter_lt_length_iff_exists.mpr
    ⟨(k, target), List.mem_append_right _ List.mem_cons_self, by simp⟩

/-- The aliases ahead are those not seen, and there is fuel for each of them. -/
theorem chase_followWithin {seen : List Text} {ahead : List (Text × Text)} {fuel : Nat}
    (hahead : ∀ m, ahead.lookup m = if m ∈ seen then none else next m)
    (hfuel : ahead.length ≤ fuel) (target : Text) :
    Chase canonical next name seen target (followWithin canonical name fuel ahead target) := by
  induction fuel generalizing seen ahead target with
  -- without fuel nothing is ahead, so the name has been seen or is no alias
  | zero =>
    rw [List.length_eq_zero_iff.mp (Nat.le_zero.mp hfuel)] at hahead
    have hend := hahead target
    unfold followWithin
    split
    · rename_i h
      exact .found h
    · rename_i h
      by_cases hseen : target ∈ seen
      · exact .met h hseen
      · rw [if_neg hseen] at hend
        exact .missing h hend.symm
  | succ fuel ih =>
    have htarget := hahead target
    unfold followWithin
    split
    · rename_i h
      exact .found h
    · rename_i h
      split
      · rename_i hlookup
        rw [hlookup] at htarget
        by_cases hseen : target ∈ seen
        · exact .met h hseen
        · rw [if_neg hseen] at htarget
          exact .missing h htarget.symm
      · rename_i b hlookup
        have hshorter := length_filter_lt_of_lookup hlookup
        rw [hlookup] at htarget
        by_cases hseen : target ∈ seen
        · rw [if_pos hseen] at htarget
          cases htarget
        rw [if_neg hseen] at htarget
        -- the alias passed is no longer ahead, which is one alias less for the fuel left
        refine .step h hseen htarget.symm (ih (fun m => ?_) (by omega) b)
        rw [lookup_filter_fst (fun k => decide (k ≠ target)), hahead]
        by_cases hm : m = target
        · simp [hm]
        · simp [hm]

/-- Following the chain of an alias ends, whatever the aliases are. -/
theorem chase_follow (canonical : List Text) (pairs : List (Text × Text)) (name target : Text) :
    Chase canonical (fun a => pairs.lookup a) name [name] target
      (follow canonical pairs name target) := by
  refine chase_followWithin (fun m => ?_) (List.length_filter_le _ _) target
  rw [lookup_filter_fst (fun k => decide (k ≠ name))]
  by_cases hm : m = name
  · simp [hm]
  · simp [hm]

/-- It finds a symbol exactly where the alias leads to one. -/
theorem follow_eq_ok_iff {pairs : List (Text × Text)} (hname : name ∉ canonical)
    (htarget : pairs.lookup name = some target) :
    follow canonical pairs name target = .ok n ↔
      LeadsTo canonical (fun a => pairs.lookup a) name n := by
  have hchase := chase_follow canonical pairs name target
  have hstep : AliasStep canonical (fun a => pairs.lookup a) name target := ⟨hname, htarget⟩
  constructor
  · intro h
    exact hstep.leadsTo_iff.mpr (hchase.leadsTo h)
  · intro h
    refine hchase.eq_ok (fun m hm => ?_) (hstep.leadsTo_iff.mp h)
    rw [List.mem_singleton.mp hm]
    exact .single hstep

/-! ## Leaping ahead -/

/-- The aliases lead along the chains, none of them to what is not on its chain. -/
def Follows (canonical : List Text) (next : Text → Option Text) (pairs : List (Text × Text)) :
    Prop :=
  ∀ a b, pairs.lookup a = some b → Relation.ReflTransGen (AliasStep canonical next) a b

theorem Follows.leap {pairs : List (Text × Text)} (h : Follows canonical next pairs) :
    Follows canonical next (leap pairs) := by
  intro a b hab
  rw [lookup_leap] at hab
  obtain ⟨target, htarget, rfl⟩ := Option.map_eq_some_iff.mp hab
  cases hnext : pairs.lookup target with
  | none => exact h a target htarget
  | some b => exact (h a target htarget).trans (h target b hnext)

theorem Follows.leaps {pairs : List (Text × Text)} (h : Follows canonical next pairs)
    (most : Nat) : Follows canonical next (leaps canonical most pairs) := by
  induction most generalizing pairs with
  | zero => exact h
  | succ most ih =>
    unfold SymbolTable.leaps
    split
    · exact h
    · exact ih h.leap

theorem follows_landings (canonical : List Text) (pairs : List (Text × Text)) :
    Follows canonical (fun a => pairs.lookup a) (landings canonical pairs) := by
  refine Follows.leaps (fun a b hab => ?_) _
  rw [lookup_filter_fst (fun k => decide (k ∉ canonical))] at hab
  by_cases ha : a ∈ canonical
  · simp [ha] at hab
  · rw [if_pos (by simp [ha])] at hab
    exact .single ⟨ha, hab⟩

/-- An alias is checked, and its chain is followed. -/
theorem resolveAlias_eq {pairs : List (Text × Text)} {e : Text × Text}
    (he : pairs.lookup e.1 = some e.2) :
    resolveAlias canonical pairs (landings canonical pairs) e =
      match nameProblem? e.1 with
      | some problem => .error (.badName e.1 problem)
      | none =>
        if e.1 ∈ canonical then .error (.duplicate e.1)
        else (fun target => (e.1, target)) <$> follow canonical pairs e.1 e.2 := by
  unfold resolveAlias
  cases nameProblem? e.1 with
  | some problem => rfl
  | none =>
    by_cases hname : e.1 ∈ canonical
    · simp only [if_pos hname]
    simp only [if_neg hname]
    cases hlanded : ((landings canonical pairs).lookup e.1).filter (· ∈ canonical) with
    | none => rfl
    | some n =>
      obtain ⟨hlookup, hn⟩ := Option.filter_eq_some_iff.mp hlanded
      have hleads : LeadsTo canonical (fun a => pairs.lookup a) e.1 n :=
        ⟨follows_landings canonical pairs e.1 n hlookup, of_decide_eq_true hn⟩
      rw [(follow_eq_ok_iff hname he).mpr hleads]

theorem resolveAlias_eq_ok_iff {pairs : List (Text × Text)} {e r : Text × Text}
    (he : pairs.lookup e.1 = some e.2) :
    resolveAlias canonical pairs (landings canonical pairs) e = .ok r ↔
      nameProblem? e.1 = none ∧ e.1 ∉ canonical ∧ r.1 = e.1 ∧
        LeadsTo canonical (fun a => pairs.lookup a) e.1 r.2 := by
  rw [resolveAlias_eq he]
  cases hproblem : nameProblem? e.1 with
  | some problem => simp
  | none =>
    by_cases hname : e.1 ∈ canonical
    · simp [hname]
    · simp only [if_neg hname, map_eq_ok_iff, follow_eq_ok_iff hname he]
      constructor
      · rintro ⟨n, hn, rfl⟩
        exact ⟨trivial, hname, rfl, hn⟩
      · rintro ⟨-, -, hr, hn⟩
        exact ⟨r.2, hn, Prod.ext hr.symm rfl⟩

end DatePattern.SymbolTable
