/-
  The keys that contexts are kept under, for codes that have been normalized before.

  A code is trimmed first and cut at its first point after that.  The cut can bring a blank to the
  end, which the trimming did not see: in `en .UTF-8` it leaves `en ` with its blank.  Normalizing
  once more takes that blank away.  So a code that has been resolved leads to another key than the
  code itself wherever there is a blank in front of the first point, and something else in front of
  the blank; for all other codes the two keys are one.

  * `LocaleCode.normalize_of_point`: the normal form of a code with a point.
  * `LocaleCode.endsInBlank_normalize_iff`: which normal forms end with a blank.
  * `LocaleCode.normalize_twice_iff`: when normalizing twice is normalizing once, and which keys the
    two codes lead to.
-/
import DatePattern.Proofs.History
import DatePattern.Proofs.LocaleCodes

namespace DatePattern

open Text

namespace LocaleCode

/-- A code that is cut at a point behind a blank, with something else left in front. -/
structure IsCutBehindBlank (code : Text) : Prop where
  point : '.' ∈ code
  ends : EndsInBlank (upTo '.' code)
  starts : ∃ c ∈ upTo '.' code, isBlank c = false

variable {code front rest : Text}

/-! ## The normal form -/

/-- A code with a point is trimmed at its beginning alone. -/
theorem normalize_of_point (h : '.' ∉ front) :
    normalize (front ++ '.' :: rest) =
      (trimStart front).map fun c => if c = '-' then '_' else c := by
  have hpoint : isBlank '.' = false := by decide
  have hstart : '.' ∉ trimStart front := fun hmem => h ((List.dropWhile_sublist _).subset hmem)
  rw [normalize, trim, trimStart_append_cons hpoint, trimEnd_append_cons hpoint, upTo_append hstart]

theorem normalize_of_no_point (h : '.' ∉ code) :
    normalize code = (trim code).map fun c => if c = '-' then '_' else c := by
  have htrim : '.' ∉ trim code := by
    intro hmem
    rw [trim, trimEnd_eq_rdropWhile] at hmem
    exact h ((List.dropWhile_sublist _).subset ((List.rdropWhile_prefix _ _).subset hmem))
  rw [normalize, upTo_of_not_mem htrim]

theorem isBlank_ite_hyphen (c : Char) : isBlank (if c = '-' then '_' else c) = isBlank c := by
  by_cases h : c = '-'
  · subst h
    decide
  · rw [if_neg h]

theorem endsInBlank_normalize_iff : EndsInBlank (normalize code) ↔ IsCutBehindBlank code := by
  by_cases hpoint : '.' ∈ code
  · obtain ⟨front, rest, rfl, hfront⟩ := List.eq_append_cons_of_mem hpoint
    rw [normalize_of_point hfront, endsInBlank_map_iff isBlank_ite_hyphen,
      endsInBlank_trimStart_iff]
    constructor
    · rintro ⟨hends, hstarts⟩
      rw [← upTo_append hfront rest] at hends hstarts
      exact ⟨hpoint, hends, hstarts⟩
    · rintro ⟨-, hends, hstarts⟩
      rw [upTo_append hfront] at hends hstarts
      exact ⟨hends, hstarts⟩
  · rw [normalize_of_no_point hpoint, endsInBlank_map_iff isBlank_ite_hyphen]
    exact ⟨fun h => absurd h (not_endsInBlank_trim code), fun h => absurd h.point hpoint⟩

theorem normalize_normalize_eq_iff :
    normalize (normalize code) = normalize code ↔ ¬IsCutBehindBlank code := by
  rw [(isNormal_normalize code).normalize_eq_self_iff, endsInBlank_normalize_iff]

end LocaleCode

/-! ## The key -/

/-- The key of the entry that is stored is the latest one. -/
theorem Recent.getLast?_keys_put {κ ν : Type} [DecidableEq κ] (n : Nat) (r : Recent κ ν) (k : κ)
    (v : ν) : (put n r k v).keys.getLast? = some k := by
  rw [keys, entries_put, List.map_append]
  exact List.getLast?_concat

namespace LocaleCode

/-- A context that has been asked for by a code, and the store that is left, in which the context is
the latest, under a key. -/
def KeptUnder (db : LocaleDatabase) (s : LocaleStore) (code key : Text) : Prop :=
  ∃ x s', s.context? (some db) code = some (x, s') ∧ s'.contexts.keys.getLast? = some key ∧
    s'.contexts.find? key = some x

theorem keptUnder_iff {db : LocaleDatabase} {s : LocaleStore} {key : Text} :
    KeptUnder db s code key ↔ key = normalize code := by
  obtain ⟨x, hcontext⟩ := s.context?_eq_put db code
  constructor
  · rintro ⟨y, s', hy, hkey, -⟩
    cases hcontext.symm.trans hy
    rw [Recent.getLast?_keys_put] at hkey
    exact (Option.some.inj hkey).symm
  · rintro rfl
    exact ⟨x, _, hcontext, Recent.getLast?_keys_put _ _ _ _, Recent.find?_put_self _ _ _ _⟩

/-- Normalizing a code twice is to trim the end of its normal form.  That is the normal form itself
unless the code is cut at a point behind a blank.  In any store, the context of a code is kept under
the normal form, and the one of the resolved code under the normal form without the blanks at its
end, so the two are kept under one key for just the same codes. -/
theorem normalize_twice_iff (code : Text) :
    (normalize (normalize code) = normalize code ↔ ¬IsCutBehindBlank code) ∧
    normalize (normalize code) = trimEnd (normalize code) ∧
    ∀ (db : LocaleDatabase) (s : LocaleStore),
      KeptUnder db s code (normalize code) ∧
      KeptUnder db s (s.resolve (some code)) (trimEnd (normalize code)) ∧
      ((∃ key, KeptUnder db s code key ∧ KeptUnder db s (s.resolve (some code)) key) ↔
        ¬IsCutBehindBlank code) := by
  have htwice := (isNormal_normalize code).normalize_eq
  refine ⟨normalize_normalize_eq_iff, htwice, fun db s => ?_⟩
  refine ⟨keptUnder_iff.mpr rfl, keptUnder_iff.mpr htwice.symm, ?_⟩
  rw [← normalize_normalize_eq_iff]
  constructor
  · rintro ⟨key, hcode, hresolved⟩
    have hkey : key = normalize (normalize code) := keptUnder_iff.mp hresolved
    rw [← hkey]
    exact keptUnder_iff.mp hcode
  · intro heq
    exact ⟨_, keptUnder_iff.mpr rfl, keptUnder_iff.mpr heq.symm⟩

/-- English in front of a blank and a point. -/
theorem normalize_twice_ne_once :
    normalize ['e', 'n', ' ', '.', 'x'] = ['e', 'n', ' '] ∧
      normalize (normalize ['e', 'n', ' ', '.', 'x']) = ['e', 'n'] := by
  decide

end LocaleCode

end DatePattern
