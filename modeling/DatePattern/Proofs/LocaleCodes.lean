/-
  Locale codes in their normal form.

  A normal code has no points and no hyphens and does not begin with a blank.  It may end with one:
  the blanks at the ends go first, and cutting a code at its first point can bring another blank to
  the end, as in `en .UTF-8`.  To normalize a normal code therefore is to trim its end.

  * `LocaleCode.isNormal_normalize`: what normalizing leaves.
  * `LocaleCode.normalize_eq_self_iff`: which normal codes normalizing leaves alone.
-/
import DatePattern.Locale.Code
import DatePattern.Proofs.Trimming

namespace DatePattern

open Text

namespace LocaleCode

/-- What every code is like that has been normalized. -/
structure IsNormal (code : Text) : Prop where
  no_point : '.' ∉ code
  no_hyphen : '-' ∉ code
  starts : trimStart code = code

variable {code : Text}

/-- A character as it is written in a normal code. -/
theorem mem_normalize {c : Char} (h : c ∈ normalize code) : c ≠ '.' ∧ c ≠ '-' := by
  obtain ⟨b, hb, rfl⟩ := List.mem_map.mp h
  have hpoint : b ≠ '.' := by simpa using List.mem_takeWhile_imp hb
  by_cases hhyphen : b = '-'
  · rw [if_pos hhyphen]
    decide
  · rw [if_neg hhyphen]
    exact ⟨hpoint, hhyphen⟩

theorem isNormal_normalize (code : Text) : IsNormal (normalize code) := by
  refine ⟨fun h => (mem_normalize h).1 rfl, fun h => (mem_normalize h).2 rfl, ?_⟩
  rw [trimStart_eq_self_iff]
  intro c hc
  rw [normalize, List.head?_map, Option.map_eq_some_iff] at hc
  obtain ⟨b, hb, rfl⟩ := hc
  -- the first character of the normal code comes from that of the trimmed one
  have hhead : (trim code).head? = some b := head?_of_prefix (List.takeWhile_prefix _) hb
  have hblank : isBlank b = false :=
    trimStart_eq_self_iff.mp (trimStart_trim code) b hhead
  split
  · decide
  · exact hblank

/-- A normal code has its end trimmed when it is normalized again. -/
theorem IsNormal.normalize_eq (h : IsNormal code) : normalize code = trimEnd code := by
  have hmem : ∀ c ∈ trimEnd code, c ≠ '.' ∧ c ≠ '-' := by
    intro c hc
    have hc : c ∈ code := (List.rdropWhile_prefix isBlank code).subset hc
    exact ⟨fun e => h.no_point (e ▸ hc), fun e => h.no_hyphen (e ▸ hc)⟩
  have hpoint : upTo '.' (trimEnd code) = trimEnd code :=
    List.takeWhile_eq_self_iff.mpr fun c hc => decide_eq_true (hmem c hc).1
  rw [normalize, trim, h.starts, hpoint]
  calc (trimEnd code).map (fun c => if c = '-' then '_' else c)
      = (trimEnd code).map id := List.map_congr_left fun c hc => if_neg (hmem c hc).2
    _ = trimEnd code := List.map_id _

theorem IsNormal.normalize_eq_self_iff (h : IsNormal code) :
    normalize code = code ↔ ¬EndsInBlank code := by
  rw [h.normalize_eq, trimEnd_eq_self_iff]

/-- A code that does not begin with a blank has something left when its end is trimmed. -/
theorem IsNormal.normalize_ne_nil (h : IsNormal code) (hne : code ≠ []) : normalize code ≠ [] := by
  rw [h.normalize_eq, trimEnd_eq_rdropWhile, Ne, List.rdropWhile_eq_nil_iff]
  intro hblank
  cases code with
  | nil => exact hne rfl
  | cons c code =>
    have hfirst := trimStart_eq_self_iff.mp h.starts c rfl
    rw [hblank c List.mem_cons_self] at hfirst
    cases hfirst

end LocaleCode

end DatePattern
