/-
  The names of symbol tables.

  A name without a problem consists of ASCII letters, and a pattern is cut at every character of
  such a name (`isPlainName_of_nameProblem?`).  The names of the built-in table repeat one letter,
  which no word of the language does (`isRunOfLetter_word`), so they are such names
  (`isPlainName_builtin`).
-/
import DatePattern.Proofs.Ascii
import DatePattern.Proofs.Scanning
import DatePattern.Proofs.Success
import DatePattern.Symbol.Table

namespace DatePattern

open Text

/-! ## Names of ASCII letters -/

theorem breakProperty_of_printable {c : Char} (h : 0x20 ≤ c.toNat) (h' : c.toNat ≤ 0x7E) :
    breakProperty c = .other := by
  have hr : c ≠ '\r' := by
    rintro rfl
    revert h
    decide
  have hn : c ≠ '\n' := by
    rintro rfl
    revert h
    decide
  simp only [breakProperty, if_neg hr, if_neg hn, if_pos (And.intro h h')]

theorem isPlainName_of_letters {name : Text} (hne : name ≠ [])
    (h : ∀ c ∈ name, isAsciiLetter c = true) : IsPlainName name where
  ne_nil := hne
  other c hc := by
    have hc' := isAsciiLetter_iff.mp (h c hc)
    exact breakProperty_of_printable (by omega) (by omega)
  ne_escape c hc := by
    rintro rfl
    exact absurd (h _ hc) (by decide)

theorem isPlainName_of_nameProblem? {name : Text} (h : nameProblem? name = none) :
    IsPlainName name := by
  obtain ⟨hne, hletters, -⟩ := nameProblem?_eq_none_iff.mp h
  exact isPlainName_of_letters hne hletters

/-! ## Names that repeat one letter -/

/-- Whether a text repeats one letter. -/
def isRunOfLetter : Text → Bool
  | [] => false
  | c :: rest => isAsciiLetter c && rest.all (· == c)

theorem isRunOfLetter_toList_ofList {t : Text} (h : isRunOfLetter t = false) :
    isRunOfLetter (String.ofList t).toList = false := by
  rwa [String.toList_ofList]

/-- No word that names must differ from repeats one letter. -/
theorem isRunOfLetter_word : ∀ w ∈ keywords ++ softKeywords ++ reservedNames ++ builtinNames,
    isRunOfLetter w = false := by
  unfold keywords softKeywords reservedNames datesModule localeParameter builtinNames
  repeat rw [List.forall_mem_append]
  refine ⟨⟨⟨?keywords, ?soft⟩, ?reserved⟩, ?builtin⟩
  all_goals
    repeat refine List.forall_mem_cons.mpr ⟨isRunOfLetter_toList_ofList rfl, ?_⟩
    exact List.forall_mem_nil _

theorem nameProblem?_of_isRunOfLetter {name : Text} (h : isRunOfLetter name = true) :
    nameProblem? name = none := by
  have hword : name ∉ keywords ++ softKeywords ++ reservedNames ++ builtinNames := by
    intro hmem
    rw [isRunOfLetter_word name hmem] at h
    cases h
  simp only [List.mem_append, not_or] at hword
  obtain ⟨⟨⟨hkeyword, hsoft⟩, hreserved⟩, hbuiltin⟩ := hword
  refine nameProblem?_eq_none_iff.mpr ⟨?_, ?_, hkeyword, hsoft, hreserved, hbuiltin⟩
  · rintro rfl
    cases h
  · cases name with
    | nil => cases h
    | cons c rest =>
      simp only [isRunOfLetter, Bool.and_eq_true, List.all_eq_true, beq_iff_eq] at h
      obtain ⟨hc, hrest⟩ := h
      intro d hd
      rcases List.mem_cons.mp hd with rfl | hd
      · exact hc
      · rw [hrest d hd]
        exact hc

/-! ## The built-in table -/

namespace SymbolTable

/-- The built-in table has names that building would accept. -/
theorem nameProblem?_builtin (withCase : Bool) :
    ∀ n ∈ (builtin withCase).names, nameProblem? n = none := by
  have hruns : ∀ n ∈ (builtin withCase).names, isRunOfLetter n = true := by
    cases withCase <;> decide +kernel
  exact fun n hn => nameProblem?_of_isRunOfLetter (hruns n hn)

theorem isPlainName_builtin (withCase : Bool) : ∀ n ∈ (builtin withCase).names, IsPlainName n :=
  fun n hn => isPlainName_of_nameProblem? (nameProblem?_builtin withCase n hn)

end SymbolTable

end DatePattern
