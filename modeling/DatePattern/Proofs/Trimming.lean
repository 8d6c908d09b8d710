/-
  Texts cut at a mark, and texts trimmed of their blanks.

  A mark that does not occur in front of a place is found there, and only there.  In the same way a
  character that is no blank stops the trimming from either side, so what stands behind it, or in
  front of it, is trimmed by itself.

  * `upTo_append`, `behind?_append`: the two parts of a text with a mark.
  * `trimStart_append_cons`, `trimEnd_append_cons`: trimming stops at what is no blank.
  * `endsInBlank_trimStart_iff`: which texts end with a blank when their beginning is trimmed.
-/
import DatePattern.Text.Fields
import Mathlib.Data.List.DropRight
import Mathlib.Data.List.TakeWhile

namespace DatePattern.Text

/-! ## The text in front of a mark and behind it -/

theorem differs_of_not_mem {mark : Char} {s : Text} (h : mark ∉ s) :
    ∀ c ∈ s, decide (c ≠ mark) = true := by
  intro c hc
  refine decide_eq_true fun heq => h ?_
  rw [← heq]
  exact hc

theorem upTo_append {mark : Char} {s : Text} (h : mark ∉ s) (t : Text) :
    upTo mark (s ++ mark :: t) = s := by
  rw [upTo, List.takeWhile_append_of_pos (differs_of_not_mem h)]
  simp

theorem behind?_append {mark : Char} {s : Text} (h : mark ∉ s) (t : Text) :
    behind? mark (s ++ mark :: t) = some t := by
  rw [behind?, List.dropWhile_append_of_pos (differs_of_not_mem h)]
  simp

theorem upTo_of_not_mem {mark : Char} {s : Text} (h : mark ∉ s) : upTo mark s = s :=
  List.takeWhile_eq_self_iff.mpr (differs_of_not_mem h)

theorem behind?_of_not_mem {mark : Char} {s : Text} (h : mark ∉ s) : behind? mark s = none := by
  rw [behind?, List.dropWhile_eq_nil_iff.mpr (differs_of_not_mem h)]

/-! ## Trimming -/

/-- Whether a text ends with a blank. -/
def EndsInBlank (t : Text) : Prop := ∃ c, t.getLast? = some c ∧ isBlank c = true

theorem trimStart_eq_self_iff {t : Text} :
    trimStart t = t ↔ ∀ c, t.head? = some c → isBlank c = false := by
  cases t with
  | nil => simp [trimStart]
  | cons c t => simp [trimStart, List.dropWhile_eq_self_iff]

theorem trimEnd_eq_rdropWhile (t : Text) : trimEnd t = t.rdropWhile isBlank := rfl

theorem trimEnd_eq_self_iff {t : Text} : trimEnd t = t ↔ ¬EndsInBlank t := by
  rw [trimEnd_eq_rdropWhile, List.rdropWhile_eq_self_iff]
  rcases List.eq_nil_or_concat t with rfl | ⟨t, c, rfl⟩
  · simp [EndsInBlank]
  · simp [EndsInBlank]

theorem head?_of_prefix {t u : Text} (h : t <+: u) {c : Char} (hc : t.head? = some c) :
    u.head? = some c := by
  obtain ⟨v, rfl⟩ := h
  rw [List.head?_append, hc]
  rfl

/-- Trimming at the end uncovers no blank at the beginning. -/
theorem trimStart_trim (t : Text) : trimStart (trim t) = trim t := by
  rw [trimStart_eq_self_iff]
  intro c hc
  have hprefix : trim t <+: trimStart t := by
    rw [trim, trimEnd_eq_rdropWhile]
    exact List.rdropWhile_prefix isBlank _
  have hhead := head?_of_prefix hprefix hc
  have hnot := List.head?_dropWhile_not isBlank t
  rw [← trimStart, hhead] at hnot
  simpa using hnot

/-- What is trimmed has no blank at its end. -/
theorem not_endsInBlank_trim (t : Text) : ¬EndsInBlank (trim t) := by
  rw [← trimEnd_eq_self_iff, trim, trimEnd_eq_rdropWhile, trimEnd_eq_rdropWhile,
    List.rdropWhile_idempotent]

theorem endsInBlank_append_cons_iff {t u : Text} {c : Char} (hc : isBlank c = false) :
    EndsInBlank (t ++ c :: u) ↔ EndsInBlank u := by
  rcases List.eq_nil_or_concat u with rfl | ⟨u, b, rfl⟩
  · simp [EndsInBlank, hc]
  · simp [EndsInBlank, List.getLast?_append, List.getLast?_cons]

theorem endsInBlank_map_iff {f : Char → Char} (hf : ∀ c, isBlank (f c) = isBlank c) {t : Text} :
    EndsInBlank (t.map f) ↔ EndsInBlank t := by
  simp [EndsInBlank, hf]

theorem trimStart_append_cons {c : Char} (hc : isBlank c = false) (t u : Text) :
    trimStart (t ++ c :: u) = trimStart t ++ c :: u := by
  have hstop : (c :: u).dropWhile isBlank = c :: u :=
    List.dropWhile_cons_of_neg (by rw [hc]; exact Bool.false_ne_true)
  unfold trimStart
  rw [List.dropWhile_append, hstop]
  split <;> rename_i hempty
  · rw [List.isEmpty_iff.mp hempty]
    rfl
  · rfl

theorem trimEnd_append_cons {c : Char} (hc : isBlank c = false) (t u : Text) :
    trimEnd (t ++ c :: u) = t ++ c :: trimEnd u := by
  have hstart := trimStart_append_cons hc u.reverse t.reverse
  unfold trimStart at hstart
  unfold trimEnd
  rw [List.reverse_append, List.reverse_cons, List.append_assoc, List.singleton_append, hstart]
  simp

/-- A text ends with a blank when its beginning is trimmed if it ends with one and has something
else as well. -/
theorem endsInBlank_trimStart_iff {t : Text} :
    EndsInBlank (trimStart t) ↔ EndsInBlank t ∧ ∃ c ∈ t, isBlank c = false := by
  by_cases hblank : ∀ c ∈ t, isBlank c = true
  · have hnil : trimStart t = [] := List.dropWhile_eq_nil_iff.mpr hblank
    have hnot : ¬∃ c ∈ t, isBlank c = false := by simpa using hblank
    simp [hnil, EndsInBlank, hnot]
  · obtain ⟨c, hc, hnot⟩ : ∃ c ∈ t, isBlank c = false := by simpa using hblank
    obtain ⟨u, v, rfl⟩ := List.append_of_mem hc
    rw [trimStart_append_cons hnot, endsInBlank_append_cons_iff hnot,
      endsInBlank_append_cons_iff hnot]
    exact ⟨fun h => ⟨h, c, hc, hnot⟩, fun h => h.1⟩

end DatePattern.Text
