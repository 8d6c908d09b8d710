/-
  The order of texts by code point, and lists sorted by it.

  `perm_sort` says that sorting keeps the members and how often each occurs, `pairwise_sort` that
  the result is in order.
-/
import DatePattern.Text.CodePoints

namespace DatePattern.Text

/-- Whether the first text stands before the second or equals it: the first differing character
decides by code point, and a text stands before its continuations. -/
def precedes : Text → Text → Bool
  | [], _ => true
  | _ :: _, [] => false
  | a :: as, b :: bs => if a = b then precedes as bs else decide (a.toNat < b.toNat)

/-- Put a text in front of the first one that does not stand before it. -/
def insertSorted (t : Text) : List Text → List Text
  | [] => [t]
  | u :: us => if precedes t u then t :: u :: us else u :: insertSorted t us

/-- The texts by code point, repeats kept. -/
def sort (ts : List Text) : List Text := ts.foldr insertSorted []

/-- The distinct members in the order of their first occurrence. -/
def distinct {α : Type} [DecidableEq α] : List α → List α
  | [] => []
  | x :: xs => x :: (distinct xs).filter (· ≠ x)

theorem perm_insertSorted (t : Text) (us : List Text) : (insertSorted t us).Perm (t :: us) := by
  induction us with
  | nil => exact .refl _
  | cons u us ih =>
    simp only [insertSorted]
    split
    · exact .refl _
    · exact (ih.cons u).trans (.swap t u us)

/-- Sorting only changes the order. -/
theorem perm_sort (ts : List Text) : (sort ts).Perm ts := by
  induction ts with
  | nil => exact .refl _
  | cons t ts ih => exact (perm_insertSorted t (sort ts)).trans (ih.cons t)

theorem mem_insertSorted {t u : Text} {us : List Text} :
    u ∈ insertSorted t us ↔ u = t ∨ u ∈ us := by
  rw [(perm_insertSorted t us).mem_iff, List.mem_cons]

theorem mem_sort {t : Text} {ts : List Text} : t ∈ sort ts ↔ t ∈ ts := (perm_sort ts).mem_iff

theorem precedes_total (t u : Text) : precedes t u = true ∨ precedes u t = true := by
  induction t generalizing u with
  | nil => exact Or.inl rfl
  | cons a t ih =>
    cases u with
    | nil => exact Or.inr rfl
    | cons b u =>
      by_cases h : a = b
      · subst h
        simpa [precedes] using ih u
      · have hv : a.toNat ≠ b.toNat := fun e => h (Char.toNat_inj.mp e)
        simp only [precedes, h, Ne.symm h, if_false, decide_eq_true_eq]
        omega

theorem precedes_trans {t u v : Text} (h₁ : precedes t u = true) (h₂ : precedes u v = true) :
    precedes t v = true := by
  induction t generalizing u v with
  | nil => rfl
  | cons a t ih =>
    cases u with
    | nil => simp [precedes] at h₁
    | cons b u =>
      cases v with
      | nil => simp [precedes] at h₂
      | cons c v =>
        by_cases hab : a = b
        · subst hab
          by_cases hac : a = c
          · subst hac
            simp only [precedes, if_true] at h₁ h₂ ⊢
            exact ih h₁ h₂
          · simp only [precedes, hac, if_false] at h₂ ⊢
            exact h₂
        · by_cases hbc : b = c
          · subst hbc
            simp only [precedes, hab, if_false] at h₁ ⊢
            exact h₁
          · simp only [precedes, hab, hbc, if_false, decide_eq_true_eq] at h₁ h₂ ⊢
            have hac : a ≠ c := fun e => by subst e; omega
            simp only [hac, if_false, decide_eq_true_eq]
            omega

theorem pairwise_insertSorted {t : Text} {us : List Text}
    (h : us.Pairwise fun a b => precedes a b = true) :
    (insertSorted t us).Pairwise fun a b => precedes a b = true := by
  induction us with
  | nil => simp [insertSorted]
  | cons u us ih =>
    have hu := List.pairwise_cons.mp h
    simp only [insertSorted]
    split
    · rename_i htu
      refine List.pairwise_cons.mpr ⟨fun v hv => ?_, h⟩
      rcases List.mem_cons.mp hv with rfl | hv
      · exact htu
      · exact precedes_trans htu (hu.1 v hv)
    · rename_i htu
      refine List.pairwise_cons.mpr ⟨fun v hv => ?_, ih hu.2⟩
      rcases mem_insertSorted.mp hv with rfl | hv
      · rcases precedes_total v u with h | h
        · exact absurd h htu
        · exact h
      · exact hu.1 v hv

theorem pairwise_sort (ts : List Text) :
    (sort ts).Pairwise fun a b => precedes a b = true := by
  induction ts with
  | nil => simp [sort]
  | cons t ts ih => exact pairwise_insertSorted ih

theorem mem_distinct {α : Type} [DecidableEq α] {x : α} {xs : List α} :
    x ∈ distinct xs ↔ x ∈ xs := by
  induction xs with
  | nil => simp [distinct]
  | cons y ys ih =>
    by_cases h : x = y <;> simp [distinct, ih, h]

theorem nodup_distinct {α : Type} [DecidableEq α] (xs : List α) : (distinct xs).Nodup := by
  induction xs with
  | nil => simp [distinct]
  | cons y ys ih =>
    exact List.nodup_cons.mpr ⟨by simp [List.mem_filter], ih.filter _⟩

theorem distinct_of_nodup {α : Type} [DecidableEq α] {xs : List α} (h : xs.Nodup) :
    distinct xs = xs := by
  induction xs with
  | nil => rfl
  | cons x xs ih =>
    obtain ⟨hx, hxs⟩ := List.nodup_cons.mp h
    rw [distinct, ih hxs, List.filter_eq_self.mpr fun y hy => ?_]
    exact decide_eq_true fun heq => hx (heq ▸ hy)

theorem distinct_concat {α : Type} [DecidableEq α] (xs : List α) (x : α) :
    distinct (xs ++ [x]) = if x ∈ xs then distinct xs else distinct xs ++ [x] := by
  induction xs with
  | nil => rfl
  | cons y ys ih =>
    rw [List.cons_append, distinct, distinct, ih]
    by_cases hx : x ∈ ys
    · rw [if_pos hx, if_pos (List.mem_cons_of_mem y hx)]
    by_cases hy : x = y
    · subst hy
      rw [if_neg hx, if_pos List.mem_cons_self, List.filter_append]
      simp
    · rw [if_neg hx, if_neg (by simp [hx, hy]), List.filter_append]
      simp [hy]

/-- In a list that pairs each key with its value, a key is found with its value. -/
theorem lookup_map_mk {β : Type} (keys : List Text) (g : Text → β) (a : Text) :
    (keys.map fun k => (k, g k)).lookup a = if a ∈ keys then some (g a) else none := by
  induction keys with
  | nil => rfl
  | cons k keys ih =>
    rw [List.map_cons, List.lookup_cons, ih]
    by_cases h : a = k
    · simp [h]
    · have hne : (a == k) = false := by simp [h]
      simp [hne, h]

/-- Where keys are distinct, a value is found exactly under the key it is paired with. -/
theorem lookup_eq_some_iff_mem {κ ν : Type} [BEq κ] [LawfulBEq κ] {pairs : List (κ × ν)}
    (hnodup : (pairs.map Prod.fst).Nodup) {k : κ} {v : ν} :
    pairs.lookup k = some v ↔ (k, v) ∈ pairs := by
  constructor
  · intro h
    obtain ⟨front, rest, rfl, -⟩ := List.lookup_eq_some_iff.mp h
    exact List.mem_append_right _ List.mem_cons_self
  · intro h
    obtain ⟨front, rest, rfl⟩ := List.append_of_mem h
    refine List.lookup_eq_some_iff.mpr ⟨front, rest, rfl, fun e he => ?_⟩
    rw [List.map_append, List.nodup_append] at hnodup
    have hne := hnodup.2.2 e.1 (List.mem_map_of_mem he) k (by simp)
    simp [Ne.symm hne]

end DatePattern.Text
