/-
  The keys of a map that keeps the most recently used entries.

  A history lists the keys in the order in which they have been used, repeats kept.
  `Recent.latest` picks its last distinct members up to a limit, and these are the keys of a map of
  that capacity, the least recent first: using a kept key moves it behind the others, and storing a
  new one drops the key that is no longer among the latest.

  * `Recent.keys_touch`: an entry that is used becomes the latest.
  * `Recent.keys_put`: so does an entry that is stored, whether its key is kept already or not.
-/
import DatePattern.Recent
import DatePattern.Text.Order

namespace DatePattern

open Text

namespace Recent

variable {κ ν : Type} [DecidableEq κ] {r : Recent κ ν} {k : κ} {v : ν} {n : Nat} {history : List κ}

/-- The last distinct members of a history, up to a limit, the least recent first. -/
def latest (limit : Nat) (history : List κ) : List κ :=
  ((distinct history.reverse).take limit).reverse

theorem latest_nil (limit : Nat) : latest limit ([] : List κ) = [] := by
  simp [latest, distinct]

example : latest 2 [1, 2, 1, 3, 3] = [1, 3] := by decide

theorem length_latest_le (limit : Nat) (history : List κ) :
    (latest limit history).length ≤ limit := by
  rw [latest, List.length_reverse]
  exact List.length_take_le _ _

/-! ## One more use -/

/-- Of distinct keys, those up to a limit without one of them are the others up to a limit that is
less by one. -/
theorem take_filter_of_mem {ks : List κ} (hks : ks.Nodup) (hk : k ∈ ks.take n) :
    (ks.filter (· ≠ k)).take (n - 1) = (ks.take n).filter (· ≠ k) := by
  induction ks generalizing n with
  | nil => simp
  | cons x ks ih =>
    obtain ⟨hx, hks⟩ := List.nodup_cons.mp hks
    cases n with
    | zero => simp at hk
    | succ m =>
      by_cases hxk : x = k
      · subst hxk
        have hall : ∀ y ∈ ks, decide (y ≠ x) = true := fun y hy =>
          decide_eq_true fun e => hx (e ▸ hy)
        have htake : ∀ y ∈ ks.take m, decide (y ≠ x) = true := fun y hy =>
          hall y (List.mem_of_mem_take hy)
        rw [List.take_succ_cons, List.filter_cons_of_neg (by simp),
          List.filter_cons_of_neg (by simp), List.filter_eq_self.mpr hall,
          List.filter_eq_self.mpr htake, Nat.add_sub_cancel]
      · have hk' : k ∈ ks.take m := by
          rw [List.take_succ_cons] at hk
          exact (List.mem_cons.mp hk).resolve_left (Ne.symm hxk)
        have hm : 0 < m := by
          cases m with
          | zero => simp at hk'
          | succ m => exact Nat.succ_pos m
        rw [List.take_succ_cons, List.filter_cons_of_pos (by simpa using hxk),
          List.filter_cons_of_pos (by simpa using hxk), Nat.add_sub_cancel, ← ih hks hk',
          List.take_cons hm]

theorem take_filter_of_not_mem {ks : List κ} (hk : k ∉ ks.take n) :
    (ks.filter (· ≠ k)).take (n - 1) = ks.take (n - 1) := by
  induction ks generalizing n with
  | nil => simp
  | cons x ks ih =>
    cases n with
    | zero => simp
    | succ m =>
      rw [List.take_succ_cons, List.mem_cons, not_or] at hk
      rw [List.filter_cons_of_pos (by simpa using Ne.symm hk.1), Nat.add_sub_cancel]
      cases m with
      | zero => simp
      | succ m =>
        rw [List.take_succ_cons, List.take_succ_cons]
        exact congrArg (x :: ·) (ih hk.2)

theorem latest_concat (hn : 0 < n) (history : List κ) (k : κ) :
    latest n (history ++ [k]) =
      (((distinct history.reverse).filter (· ≠ k)).take (n - 1)).reverse ++ [k] := by
  have hreverse : (history ++ [k]).reverse = k :: history.reverse := by simp
  rw [latest, hreverse, distinct, List.take_cons hn, List.reverse_cons]

theorem keys_without (r : Recent κ ν) (k : κ) :
    (r.without k).map Prod.fst = r.keys.filter (· ≠ k) := by
  rw [without, keys, List.filter_map]
  rfl

/-- An entry whose key is kept already goes behind the others. -/
theorem keys_moved (h : r.keys = latest n history) (hk : k ∈ r.keys) (v : ν) :
    keys ⟨r.without k ++ [(k, v)]⟩ = latest n (history ++ [k]) := by
  have hkeys : keys ⟨r.without k ++ [(k, v)]⟩ = r.keys.filter (· ≠ k) ++ [k] := by
    rw [← keys_without]
    simp [keys]
  rw [h, latest, List.mem_reverse] at hk
  have hn : 0 < n := by
    cases n with
    | zero => simp at hk
    | succ n => exact Nat.succ_pos n
  rw [hkeys, h, latest_concat hn, latest, List.filter_reverse,
    take_filter_of_mem (nodup_distinct _) hk]

theorem keys_touch (h : r.keys = latest n history) (hk : k ∈ r.keys) :
    (r.touch k).keys = latest n (history ++ [k]) := by
  obtain ⟨v, hv⟩ := exists_find? hk
  rw [touch, hv]
  exact keys_moved h hk v

theorem keys_put (hn : 0 < n) (h : r.keys = latest n history) (k : κ) (v : ν) :
    (put n r k v).keys = latest n (history ++ [k]) := by
  unfold put
  split
  · rename_i w hw
    exact keys_moved h (mem_keys_of_find? hw) v
  · rename_i hfind
    have hk : k ∉ (distinct history.reverse).take n := by
      have hk := find?_eq_none_iff.mp hfind
      rwa [h, latest, List.mem_reverse] at hk
    have hsize : r.size = ((distinct history.reverse).take n).length := by
      rw [← List.length_reverse, ← latest, ← h, keys, List.length_map, size]
    rw [latest_concat hn, take_filter_of_not_mem hk]
    have hconcat : ∀ es : List (κ × ν), keys ⟨es ++ [(k, v)]⟩ = es.map Prod.fst ++ [k] := by
      intro es
      simp [keys]
    split
    · -- the map is full, and its least recent key is the one beyond the limit
      rename_i hfull
      have hlength : ((distinct history.reverse).take n).length = n := by
        have := List.length_take_le n (distinct history.reverse)
        omega
      have htail : r.keys.tail = ((distinct history.reverse).take (n - 1)).reverse := by
        rw [h, latest, List.tail_reverse, List.dropLast_eq_take, hlength, List.take_take,
          Nat.min_eq_left (Nat.sub_le n 1)]
      rw [hconcat, List.map_tail, ← htail, keys]
    · rename_i hroom
      have hlength : (distinct history.reverse).length ≤ n - 1 := by
        rw [hsize, List.length_take] at hroom
        omega
      have hkeys : r.keys = ((distinct history.reverse).take (n - 1)).reverse := by
        rw [h, latest, List.take_of_length_le hlength, List.take_of_length_le (by omega)]
      rw [hconcat, ← hkeys, keys]

end Recent

end DatePattern
