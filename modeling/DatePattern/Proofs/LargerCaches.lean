/-
  A larger cache of tokenized patterns finds whatever a smaller one finds.

  Two caches of different capacity go through the same calls.  A look-up that only the larger
  answers reorders the larger alone, and an entry can be dropped from one of them alone.  What stays
  is that the smaller holds part of the larger, in the same order of use, and all of it as long as
  it is not full (`Recent.Within`).  So an entry that only the larger holds is there because the
  smaller has dropped it, and whatever is dropped from the larger is dropped from the smaller as
  well.

  * `Recent.Within.touch`, `Recent.Within.put`: using an entry in both and storing one keep this.
  * `TokenCache.Within.call`: so does every call, and what is found in the smaller is found in the
    larger.
  * `TokenCache.found_in_larger`: no look-up is lost behind any calls.
-/
import Mathlib.Data.List.Forall2
import DatePattern.Proofs.CacheContents

namespace DatePattern

open Text

namespace Recent

variable {κ ν : Type} {r r' : Recent κ ν} {k : κ} {v : ν} {m n : Nat}

/-- A map of some capacity holds part of another, in the same order of use, and all of it as long as
it is not full. -/
structure Within (capacity : Nat) (r r' : Recent κ ν) : Prop where
  sublist : r.entries.Sublist r'.entries
  nodup : r'.keys.Nodup
  full : capacity ≤ r.size ∨ r = r'

theorem within_empty (capacity : Nat) : (empty : Recent κ ν).Within capacity empty where
  sublist := .refl _
  nodup := List.nodup_nil
  full := Or.inr rfl

theorem Within.nodup_left (h : r.Within m r') : r.keys.Nodup := h.nodup.sublist (h.sublist.map _)

/-! ## One map -/

variable [DecidableEq κ]

theorem find?_eq_some_iff (h : r.keys.Nodup) : r.find? k = some v ↔ (k, v) ∈ r.entries :=
  lookup_eq_some_iff_mem h

theorem nodup_keys_put (h : r.keys.Nodup) (n : Nat) (k : κ) (v : ν) : (put n r k v).keys.Nodup := by
  have hfront : ((r.staying n k).map Prod.fst).Sublist (r.keys.filter (· ≠ k)) := by
    rw [← keys_without]
    exact (staying_sublist_without n r k).map _
  rw [keys, entries_put, List.map_append, List.map_singleton]
  refine List.nodup_append.mpr ⟨(h.filter _).sublist hfront, by simp, fun x hx y hy => ?_⟩
  rw [List.mem_singleton.mp hy]
  exact of_decide_eq_true (List.mem_filter.mp (hfront.subset hx)).2

theorem nodup_keys_touch (h : r.keys.Nodup) (k : κ) : (r.touch k).keys.Nodup := by
  cases hfind : r.find? k with
  | some v =>
    rw [touch_eq_put 0 hfind]
    exact nodup_keys_put h 0 k v
  | none =>
    rw [touch, hfind]
    exact h

theorem length_without (h : r.keys.Nodup) (hk : k ∈ r.keys) :
    (r.without k).length + 1 = r.size := by
  have hfilter : (r.without k).map Prod.fst = r.keys.erase k := by
    rw [keys_without, h.erase_eq_filter]
    congr 1
    funext x
    by_cases hx : x = k <;> simp [hx]
  have hlength := congrArg List.length hfilter
  have hpos := List.length_pos_of_mem hk
  rw [List.length_erase_of_mem hk, keys, List.length_map, List.length_map] at hlength
  rw [keys, List.length_map] at hpos
  rw [size]
  omega

/-- A full map keeps its size. -/
theorem size_put_of_full (h : r.keys.Nodup) (hn : 0 < n) (hfull : n ≤ r.size) (k : κ) (v : ν) :
    (put n r k v).size = r.size := by
  have hsize : (put n r k v).size = (r.staying n k).length + 1 := by
    rw [size, entries_put, List.length_append, List.length_singleton]
  rw [hsize, staying]
  by_cases hk : k ∈ r.keys
  · rw [if_pos (Or.inl hk), length_without h hk]
  · rw [if_neg (not_or.mpr ⟨hk, Nat.not_lt.mpr hfull⟩), without_of_not_mem hk, List.length_tail]
    rw [size] at hfull ⊢
    omega

/-! ## Two maps -/

namespace Within

theorem find? (h : r.Within m r') (hk : r.find? k = some v) : r'.find? k = some v :=
  (find?_eq_some_iff h.nodup).mpr (h.sublist.subset (mem_entries_of_find? hk))

theorem without_sublist (h : r.Within m r') (k : κ) : (r.without k).Sublist (r'.without k) :=
  h.sublist.filter _

theorem staying_sublist (hmn : m ≤ n) (h : r.Within m r') (k : κ) :
    (r.staying m k).Sublist (r'.staying n k) := by
  unfold staying
  by_cases hk : k ∈ r.keys
  · have hk' : k ∈ r'.keys := (h.sublist.map Prod.fst).subset hk
    rw [if_pos (Or.inl hk), if_pos (Or.inl hk')]
    exact h.without_sublist k
  by_cases hroom : r.size < m
  · -- nothing has been dropped yet, so there is room in both
    have hsame : r = r' := h.full.resolve_left (Nat.not_le.mpr hroom)
    rw [if_pos (Or.inr hroom), if_pos (Or.inr (hsame ▸ Nat.lt_of_lt_of_le hroom hmn))]
    exact h.without_sublist k
  · rw [if_neg (not_or.mpr ⟨hk, hroom⟩)]
    split
    · exact (List.tail_sublist _).trans (h.without_sublist k)
    · exact (h.without_sublist k).tail

/-- Storing an entry in both maps keeps the first within the second. -/
theorem put (hm : 0 < m) (hmn : m ≤ n) (h : r.Within m r') (k : κ) (v : ν) :
    (Recent.put m r k v).Within m (Recent.put n r' k v) where
  sublist := by
    rw [entries_put, entries_put]
    exact (h.staying_sublist hmn k).append (.refl _)
  nodup := nodup_keys_put h.nodup n k v
  full := by
    rcases Nat.lt_or_ge r.size m with hroom | hfull
    · obtain rfl : r = r' := h.full.resolve_left (Nat.not_le.mpr hroom)
      have hroom' : r.size < n := Nat.lt_of_lt_of_le hroom hmn
      refine Or.inr (congrArg Recent.mk ?_)
      have hstaying : r.staying m k = r.staying n k := by
        rw [staying, staying, if_pos (Or.inr hroom), if_pos (Or.inr hroom')]
      exact (entries_put m r k v).trans (hstaying ▸ (entries_put n r k v).symm)
    · rw [size_put_of_full h.nodup_left hm hfull]
      exact Or.inl hfull

/-- Using an entry in both maps keeps the first within the second, also where only the second has
the entry. -/
theorem touch (hm : 0 < m) (h : r.Within m r') (k : κ) : (r.touch k).Within m (r'.touch k) := by
  cases hfind : r.find? k with
  | some v =>
    rw [touch_eq_put m hfind, touch_eq_put m (h.find? hfind)]
    exact h.put hm (Nat.le_refl m) k v
  | none =>
    have hleft : r.touch k = r := by rw [Recent.touch, hfind]
    rw [hleft]
    cases hfind' : r'.find? k with
    | some v =>
      have hk := find?_eq_none_iff.mp hfind
      have hentries : (r'.touch k).entries = r'.without k ++ [(k, v)] := by
        rw [Recent.touch, hfind']
      refine ⟨?_, nodup_keys_touch h.nodup k, Or.inl ?_⟩
      · rw [hentries, ← without_of_not_mem hk]
        exact (h.without_sublist k).trans (List.sublist_append_left _ _)
      · refine h.full.resolve_right fun hsame => ?_
        rw [hsame, hfind'] at hfind
        cases hfind
    | none =>
      have hright : r'.touch k = r' := by rw [Recent.touch, hfind']
      rw [hright]
      exact h

end Within

end Recent

namespace TokenCache

variable {c d : TokenCache}

/-! ## Two caches -/

/-- A cache holds part of another of at least its capacity, and has helped no more often. -/
structure Within (c d : TokenCache) : Prop where
  capacity : c.capacity ≤ d.capacity
  kept : c.kept.Within c.capacity d.kept
  hits : c.hits ≤ d.hits

theorem Within.find (h : c.Within d) (pattern : Text) :
    (c.find pattern).2.Within (d.find pattern).2 := by
  have htouch := h.kept.touch c.capacity_pos pattern
  cases hfind : c.kept.find? pattern with
  | some tokens =>
    simp only [TokenCache.find, hfind, h.kept.find? hfind]
    exact ⟨h.capacity, htouch, Nat.succ_le_succ h.hits⟩
  | none =>
    have hleft : c.kept.touch pattern = c.kept := by rw [Recent.touch, hfind]
    rw [hleft] at htouch
    cases hfind' : d.kept.find? pattern with
    | some tokens =>
      simp only [TokenCache.find, hfind, hfind']
      exact ⟨h.capacity, htouch, Nat.le_succ_of_le h.hits⟩
    | none =>
      simp only [TokenCache.find, hfind, hfind']
      exact ⟨h.capacity, h.kept, h.hits⟩

/-- A call keeps the first cache within the second. -/
theorem Within.call (h : c.Within d) (x : CacheCall) : (c.call x).Within (d.call x) := by
  cases x with
  | get pattern => exact h.find pattern
  | put pattern tokens =>
    exact ⟨h.capacity, h.kept.put c.capacity_pos h.capacity pattern tokens, h.hits⟩
  | clear => exact ⟨h.capacity, Recent.within_empty _, Nat.le_refl 0⟩

/-- What a call finds in the first cache, it finds in the second. -/
theorem Within.event_eq (h : c.Within d) {x : CacheCall} (hx : (c.event x).isFound = true) :
    d.event x = c.event x := by
  cases x with
  | get pattern =>
    cases hfind : c.kept.find? pattern with
    | some tokens => simp only [event, fst_find, hfind, h.kept.find? hfind]
    | none =>
      simp only [event, fst_find, hfind] at hx
      cases hx
  | put pattern tokens => rfl
  | clear => rfl

theorem Within.after (h : c.Within d) (calls : List CacheCall) :
    (c.after calls).Within (d.after calls) := by
  induction calls generalizing c d with
  | nil => exact h
  | cons x calls ih => exact ih (h.call x)

theorem Within.log (h : c.Within d) (calls : List CacheCall) :
    List.Forall₂ (fun e e' => e.isFound = true → e' = e) (c.log calls) (d.log calls) := by
  induction calls generalizing c d with
  | nil => exact .nil
  | cons x calls ih => exact .cons h.event_eq (ih (h.call x))

/-- Of two caches of positive capacity that go through the same calls from the start, the larger one
finds whatever the smaller one finds, with the same tokens.  Behind any calls it holds what the
smaller one holds, in the same order of use, and has answered no fewer look-ups. -/
theorem found_in_larger {m n : Int} (hm : 1 ≤ m) (hmn : m ≤ n) :
    ∃ c d, ofCapacity? m = some c ∧ ofCapacity? n = some d ∧ ∀ calls,
      List.Forall₂ (fun e e' => e.isFound = true → e' = e) (c.log calls) (d.log calls) ∧
      (c.after calls).kept.entries.Sublist (d.after calls).kept.entries ∧
      (c.after calls).hits ≤ (d.after calls).hits := by
  have hpos : 0 < m.toNat := by omega
  have hpos' : 0 < n.toNat := by omega
  have hstart : Within { capacity := m.toNat, capacity_pos := hpos }
      { capacity := n.toNat, capacity_pos := hpos' } :=
    ⟨Int.toNat_le_toNat hmn, Recent.within_empty _, Nat.le_refl 0⟩
  refine ⟨_, _, dif_pos (by omega), dif_pos (by omega), fun calls => ⟨hstart.log calls, ?_, ?_⟩⟩
  · exact (hstart.after calls).kept.sublist
  · exact (hstart.after calls).hits

/-- With room for one pattern and for two: the look-up that only the larger cache answers reorders
it alone, and the next pattern that is stored pushes a different one out of each. -/
theorem found_in_larger_two : 1 ≤ (1 : Int) ∧ (1 : Int) ≤ 2 ∧ ∃ c d calls,
    ofCapacity? 1 = some c ∧ ofCapacity? 2 = some d ∧
    calls = [.put ['a'] [], .put ['b'] [], .get ['a'], .put ['c'] [], .get ['b'], .get ['c']] ∧
    List.Forall₂ (fun e e' => e.isFound = true → e' = e) (c.log calls) (d.log calls) ∧
    (c.after calls).kept.entries.Sublist (d.after calls).kept.entries ∧
    (c.after calls).hits ≤ (d.after calls).hits ∧
    c.log calls = [.stored ['a'] [], .stored ['b'] [], .missed ['a'], .stored ['c'] [],
      .missed ['b'], .found ['c'] []] ∧
    d.log calls = [.stored ['a'] [], .stored ['b'] [], .found ['a'] [], .stored ['c'] [],
      .missed ['b'], .found ['c'] []] ∧
    (c.after calls).kept.keys = [['c']] ∧ (d.after calls).kept.keys = [['a'], ['c']] ∧
    (c.after calls).hits = 1 ∧ (d.after calls).hits = 2 := by
  obtain ⟨c, d, hc, hd, hcalls⟩ :=
    found_in_larger (by decide : 1 ≤ (1 : Int)) (by decide : (1 : Int) ≤ 2)
  obtain ⟨hfound, hkept, hhits⟩ := hcalls
    [.put ['a'] [], .put ['b'] [], .get ['a'], .put ['c'] [], .get ['b'], .get ['c']]
  refine ⟨by decide, by decide, c, d, _, hc, hd, rfl, hfound, hkept, hhits, ?_⟩
  cases hc
  cases hd
  refine ⟨?_, ?_, ?_, ?_, ?_, ?_⟩
  all_goals decide +kernel

end TokenCache

end DatePattern
