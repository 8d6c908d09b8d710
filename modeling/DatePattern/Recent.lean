/-
  Maps that keep only the most recently used entries.

  Entries stand in order of use, the least recent first.  Reading an entry and storing one make it
  the most recent; storing a new one into a full map drops the least recent.

  * `find?_eq_none_iff`: an entry is found exactly under the keys of the map.
-/

namespace DatePattern

/-- A map in order of use, least recent first. -/
structure Recent (κ ν : Type) where
  entries : List (κ × ν)
  deriving Repr

namespace Recent

variable {κ ν : Type} [DecidableEq κ]

/-- The map without entries. -/
def empty : Recent κ ν := ⟨[]⟩

/-- The number of entries. -/
def size (r : Recent κ ν) : Nat := r.entries.length

/-- The keys, least recent first. -/
def keys (r : Recent κ ν) : List κ := r.entries.map Prod.fst

/-- The value stored under a key. -/
def find? (r : Recent κ ν) (k : κ) : Option ν := r.entries.lookup k

/-- The entries under other keys. -/
def without (r : Recent κ ν) (k : κ) : List (κ × ν) := r.entries.filter (·.1 ≠ k)

/-- The map after its entry under a key has been used. -/
def touch (r : Recent κ ν) (k : κ) : Recent κ ν :=
  match r.find? k with
  | some v => ⟨r.without k ++ [(k, v)]⟩
  | none => r

/-- The map after a value has been stored under a key. -/
def put (capacity : Nat) (r : Recent κ ν) (k : κ) (v : ν) : Recent κ ν :=
  match r.find? k with
  | some _ => ⟨r.without k ++ [(k, v)]⟩
  | none =>
    if capacity ≤ r.size then ⟨r.entries.tail ++ [(k, v)]⟩ else ⟨r.entries ++ [(k, v)]⟩

theorem find?_eq_none_iff {r : Recent κ ν} {k : κ} : r.find? k = none ↔ k ∉ r.keys := by
  simp only [find?, keys]
  induction r.entries with
  | nil => simp
  | cons e es ih =>
    obtain ⟨k', v⟩ := e
    by_cases h : k = k'
    · simp [h]
    · have hb : (k == k') = false := by simp [h]
      simp [List.lookup_cons, hb, ih, h]

theorem mem_keys_of_find? {r : Recent κ ν} {k : κ} {v : ν} (h : r.find? k = some v) :
    k ∈ r.keys := by
  rcases Decidable.em (k ∈ r.keys) with hk | hk
  · exact hk
  · rw [find?_eq_none_iff.mpr hk] at h
    cases h

theorem exists_find? {r : Recent κ ν} {k : κ} (h : k ∈ r.keys) : ∃ v, r.find? k = some v := by
  cases hfind : r.find? k with
  | none => exact absurd h (find?_eq_none_iff.mp hfind)
  | some v => exact ⟨v, rfl⟩

end Recent

end DatePattern
