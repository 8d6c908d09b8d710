/-
  Caches of tokenized patterns, which count how often they could help.

  A cache keeps the most recently used patterns up to its capacity.  `fst_find` says that counting
  makes no difference to what is found.
-/
import DatePattern.Pattern.Token
import DatePattern.Recent
import DatePattern.Text.Percentage

namespace DatePattern

/-- A cache of tokenized patterns. -/
structure TokenCache where
  capacity : Nat
  kept : Recent Text (List Token) := .empty
  /-- How many look-ups have been answered. -/
  hits : Nat := 0
  /-- How many look-ups have not been answered. -/
  misses : Nat := 0
  capacity_pos : 0 < capacity

namespace TokenCache

/-- What is wrong with a capacity that is not positive. -/
def capacityMessage : Text := "maxsize must be positive".toList

/-- The empty cache of some capacity, if the capacity is positive. -/
def ofCapacity? (capacity : Int) : Option TokenCache :=
  if h : 0 < capacity then some { capacity := capacity.toNat, capacity_pos := by omega } else none

/-- The number of patterns in the cache. -/
def size (c : TokenCache) : Nat := c.kept.size

/-- Look a pattern up; it becomes the most recent one. -/
def find (c : TokenCache) (pattern : Text) : Option (List Token) × TokenCache :=
  match c.kept.find? pattern with
  | some tokens => (some tokens, { c with kept := c.kept.touch pattern, hits := c.hits + 1 })
  | none => (none, { c with misses := c.misses + 1 })

/-- Keep the tokens of a pattern. -/
def put (c : TokenCache) (pattern : Text) (tokens : List Token) : TokenCache :=
  { c with kept := c.kept.put c.capacity pattern tokens }

/-- The cache without patterns and with all counts at zero. -/
def clear (c : TokenCache) : TokenCache := { c with kept := .empty, hits := 0, misses := 0 }

/-- The counts of a cache. -/
structure Statistics where
  size : Nat
  capacity : Nat
  hits : Nat
  misses : Nat
  deriving DecidableEq, Repr

/-- The share of look-ups that have been answered, in percent with two decimals. -/
def Statistics.hitRate (s : Statistics) : Text := Text.percentage s.hits (s.hits + s.misses)

/-- The counts of a cache. -/
def statistics (c : TokenCache) : Statistics := ⟨c.size, c.capacity, c.hits, c.misses⟩

theorem fst_find (c : TokenCache) (pattern : Text) :
    (c.find pattern).1 = c.kept.find? pattern := by
  unfold find
  split <;> simp_all

end TokenCache

end DatePattern
