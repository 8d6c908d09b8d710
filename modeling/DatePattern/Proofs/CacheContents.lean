/-
  What a cache of tokenized patterns holds behind any calls.

  A history of events goes back to the beginning: a pattern that was looked up has been found or
  missed, one that was put has been stored, or everything has been cleared.  A pattern is used when
  it is found or stored, and `CacheEvent.expected?` says from the history alone what a look-up
  should find: the tokens stored last, for the patterns used last since everything was cleared.  A
  cache keeps no more than these patterns, in the order of their last use, and yet its calls come to
  the same events.

  * `TokenCache.Tracks.call`: one call keeps the cache and the history together.
  * `TokenCache.contents_after`: what is kept, found and counted behind any calls.
-/
import Mathlib.Data.List.DropRight
import DatePattern.Proofs.History
import DatePattern.Proofs.Recency

namespace DatePattern

/-- What can be done with a cache. -/
inductive CacheCall where
  /-- Look a pattern up. -/
  | get (pattern : Text)
  /-- Keep the tokens of a pattern. -/
  | put (pattern : Text) (tokens : List Token)
  /-- Forget all patterns, and the counts. -/
  | clear
  deriving DecidableEq, Repr

/-- What a call has come to. -/
inductive CacheEvent where
  | found (pattern : Text) (tokens : List Token)
  | missed (pattern : Text)
  | stored (pattern : Text) (tokens : List Token)
  | cleared
  deriving DecidableEq, Repr

namespace CacheEvent

/-- The pattern that is used, if one is. -/
def used? : CacheEvent → Option Text
  | found pattern _ => some pattern
  | stored pattern _ => some pattern
  | missed _ => none
  | cleared => none

/-- The tokens that are stored for a pattern, if it is this one. -/
def storedFor? (pattern : Text) : CacheEvent → Option (List Token)
  | stored other tokens => if other = pattern then some tokens else none
  | found _ _ => none
  | missed _ => none
  | cleared => none

/-- Whether a pattern has been looked up and found. -/
def isFound : CacheEvent → Bool
  | found _ _ => true
  | missed _ => false
  | stored _ _ => false
  | cleared => false

/-- Whether a pattern has been looked up and not found. -/
def isMissed : CacheEvent → Bool
  | missed _ => true
  | found _ _ => false
  | stored _ _ => false
  | cleared => false

/-- The events since the cache has been cleared last. -/
def sinceCleared (events : List CacheEvent) : List CacheEvent :=
  events.rtakeWhile (· ≠ cleared)

/-- The patterns that have been used, in order, repeats kept. -/
def used (events : List CacheEvent) : List Text := events.filterMap used?

/-- The tokens that have been stored for a pattern last. -/
def lastStored? (pattern : Text) (events : List CacheEvent) : Option (List Token) :=
  events.reverse.findSome? (storedFor? pattern)

/-- The tokens that a look-up should find, where so many patterns are kept. -/
def expected? (limit : Nat) (pattern : Text) (events : List CacheEvent) : Option (List Token) :=
  if pattern ∈ Recent.latest limit (used (sinceCleared events)) then lastStored? pattern events
  else none

/-- What a call should come to behind some events. -/
def ofCall (limit : Nat) (events : List CacheEvent) : CacheCall → CacheEvent
  | .get pattern =>
    match expected? limit pattern events with
    | some tokens => found pattern tokens
    | none => missed pattern
  | .put pattern tokens => stored pattern tokens
  | .clear => cleared

/-- The events behind some others when a call comes to what it should. -/
def note (limit : Nat) (events : List CacheEvent) (call : CacheCall) : List CacheEvent :=
  events ++ [ofCall limit events call]

/-- What calls in order should come to. -/
def history (limit : Nat) (calls : List CacheCall) : List CacheEvent :=
  calls.foldl (note limit) []

theorem sinceCleared_concat {e : CacheEvent} (h : e ≠ cleared) (events : List CacheEvent) :
    sinceCleared (events ++ [e]) = sinceCleared events ++ [e] :=
  List.rtakeWhile_concat_pos _ _ _ (decide_eq_true h)

theorem sinceCleared_cleared (events : List CacheEvent) :
    sinceCleared (events ++ [cleared]) = [] :=
  List.rtakeWhile_concat_neg _ _ _ (by simp)

theorem used_concat (events : List CacheEvent) (e : CacheEvent) :
    used (events ++ [e]) = used events ++ e.used?.toList := by
  rw [used, List.filterMap_append]
  cases h : e.used? <;> simp [used, h]

theorem lastStored?_concat (pattern : Text) (events : List CacheEvent) (e : CacheEvent) :
    lastStored? pattern (events ++ [e]) =
      (e.storedFor? pattern).or (lastStored? pattern events) := by
  rw [lastStored?, List.reverse_append, List.reverse_singleton, List.singleton_append,
    List.findSome?_cons]
  cases h : e.storedFor? pattern <;> simp [lastStored?]

end CacheEvent

namespace TokenCache

variable {c : TokenCache} {events : List CacheEvent} {n : Nat}

/-- What a call comes to. -/
def event (c : TokenCache) : CacheCall → CacheEvent
  | .get pattern =>
    match (c.find pattern).1 with
    | some tokens => .found pattern tokens
    | none => .missed pattern
  | .put pattern tokens => .stored pattern tokens
  | .clear => .cleared

/-- The cache behind a call. -/
def call (c : TokenCache) : CacheCall → TokenCache
  | .get pattern => (c.find pattern).2
  | .put pattern tokens => c.put pattern tokens
  | .clear => c.clear

/-- The cache behind calls in order. -/
def after (c : TokenCache) (calls : List CacheCall) : TokenCache := calls.foldl call c

/-- What calls come to, in order. -/
def log (c : TokenCache) : List CacheCall → List CacheEvent
  | [] => []
  | call :: calls => c.event call :: (c.call call).log calls

/-! ## One call -/

/-- The cache keeps what the history says. -/
structure Tracks (n : Nat) (events : List CacheEvent) (c : TokenCache) : Prop where
  capacity : c.capacity = n
  keys : c.kept.keys = Recent.latest n (CacheEvent.used (CacheEvent.sinceCleared events))
  stored : ∀ e ∈ c.kept.entries, CacheEvent.lastStored? e.1 events = some e.2
  hits : c.hits = (CacheEvent.sinceCleared events).countP CacheEvent.isFound
  misses : c.misses = (CacheEvent.sinceCleared events).countP CacheEvent.isMissed

theorem tracks_nil (h : 0 < n) : Tracks n [] { capacity := n, capacity_pos := h } where
  capacity := rfl
  keys := (Recent.latest_nil n).symm
  stored e he := by cases he
  hits := rfl
  misses := rfl

/-- A look-up finds the tokens stored last exactly for the patterns used last. -/
theorem Tracks.fst_find (h : c.Tracks n events) (pattern : Text) :
    (c.find pattern).1 = CacheEvent.expected? n pattern events := by
  rw [TokenCache.fst_find, CacheEvent.expected?, ← h.keys]
  cases hfind : c.kept.find? pattern with
  | some tokens =>
    rw [if_pos (Recent.mem_keys_of_find? hfind),
      h.stored _ (Recent.mem_entries_of_find? hfind)]
  | none => rw [if_neg (Recent.find?_eq_none_iff.mp hfind)]

theorem Tracks.event_eq (h : c.Tracks n events) (x : CacheCall) :
    c.event x = CacheEvent.ofCall n events x := by
  cases x with
  | get pattern => rw [event, h.fst_find, CacheEvent.ofCall]
  | put pattern tokens => rfl
  | clear => rfl

/-- What has to hold of the cache behind an event that does not clear it. -/
theorem Tracks.concat {c' : TokenCache} {e : CacheEvent} (h : c.Tracks n events)
    (he : e ≠ .cleared) (capacity : c'.capacity = c.capacity)
    (keys : c'.kept.keys = Recent.latest n
      (CacheEvent.used (CacheEvent.sinceCleared events) ++ e.used?.toList))
    (stored : ∀ x ∈ c'.kept.entries,
      (e.storedFor? x.1).or (CacheEvent.lastStored? x.1 events) = some x.2)
    (hits : c'.hits = c.hits + [e].countP CacheEvent.isFound)
    (misses : c'.misses = c.misses + [e].countP CacheEvent.isMissed) :
    c'.Tracks n (events ++ [e]) where
  capacity := capacity.trans h.capacity
  keys := by rw [CacheEvent.sinceCleared_concat he, CacheEvent.used_concat, keys]
  stored x hx := by rw [CacheEvent.lastStored?_concat, stored x hx]
  hits := by rw [CacheEvent.sinceCleared_concat he, List.countP_append, hits, h.hits]
  misses := by rw [CacheEvent.sinceCleared_concat he, List.countP_append, misses, h.misses]

theorem Tracks.get (h : c.Tracks n events) (pattern : Text) :
    (c.call (.get pattern)).Tracks n (events ++ [c.event (.get pattern)]) := by
  have hfst := TokenCache.fst_find c pattern
  cases hfind : c.kept.find? pattern with
  | some tokens =>
    have hevent : c.event (.get pattern) = .found pattern tokens := by
      simp only [event, hfst, hfind]
    have hcall : c.call (.get pattern) =
        { c with kept := c.kept.touch pattern, hits := c.hits + 1 } := by
      simp only [call, find, hfind]
    rw [hevent, hcall]
    refine h.concat (by simp) rfl ?_ (fun x hx => ?_) rfl rfl
    · exact Recent.keys_touch h.keys (Recent.mem_keys_of_find? hfind)
    · exact h.stored x (Recent.mem_entries_of_mem_touch hx)
  | none =>
    have hevent : c.event (.get pattern) = .missed pattern := by
      simp only [event, hfst, hfind]
    have hcall : c.call (.get pattern) = { c with misses := c.misses + 1 } := by
      simp only [call, find, hfind]
    rw [hevent, hcall]
    refine h.concat (by simp) rfl ?_ h.stored rfl rfl
    rw [CacheEvent.used?, Option.toList, List.append_nil]
    exact h.keys

theorem Tracks.put (h : c.Tracks n events) (pattern : Text) (tokens : List Token) :
    (c.call (.put pattern tokens)).Tracks n (events ++ [.stored pattern tokens]) := by
  have hn : 0 < n := h.capacity ▸ c.capacity_pos
  have hkept : (c.call (.put pattern tokens)).kept = Recent.put n c.kept pattern tokens := by
    rw [← h.capacity]
    rfl
  refine h.concat (by simp) rfl ?_ (fun x hx => ?_) rfl rfl
  · rw [hkept]
    exact Recent.keys_put hn h.keys pattern tokens
  · rw [hkept, Recent.entries_put] at hx
    rw [CacheEvent.storedFor?]
    rcases List.mem_append.mp hx with hx | hx
    · obtain ⟨hmem, hne⟩ := Recent.mem_staying hx
      rw [if_neg (Ne.symm hne)]
      exact h.stored x hmem
    · rw [List.mem_singleton.mp hx, if_pos rfl]
      rfl

theorem Tracks.clear (h : c.Tracks n events) :
    (c.call .clear).Tracks n (events ++ [.cleared]) where
  capacity := h.capacity
  keys := by
    rw [CacheEvent.sinceCleared_cleared]
    exact (Recent.latest_nil n).symm
  stored e he := by cases he
  hits := by
    rw [CacheEvent.sinceCleared_cleared]
    rfl
  misses := by
    rw [CacheEvent.sinceCleared_cleared]
    rfl

/-- A call keeps the cache and the history together. -/
theorem Tracks.call (h : c.Tracks n events) (x : CacheCall) :
    (c.call x).Tracks n (CacheEvent.note n events x) := by
  rw [CacheEvent.note, ← h.event_eq]
  cases x with
  | get pattern => exact h.get pattern
  | put pattern tokens => exact h.put pattern tokens
  | clear => exact h.clear

/-! ## Calls in order -/

theorem Tracks.after (h : c.Tracks n events) (calls : List CacheCall) :
    (c.after calls).Tracks n (calls.foldl (CacheEvent.note n) events) := by
  induction calls generalizing c events with
  | nil => exact h
  | cons x calls ih => exact ih (h.call x)

/-- The calls come to what they should. -/
theorem Tracks.log_eq (h : c.Tracks n events) (calls : List CacheCall) :
    events ++ c.log calls = calls.foldl (CacheEvent.note n) events := by
  induction calls generalizing c events with
  | nil => exact List.append_nil events
  | cons x calls ih =>
    rw [log, List.foldl_cons, ← ih (h.call x), CacheEvent.note, ← h.event_eq, List.append_assoc,
      List.singleton_append]

theorem Tracks.size_le (h : c.Tracks n events) : c.size ≤ n := by
  have hsize : c.size = c.kept.keys.length := (List.length_map _).symm
  rw [hsize, h.keys]
  exact Recent.length_latest_le n _

/-- There is a cache of every positive capacity, and any calls come to what they should.  Behind
them the patterns kept, from the least recent one, are the distinct ones that have been used last
since the cache was cleared, up to its capacity.  Each has the tokens that have been stored for it
last, which a look-up finds for these patterns and no others.  The counts are how many look-ups
since then have found something and how many have not, and the cache is never larger than its
capacity. -/
theorem contents_after {n : Int} (hn : 1 ≤ n) :
    ∃ c, ofCapacity? n = some c ∧ ∀ calls events recent,
      events = CacheEvent.history n.toNat calls → recent = CacheEvent.sinceCleared events →
      c.log calls = events ∧
      (c.after calls).kept.keys = Recent.latest n.toNat (CacheEvent.used recent) ∧
      (∀ pattern ∈ (c.after calls).kept.keys, ∃ tokens,
        (c.after calls).kept.find? pattern = some tokens ∧
          CacheEvent.lastStored? pattern events = some tokens) ∧
      (∀ pattern, ((c.after calls).find pattern).1 =
        if pattern ∈ Recent.latest n.toNat (CacheEvent.used recent) then
          CacheEvent.lastStored? pattern events
        else none) ∧
      (c.after calls).hits = recent.countP CacheEvent.isFound ∧
      (c.after calls).misses = recent.countP CacheEvent.isMissed ∧
      (c.after calls).size ≤ n.toNat := by
  have hpos : 0 < n.toNat := by omega
  have hstart := tracks_nil hpos
  refine ⟨{ capacity := n.toNat, capacity_pos := hpos }, dif_pos (by omega), ?_⟩
  rintro calls events recent rfl rfl
  have h := hstart.after calls
  refine ⟨hstart.log_eq calls, h.keys, fun pattern hmem => ?_, h.fst_find, h.hits, h.misses,
    h.size_le⟩
  obtain ⟨tokens, hfind⟩ := Recent.exists_find? hmem
  exact ⟨tokens, hfind, h.stored _ (Recent.mem_entries_of_find? hfind)⟩

/-- With room for two patterns: one that was found is kept when a third one is stored, a pattern is
stored again, and what was missed since the cache was cleared is counted, but not used. -/
theorem contents_after_two : 1 ≤ (2 : Int) ∧ ∃ c d e, ofCapacity? 2 = some c ∧
    d = c.after [.put ['a'] [], .put ['b'] [], .get ['a'], .put ['c'] [],
      .put ['a'] [.literal ['a']]] ∧
    d.kept.keys = [['c'], ['a']] ∧ (d.find ['a']).1 = some [.literal ['a']] ∧
    e = c.after [.put ['a'] [], .clear, .get ['a'], .put ['b'] [], .get ['b'], .get ['c']] ∧
    e.kept.keys = [['b']] ∧ e.hits = 1 ∧ e.misses = 2 := by
  have hn : 1 ≤ (2 : Int) := by decide
  obtain ⟨c, hc, hcalls⟩ := contents_after hn
  obtain ⟨-, hkeys, -, hfind, -⟩ := hcalls [.put ['a'] [], .put ['b'] [], .get ['a'], .put ['c'] [],
    .put ['a'] [.literal ['a']]] _ _ rfl rfl
  obtain ⟨-, hkeys', -, -, hhits, hmisses, -⟩ := hcalls
    [.put ['a'] [], .clear, .get ['a'], .put ['b'] [], .get ['b'], .get ['c']] _ _ rfl rfl
  refine ⟨hn, c, _, _, hc, rfl, hkeys.trans ?_, (hfind ['a']).trans ?_, rfl, hkeys'.trans ?_,
    hhits.trans ?_, hmisses.trans ?_⟩
  all_goals decide +kernel

end TokenCache

end DatePattern
