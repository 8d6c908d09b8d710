/-
  Where the boundaries between the clusters of a text fall.

  Whether a boundary falls between two characters is up to these two and to what the text in front
  ends in: a pictograph with all that extends it, or a run of regional indicators.  A context stands
  for just that (`BreakContext.Remembers`); one more character keeps it so, and therefore it is true
  of the context behind any text.  Whether a boundary falls at a position is then read off the
  context there (`exists_remembers`).

  * `hasBoundaryAt_append_iff`: a boundary between the clusters of a text, as contexts see it.
  * `graphemes_cut`: a text comes apart at its boundaries, and at no other position.
  * `joinsPictographs_iff`: which joiners hold two pictographs together.
  * `boundaries_of_graphemes`: all other boundaries.
-/
import DatePattern.Proofs.Segmentation
import Mathlib.Data.List.DropRight
import Mathlib.Data.List.Infix
import Mathlib.Tactic.FinCases

namespace DatePattern.Text

/-! ## Positions -/

/-- A cluster boundary falls at a position of a text: some of its first clusters reach just as
far. -/
def HasBoundaryAt (t : Text) (i : Nat) : Prop :=
  ∃ us, us <+: graphemes t ∧ us.flatten.length = i

instance (t : Text) (i : Nat) : Decidable (HasBoundaryAt t i) :=
  decidable_of_iff (∃ us ∈ (graphemes t).inits, us.flatten.length = i) <| by
    simp only [HasBoundaryAt, List.mem_inits]

namespace BreakContext

theorem advance_append (x : BreakContext) (t u : Text) :
    x.advance (t ++ u) = (x.advance t).advance u := List.foldl_append

theorem reached_advance {x : BreakContext} (hx : x.Reached) (t : Text) : (x.advance t).Reached := by
  induction t generalizing x with
  | nil => exact hx
  | cons c t ih =>
    rw [advance_cons]
    exact ih (reached_next x _)

end BreakContext

theorem contextBehind_append (c : Char) (t u : Text) :
    contextBehind c (t ++ u) = (contextBehind c t).advance u :=
  BreakContext.advance_append _ t u

theorem reached_contextBehind (c : Char) (t : Text) : (contextBehind c t).Reached :=
  BreakContext.reached_advance (BreakContext.reached_start _) t

theorem breaks_nil_right (u : Text) : Breaks u [] := by
  cases u <;> trivial

/-- Behind a boundary only the text from there on matters. -/
theorem breaks_append_left {a u : Text} (hu : u ≠ []) (h : Breaks a u) (v : Text) :
    Breaks (a ++ u) v ↔ Breaks u v := by
  cases a with
  | nil => rfl
  | cons c a =>
    obtain ⟨d, u, rfl⟩ := List.exists_cons_of_ne_nil hu
    cases v with
    | nil => rfl
    | cons e v =>
      -- at the boundary the context is that of a text that begins there
      have hstart := BreakContext.alike_start_of_breaksBefore (reached_contextBehind c a) h
      simp only [List.cons_append, Breaks, contextBehind_append, BreakContext.advance_cons]
      rw [(hstart.advance u).breaksBefore]
      rfl

/-- Texts put together from clusters break where the clusters do. -/
theorem breaks_flatten {us vs : List Text} (hne : ∀ u ∈ us ++ vs, u ≠ [])
    (h : (us ++ vs).IsChain Breaks) : Breaks us.flatten vs.flatten := by
  induction us using List.reverseRecOn generalizing vs with
  | nil => trivial
  | append_singleton us u ih =>
    rw [List.append_assoc, List.singleton_append] at hne h
    have hu : u ≠ [] := hne u (by simp)
    have hfront : Breaks us.flatten u := (breaks_append_right _ hu).mp (ih hne h)
    rw [List.flatten_append, List.flatten_singleton, breaks_append_left hu hfront]
    cases vs with
    | nil => exact breaks_nil_right u
    | cons v vs =>
      rw [List.flatten_cons, breaks_append_right _ (hne v (by simp))]
      exact (List.isChain_cons_cons.mp h.right_of_append).1

/-- The boundaries between the clusters of a text fall where contexts see them. -/
theorem hasBoundaryAt_append_iff (a b : Text) :
    HasBoundaryAt (a ++ b) a.length ↔ Breaks a b := by
  constructor
  · rintro ⟨us, ⟨vs, hclusters⟩, hlength⟩
    -- clusters that reach as far as the first text make it up
    have hflatten : us.flatten ++ vs.flatten = a ++ b := by
      rw [← List.flatten_append, hclusters, flatten_graphemes]
    obtain ⟨rfl, rfl⟩ := List.append_inj hflatten hlength
    refine breaks_flatten (fun u hu => ?_) (hclusters ▸ isChain_graphemes _)
    rw [hclusters] at hu
    exact ne_nil_of_mem_graphemes hu
  · intro h
    refine ⟨graphemes a, ?_, by rw [flatten_graphemes]⟩
    rw [graphemes_append h]
    exact List.prefix_append _ _

/-! ## Cutting -/

/-- A text comes apart into the clusters of two parts exactly if a boundary falls between them.  Any
clusters that follow each other in a text are what they are cut into themselves. -/
theorem graphemes_cut (t : Text) :
    (∀ a b, t = a ++ b →
      (HasBoundaryAt t a.length ↔ graphemes t = graphemes a ++ graphemes b)) ∧
    (∀ us, us <:+: graphemes t → graphemes us.flatten = us) ∧
    ∀ u ∈ graphemes t, graphemes u = [u] := by
  refine ⟨?_, fun us hus => ?_, fun u hu => isCluster_of_mem_graphemes hu⟩
  · rintro a b rfl
    constructor
    · intro h
      exact graphemes_append ((hasBoundaryAt_append_iff a b).mp h)
    · intro h
      exact ⟨graphemes a, ⟨graphemes b, h.symm⟩, by rw [flatten_graphemes]⟩
  · have hcluster : ∀ u ∈ us, IsCluster u := fun u hu =>
      isCluster_of_mem_graphemes (hus.subset hu)
    obtain ⟨before, behind, heq⟩ := hus
    have hchain := isChain_graphemes t
    rw [← heq] at hchain
    exact graphemes_flatten hcluster hchain.left_of_append.right_of_append

/-- Two flags come apart into one and one, and not into the halves of the first. -/
theorem graphemes_cut_flags :
    graphemes ['🇩', '🇪', '🇫', '🇷'] = graphemes ['🇩', '🇪'] ++ graphemes ['🇫', '🇷'] ∧
      ¬HasBoundaryAt ['🇩', '🇪', '🇫', '🇷'] 1 := by
  have hcut : HasBoundaryAt ['🇩', '🇪', '🇫', '🇷'] 2 := by decide +kernel
  exact ⟨((graphemes_cut _).1 ['🇩', '🇪'] ['🇫', '🇷'] rfl).mp hcut, by decide +kernel⟩

/-! ## What contexts remember -/

/-- A text ends in a pictograph, any number of extending characters and so many joiners. -/
def EndsInPictograph (k : Nat) (t : Text) : Prop :=
  ∃ m, (.pictograph :: (List.replicate m .extend ++ List.replicate k .joiner)) <:+
    t.map breakProperty

/-- How many regional indicators a text ends in. -/
def indicatorsBehind (t : Text) : Nat :=
  (t.rtakeWhile fun c => breakProperty c = .regionalIndicator).length

theorem concat_suffix_concat_iff {α : Type} {l r : List α} {a b : α} :
    l ++ [a] <:+ r ++ [b] ↔ a = b ∧ l <:+ r := by
  rw [List.suffix_concat_iff]
  constructor
  · rintro (h | ⟨s, h, hs⟩)
    · simp at h
    · obtain ⟨rfl, hab⟩ := List.append_inj' h rfl
      exact ⟨List.singleton_inj.mp hab, hs⟩
  · rintro ⟨rfl, h⟩
    exact Or.inr ⟨l, rfl, h⟩

section EndsInPictograph

variable {t : Text} {c : Char} {k : Nat}

theorem not_endsInPictograph_nil (k : Nat) : ¬EndsInPictograph k [] := by
  rintro ⟨m, h⟩
  simp at h

theorem endsInPictograph_zero_concat : EndsInPictograph 0 (t ++ [c]) ↔
    breakProperty c = .pictograph ∨ breakProperty c = .extend ∧ EndsInPictograph 0 t := by
  simp only [EndsInPictograph, List.replicate_zero, List.append_nil, List.map_append,
    List.map_cons, List.map_nil]
  constructor
  · rintro ⟨m, h⟩
    cases m with
    | zero => exact Or.inl (concat_suffix_concat_iff (l := []).mp h).1.symm
    | succ m =>
      rw [List.replicate_succ', ← List.cons_append] at h
      obtain ⟨hc, h⟩ := concat_suffix_concat_iff.mp h
      exact Or.inr ⟨hc.symm, m, h⟩
  · rintro (hc | ⟨hc, m, h⟩)
    · refine ⟨0, ?_⟩
      rw [hc]
      exact List.suffix_append _ _
    · refine ⟨m + 1, ?_⟩
      rw [List.replicate_succ', ← List.cons_append, hc]
      exact concat_suffix_concat_iff.mpr ⟨rfl, h⟩

theorem endsInPictograph_succ_concat : EndsInPictograph (k + 1) (t ++ [c]) ↔
    breakProperty c = .joiner ∧ EndsInPictograph k t := by
  simp only [EndsInPictograph, List.replicate_succ', ← List.append_assoc, ← List.cons_append,
    List.map_append, List.map_cons, List.map_nil, concat_suffix_concat_iff, exists_and_left]
  exact and_congr_left fun _ => eq_comm

theorem exists_endsInPictograph_concat : (∃ k, EndsInPictograph k (t ++ [c])) ↔
    breakProperty c = .pictograph ∨ breakProperty c = .extend ∧ EndsInPictograph 0 t ∨
      breakProperty c = .joiner ∧ ∃ k, EndsInPictograph k t := by
  constructor
  · rintro ⟨k, h⟩
    cases k with
    | zero => exact (endsInPictograph_zero_concat.mp h).imp_right Or.inl
    | succ k =>
      obtain ⟨hc, h⟩ := endsInPictograph_succ_concat.mp h
      exact Or.inr (Or.inr ⟨hc, k, h⟩)
  · rintro (h | h | ⟨hc, k, h⟩)
    · exact ⟨0, endsInPictograph_zero_concat.mpr (Or.inl h)⟩
    · exact ⟨0, endsInPictograph_zero_concat.mpr (Or.inr h)⟩
    · exact ⟨k + 1, endsInPictograph_succ_concat.mpr ⟨hc, h⟩⟩

/-- The text determines the number of joiners. -/
theorem EndsInPictograph.unique {l : Nat} (hk : EndsInPictograph k t) (hl : EndsInPictograph l t) :
    k = l := by
  induction t using List.reverseRecOn generalizing k l with
  | nil => exact absurd hk (not_endsInPictograph_nil k)
  | append_singleton t c ih =>
    -- without joiners the last character is none, with some of them it is one
    have hjoiner : EndsInPictograph 0 (t ++ [c]) → breakProperty c ≠ .joiner := by
      intro h hc
      rcases endsInPictograph_zero_concat.mp h with h | ⟨h, -⟩ <;>
      · rw [hc] at h
        cases h
    cases k with
    | zero =>
      cases l with
      | zero => rfl
      | succ l => exact absurd (endsInPictograph_succ_concat.mp hl).1 (hjoiner hk)
    | succ k =>
      cases l with
      | zero => exact absurd (endsInPictograph_succ_concat.mp hk).1 (hjoiner hl)
      | succ l =>
        rw [ih (endsInPictograph_succ_concat.mp hk).2 (endsInPictograph_succ_concat.mp hl).2]

end EndsInPictograph

theorem indicatorsBehind_concat (t : Text) (c : Char) :
    indicatorsBehind (t ++ [c]) =
      if breakProperty c = .regionalIndicator then indicatorsBehind t + 1 else 0 := by
  simp only [indicatorsBehind, List.rtakeWhile_concat, decide_eq_true_eq]
  split
  · rw [List.length_append, List.length_singleton]
  · rfl

/-- The context knows what the text in front of a boundary ends in. -/
structure BreakContext.Remembers (x : BreakContext) (t : Text) : Prop where
  previous : t.getLast?.map breakProperty = some x.previous
  inPictograph : x.inPictograph = true ↔ ∃ k, EndsInPictograph k t
  indicators : x.indicators = indicatorsBehind t

namespace BreakContext

variable {x : BreakContext} {t : Text}

theorem Remembers.exists_concat (h : x.Remembers t) :
    ∃ s c, t = s ++ [c] ∧ breakProperty c = x.previous := by
  obtain ⟨c, hlast, hc⟩ := Option.map_eq_some_iff.mp h.previous
  obtain ⟨s, rfl⟩ := List.getLast?_eq_some_iff.mp hlast
  exact ⟨s, c, rfl, hc⟩

/-- A text that ends in a pictograph, but in no joiner. -/
theorem Remembers.endsInPictograph_zero_iff (h : x.Remembers t) :
    EndsInPictograph 0 t ↔ x.inPictograph = true ∧ x.previous ≠ .joiner := by
  rw [h.inPictograph]
  obtain ⟨s, c, rfl, hc⟩ := h.exists_concat
  rw [endsInPictograph_zero_concat, exists_endsInPictograph_concat, ← hc]
  by_cases hjoiner : breakProperty c = .joiner <;> simp [hjoiner]

/-- A text that ends in a pictograph and joiners. -/
theorem Remembers.endsInPictograph_succ_iff (h : x.Remembers t) :
    (∃ k, EndsInPictograph (k + 1) t) ↔ x.inPictograph = true ∧ x.previous = .joiner := by
  rw [h.inPictograph]
  obtain ⟨s, c, rfl, hc⟩ := h.exists_concat
  simp only [endsInPictograph_succ_concat, exists_endsInPictograph_concat, exists_and_left, ← hc]
  by_cases hjoiner : breakProperty c = .joiner <;> simp [hjoiner]

theorem remembers_start (c : Char) : (start (breakProperty c)).Remembers [c] where
  previous := rfl
  inPictograph := by
    rw [← List.nil_append [c], exists_endsInPictograph_concat]
    simp [start, not_endsInPictograph_nil]
  indicators := by
    rw [← List.nil_append [c], indicatorsBehind_concat]
    rfl

/-- One more character is remembered too. -/
theorem Remembers.next (h : x.Remembers t) (c : Char) :
    (x.next (breakProperty c)).Remembers (t ++ [c]) where
  previous := by
    rw [List.getLast?_concat]
    rfl
  inPictograph := by
    rw [exists_endsInPictograph_concat, h.endsInPictograph_zero_iff, ← h.inPictograph]
    cases breakProperty c <;> simp [BreakContext.next]
  indicators := by
    rw [indicatorsBehind_concat, ← h.indicators]
    rfl

end BreakContext

theorem remembers_contextBehind (c : Char) (t : Text) : (contextBehind c t).Remembers (c :: t) := by
  induction t using List.reverseRecOn with
  | nil => exact BreakContext.remembers_start c
  | append_singleton t d ih =>
    rw [contextBehind_append, ← List.cons_append]
    exact ih.next d

/-- Between two characters, the context behind the first tells whether a boundary falls. -/
theorem exists_remembers {t : Text} {i : Nat} {c d : Char} (hc : t[i]? = some c)
    (hd : t[i + 1]? = some d) :
    ∃ x : BreakContext, x.Remembers (t.take (i + 1)) ∧ x.previous = breakProperty c ∧
      (HasBoundaryAt t (i + 1) ↔ x.breaksBefore (breakProperty d) = true) := by
  obtain ⟨hlength, hdrop⟩ := List.getElem?_eq_some_iff.mp hd
  have hfront : t.take (i + 1) = t.take i ++ [c] := by
    rw [List.take_add_one, hc, Option.toList_some]
  have hsplit : t = t.take (i + 1) ++ d :: t.drop (i + 2) := by
    rw [← hdrop, ← List.drop_eq_getElem_cons hlength, List.take_append_drop]
  have hi : (t.take (i + 1)).length = i + 1 := List.length_take_of_le hlength.le
  have hboundary := hasBoundaryAt_append_iff (t.take (i + 1)) (d :: t.drop (i + 2))
  rw [← hsplit, hi] at hboundary
  obtain ⟨e, s, hes⟩ := List.exists_cons_of_length_eq_add_one hi
  have hremembers := remembers_contextBehind e s
  rw [hes] at hboundary
  rw [← hes] at hremembers
  refine ⟨contextBehind e s, hremembers, ?_, hboundary⟩
  have hprevious := hremembers.previous
  rw [hfront, List.getLast?_concat, Option.map_some] at hprevious
  exact (Option.some.inj hprevious).symm

/-! ## Joiners -/

/-- Between a joiner and a pictograph no boundary falls exactly if the text in front ends in a
pictograph, any number of extending characters and one joiner or more.  A rule that asks for a
single joiner gives the same answer at just those positions that do not stand behind two or more
of them. -/
theorem joinsPictographs_iff {t : Text} {i : Nat} {c d : Char} (hc : t[i]? = some c)
    (hd : t[i + 1]? = some d) (hjoiner : breakProperty c = .joiner)
    (hpictograph : breakProperty d = .pictograph) :
    (¬HasBoundaryAt t (i + 1) ↔ ∃ k, EndsInPictograph (k + 1) (t.take (i + 1))) ∧
    ((¬HasBoundaryAt t (i + 1) ↔ EndsInPictograph 1 (t.take (i + 1))) ↔
      ∀ k, ¬EndsInPictograph (k + 2) (t.take (i + 1))) := by
  obtain ⟨x, hx, hprevious, hboundary⟩ := exists_remembers hc hd
  have hjoins : ¬HasBoundaryAt t (i + 1) ↔ ∃ k, EndsInPictograph (k + 1) (t.take (i + 1)) := by
    rw [hx.endsInPictograph_succ_iff, hboundary, hprevious, hjoiner, hpictograph]
    simp [BreakContext.breaksBefore, hprevious, hjoiner, BreakProperty.isControl,
      BreakProperty.continuesSyllable, BreakProperty.attaches]
  refine ⟨hjoins, ?_⟩
  rw [hjoins]
  constructor
  · intro h k hk
    have hone := hk.unique (h.mp ⟨k + 1, hk⟩)
    omega
  · intro h
    refine ⟨?_, fun hone => ⟨0, hone⟩⟩
    rintro ⟨k, hk⟩
    cases k with
    | zero => exact hk
    | succ k => exact absurd hk (h k)

/-- A heart with a mark on it, joined to a sign. -/
theorem joinsPictographs_iff_heart :
    breakProperty '\u200d' = .joiner ∧ breakProperty '\u00a9' = .pictograph ∧
      EndsInPictograph 1 ['\u2764', '\u0301', '\u200d'] ∧
      ¬HasBoundaryAt ['\u2764', '\u0301', '\u200d', '\u00a9'] 3 := by
  have hjoiner : breakProperty '\u200d' = .joiner := by decide +kernel
  have hpictograph : breakProperty '\u00a9' = .pictograph := by decide +kernel
  have hends : EndsInPictograph 1 ['\u2764', '\u0301', '\u200d'] := ⟨1, by decide +kernel⟩
  obtain ⟨hjoins, -⟩ :=
    joinsPictographs_iff (t := ['\u2764', '\u0301', '\u200d', '\u00a9']) (i := 2) rfl rfl hjoiner
      hpictograph
  exact ⟨hjoiner, hpictograph, hends, hjoins.mpr ⟨0, hends⟩⟩

/-- Two joiners hold two signs together, though a single one does not stand between them. -/
theorem not_hasBoundaryAt_joiners :
    breakProperty '\u200d' = .joiner ∧ breakProperty '\u00a9' = .pictograph ∧
      ¬HasBoundaryAt ['\u00a9', '\u200d', '\u200d', '\u00a9'] 3 ∧
      ¬EndsInPictograph 1 ['\u00a9', '\u200d', '\u200d'] := by
  have htwo : EndsInPictograph 2 ['\u00a9', '\u200d', '\u200d'] := ⟨0, by decide +kernel⟩
  refine ⟨by decide +kernel, by decide +kernel, by decide +kernel, fun hone => ?_⟩
  cases hone.unique htwo

/-! ## All other boundaries -/

/-- The rules by which two neighbouring characters stay in one cluster, except for pictographs.
They look at the properties of both and, for flags, at the text up to the first one.  Next to a
control only a carriage return and a line feed stay together. -/
inductive StaysTogether (t : Text) : BreakProperty → BreakProperty → Prop
  | lineEnd : StaysTogether t .carriageReturn .lineFeed
  | leading {q : BreakProperty}
    (hq : q ∈ [.leadingJamo, .vowelJamo, .openSyllable, .closedSyllable]) :
    StaysTogether t .leadingJamo q
  | vowel {p q : BreakProperty} (hp : p ∈ [.openSyllable, .vowelJamo])
    (hq : q ∈ [.vowelJamo, .trailingJamo]) : StaysTogether t p q
  | trailing {p : BreakProperty} (hp : p ∈ [.closedSyllable, .trailingJamo]) :
    StaysTogether t p .trailingJamo
  | attached {p q : BreakProperty} (hp : p ∉ [.carriageReturn, .lineFeed, .control])
    (hq : q ∈ [.extend, .joiner, .spacingMark]) : StaysTogether t p q
  | flag (h : indicatorsBehind t % 2 = 1) :
    StaysTogether t .regionalIndicator .regionalIndicator

theorem BreakProperty.isControl_iff {p : BreakProperty} :
    p.isControl = true ↔ p ∈ [.carriageReturn, .lineFeed, .control] := by
  cases p <;> decide

theorem BreakProperty.attaches_iff {p : BreakProperty} :
    p.attaches = true ↔ p ∈ [.extend, .joiner, .spacingMark] := by
  cases p <;> decide

theorem BreakProperty.continuesSyllable_iff {p q : BreakProperty} :
    p.continuesSyllable q = true ↔
      p = .leadingJamo ∧ q ∈ [.leadingJamo, .vowelJamo, .openSyllable, .closedSyllable] ∨
      p ∈ [.openSyllable, .vowelJamo] ∧ q ∈ [.vowelJamo, .trailingJamo] ∨
      p ∈ [.closedSyllable, .trailingJamo] ∧ q = .trailingJamo := by
  cases p <;> cases q <;> decide

namespace BreakContext

variable {x : BreakContext} {t : Text} {q : BreakProperty}

/-- Where no boundary falls, a rule keeps the characters together. -/
theorem Remembers.staysTogether (hx : x.Remembers t)
    (hjoiner : ¬(x.previous = .joiner ∧ q = .pictograph)) (h : x.breaksBefore q = false) :
    StaysTogether t x.previous q := by
  -- the conditions of `breaksBefore` one after the other; a rule answers to each that is met
  unfold breaksBefore at h
  split at h
  · rename_i hline
    rw [hline.1, hline.2]
    exact .lineEnd
  split at h
  · cases h
  rename_i hcontrol
  rw [Bool.or_eq_true, not_or] at hcontrol
  split at h
  · rename_i hsyllable
    rcases BreakProperty.continuesSyllable_iff.mp hsyllable with ⟨hp, hq⟩ | ⟨hp, hq⟩ | ⟨hp, hq⟩
    · rw [hp]
      exact .leading hq
    · exact .vowel hp hq
    · rw [hq]
      exact .trailing hp
  split at h
  · rename_i hattaches
    exact .attached (mt BreakProperty.isControl_iff.mpr hcontrol.1)
      (BreakProperty.attaches_iff.mp hattaches)
  split at h
  · rename_i hpictograph
    rw [Bool.and_eq_true, decide_eq_true_eq] at hpictograph
    exact absurd ⟨hpictograph.1.2, hpictograph.2⟩ hjoiner
  split at h
  · rename_i hflag
    rw [decide_eq_false_iff_not, hx.indicators] at h
    rw [hflag.1, hflag.2]
    exact .flag (by omega)
  · cases h

/-- And where a rule does so, none falls. -/
theorem Remembers.breaksBefore_eq_false (hx : x.Remembers t) (h : StaysTogether t x.previous q) :
    x.breaksBefore q = false := by
  have hindicators := hx.indicators
  obtain ⟨p, inPictograph, indicators⟩ := x
  cases h with
  | lineEnd => rfl
  | leading hq =>
    fin_cases hq <;> rfl
  | vowel hp hq =>
    fin_cases hp <;> fin_cases hq <;> rfl
  | trailing hp =>
    fin_cases hp <;> rfl
  | attached hp hq =>
    rw [breaksBefore_of_attaches _ (BreakProperty.attaches_iff.mpr hq), ← Bool.not_eq_true]
    exact mt BreakProperty.isControl_iff.mp hp
  | flag hodd =>
    rw [← hindicators] at hodd
    simp [breaksBefore, BreakProperty.isControl, BreakProperty.continuesSyllable,
      BreakProperty.attaches, hodd]

end BreakContext

/-- The clusters of a text are not empty and make up the text, and between two characters a boundary
falls unless a rule keeps them together; joiners in front of pictographs are left out here. -/
theorem boundaries_of_graphemes (t : Text) :
    (∀ u ∈ graphemes t, u ≠ []) ∧ (graphemes t).flatten = t ∧
    ∀ i c d, t[i]? = some c → t[i + 1]? = some d →
      ¬(breakProperty c = .joiner ∧ breakProperty d = .pictograph) →
      (HasBoundaryAt t (i + 1) ↔
        ¬StaysTogether (t.take (i + 1)) (breakProperty c) (breakProperty d)) := by
  refine ⟨fun u hu => ne_nil_of_mem_graphemes hu, flatten_graphemes t, ?_⟩
  intro i c d hc hd hjoiner
  obtain ⟨x, hx, hprevious, hboundary⟩ := exists_remembers hc hd
  rw [← hprevious] at hjoiner ⊢
  rw [hboundary, ← Bool.not_eq_false]
  exact not_congr ⟨hx.staysTogether hjoiner, hx.breaksBefore_eq_false⟩

/-- A mark parts two regional indicators, and the second one begins a flag with a third. -/
theorem boundaries_of_graphemes_flag :
    HasBoundaryAt ['🇩', '\u0301', '🇪', '🇫'] 2 ∧ ¬HasBoundaryAt ['🇩', '\u0301', '🇪', '🇫'] 3 := by
  obtain ⟨-, -, hrules⟩ := boundaries_of_graphemes ['🇩', '\u0301', '🇪', '🇫']
  have hmark : breakProperty '\u0301' = .extend := by decide +kernel
  have hfirst : breakProperty '🇪' = .regionalIndicator := by decide +kernel
  have hsecond : breakProperty '🇫' = .regionalIndicator := by decide +kernel
  have hparted := hrules 1 '\u0301' '🇪' rfl rfl
  have hflag := hrules 2 '🇪' '🇫' rfl rfl
  rw [hmark, hfirst] at hparted
  rw [hfirst, hsecond] at hflag
  refine ⟨(hparted (by decide)).mpr fun h => ?_, fun h => (hflag (by decide)).mp h ?_⟩
  · cases h with
    | attached hp hq => exact absurd hq (by decide)
    | vowel hp hq => exact absurd hp (by decide)
  · exact .flag (by decide +kernel)

end DatePattern.Text
