/-
  Cutting a text at a cluster boundary.

  Whether a boundary falls between two texts depends on the text in front through its last cluster
  alone: what a context remembers of the clusters before that one decides nothing any more
  (`Alike`).  So a text cut at a boundary is cut into the clusters of its two parts, and a list of
  clusters with a boundary between any two neighbours is what its own concatenation is cut into.

  * `graphemes_append`: the clusters of two texts with a boundary between them.
  * `graphemes_eq_iff`: which lists of texts are the clusters of a text.
  * `graphemes_of_plain`: a text of characters without a special property is cut at each of them.
-/
import Mathlib.Data.List.Chain
import DatePattern.Text.Grapheme

namespace DatePattern.Text

/-! ## Contexts behind which the same boundaries fall -/

namespace BreakContext

/-- The context behind further text. -/
def advance (x : BreakContext) (t : Text) : BreakContext :=
  t.foldl (fun y c => y.next (breakProperty c)) x

theorem advance_cons (x : BreakContext) (c : Char) (t : Text) :
    x.advance (c :: t) = (x.next (breakProperty c)).advance t := rfl

/-- Two contexts that agree on all that later boundaries depend on. -/
structure Alike (x y : BreakContext) : Prop where
  previous : x.previous = y.previous
  inPictograph : x.inPictograph = y.inPictograph
  parity : x.indicators % 2 = y.indicators % 2

theorem Alike.next {x y : BreakContext} (h : Alike x y) (p : BreakProperty) :
    Alike (x.next p) (y.next p) := by
  refine ⟨rfl, ?_, ?_⟩
  · simp only [BreakContext.next, h.previous, h.inPictograph]
  · have hp := h.parity
    simp only [BreakContext.next]
    split <;> omega

theorem Alike.advance {x y : BreakContext} (h : Alike x y) (t : Text) :
    Alike (x.advance t) (y.advance t) := by
  induction t generalizing x y with
  | nil => exact h
  | cons c t ih =>
    rw [advance_cons, advance_cons]
    exact ih (h.next _)

theorem Alike.breaksBefore {x y : BreakContext} (h : Alike x y) (p : BreakProperty) :
    x.breaksBefore p = y.breaksBefore p := by
  unfold BreakContext.breaksBefore
  rw [h.previous, h.inPictograph, h.parity]

/-- What holds behind every text: only regional indicators are counted, and a control ends a
pictograph. -/
structure Reached (x : BreakContext) : Prop where
  indicators : x.previous ≠ .regionalIndicator → x.indicators = 0
  inPictograph : x.previous.isControl = true → x.inPictograph = false

theorem reached_start (p : BreakProperty) : Reached (start p) := by
  refine ⟨fun h => ?_, fun h => ?_⟩
  · exact if_neg h
  · cases p <;> first | rfl | cases h

theorem reached_next (x : BreakContext) (p : BreakProperty) : Reached (x.next p) := by
  refine ⟨fun h => ?_, fun h => ?_⟩
  · exact if_neg h
  · cases p <;> first | rfl | cases h

/-- A control in front is the one reason for a boundary before a mark. -/
theorem breaksBefore_of_attaches (x : BreakContext) {p : BreakProperty} (hp : p.attaches = true) :
    x.breaksBefore p = x.previous.isControl := by
  have hlf : ¬(x.previous = .carriageReturn ∧ p = .lineFeed) := by
    rintro ⟨-, rfl⟩
    cases hp
  have hc : p.isControl = false := by
    cases p <;> first | rfl | cases hp
  unfold breaksBefore
  rw [if_neg hlf, hc, Bool.or_false, hp]
  cases x.previous.isControl <;> simp

/-- An even number of regional indicators stands in front of a boundary before a further one. -/
theorem indicators_even_of_breaksBefore {x : BreakContext} (hx : Reached x)
    (h : x.breaksBefore .regionalIndicator = true) : x.indicators % 2 = 0 := by
  by_cases hp : x.previous = .regionalIndicator
  · simpa [breaksBefore, hp, BreakProperty.isControl, BreakProperty.continuesSyllable,
      BreakProperty.attaches] using h
  · rw [hx.indicators hp]

/-- At a boundary the past is forgotten: the context is that behind the first character of a
text. -/
theorem alike_start_of_breaksBefore {x : BreakContext} (hx : Reached x) {p : BreakProperty}
    (h : x.breaksBefore p = true) : Alike (x.next p) (start p) := by
  refine ⟨rfl, ?_, ?_⟩
  · have hctl : p.attaches = true → x.inPictograph = false := by
      intro hp
      rw [breaksBefore_of_attaches x hp] at h
      exact hx.inPictograph h
    cases p <;> simp_all [BreakContext.next, start, BreakProperty.attaches]
  · by_cases hp : p = .regionalIndicator
    · subst hp
      have he := indicators_even_of_breaksBefore hx h
      simp only [BreakContext.next, start, if_true]
      omega
    · simp only [BreakContext.next, start, if_neg hp]

end BreakContext

theorem clustersFrom_congr {x y : BreakContext} (h : x.Alike y) (t : Text) :
    clustersFrom x t = clustersFrom y t := by
  induction t generalizing x y with
  | nil => rfl
  | cons c t ih =>
    simp only [clustersFrom]
    rw [h.breaksBefore, ih (h.next _)]

/-! ## Boundaries between texts -/

/-- The context behind a text that begins with a given character. -/
def contextBehind (c : Char) (t : Text) : BreakContext :=
  (BreakContext.start (breakProperty c)).advance t

/-- A cluster boundary falls between two texts; nothing has to be cut beside an empty text. -/
def Breaks : Text → Text → Prop
  | c :: a, d :: _ => (contextBehind c a).breaksBefore (breakProperty d) = true
  | _, _ => True

/-- A text that is one cluster. -/
def IsCluster (u : Text) : Prop := graphemes u = [u]

theorem IsCluster.ne_nil {u : Text} (h : IsCluster u) : u ≠ [] := by
  rintro rfl
  cases h

theorem isCluster_singleton (c : Char) : IsCluster [c] := rfl

theorem isCluster_cons_iff {c : Char} {t : Text} :
    IsCluster (c :: t) ↔ clustersFrom (.start (breakProperty c)) t = (t, []) := by
  unfold IsCluster graphemes
  constructor
  · intro h
    injection h with h₁ h₂
    injection h₁ with _ h₁
    exact Prod.ext h₁ h₂
  · intro h
    simp only [h]

theorem breaks_append_right {a b : Text} (c : Text) (hb : b ≠ []) :
    Breaks a (b ++ c) ↔ Breaks a b := by
  cases b with
  | nil => exact absurd rfl hb
  | cons d b => cases a <;> rfl

theorem clustersFrom_append {x : BreakContext} (hx : x.Reached) (a : Text) {d : Char} (b : Text)
    (h : (x.advance a).breaksBefore (breakProperty d) = true) :
    clustersFrom x (a ++ d :: b) =
      ((clustersFrom x a).1, (clustersFrom x a).2 ++ graphemes (d :: b)) := by
  induction a generalizing x with
  | nil =>
    have hx' : x.breaksBefore (breakProperty d) = true := h
    have hstart := BreakContext.alike_start_of_breaksBefore hx hx'
    simp only [List.nil_append, clustersFrom, graphemes]
    rw [if_pos hx', clustersFrom_congr hstart]
  | cons c a ih =>
    have hrest := ih (BreakContext.reached_next x _) h
    simp only [List.cons_append, clustersFrom]
    rw [hrest]
    split <;> rfl

/-- A text cut at a boundary is cut into the clusters of both parts. -/
theorem graphemes_append {a b : Text} (h : Breaks a b) :
    graphemes (a ++ b) = graphemes a ++ graphemes b := by
  cases a with
  | nil => rfl
  | cons c a =>
    cases b with
    | nil => simp [graphemes]
    | cons d b =>
      simp only [List.cons_append, graphemes]
      rw [clustersFrom_append (BreakContext.reached_start _) a b h]
      rfl

/-! ## Which lists are the clusters of a text -/

/-- What `clustersFrom` cuts off: the rest of the cluster begun holds no boundary, the clusters
behind it are clusters with boundaries between them, and one falls in front of the first. -/
theorem clustersFrom_spec {x : BreakContext} (hx : x.Reached) (t : Text) :
    clustersFrom x (clustersFrom x t).1 = ((clustersFrom x t).1, []) ∧
      (∀ u ∈ (clustersFrom x t).2, IsCluster u) ∧ (clustersFrom x t).2.IsChain Breaks ∧
      ∀ c u us, (clustersFrom x t).2 = (c :: u) :: us →
        (x.advance (clustersFrom x t).1).breaksBefore (breakProperty c) = true := by
  induction t generalizing x with
  | nil => exact ⟨rfl, by simp [clustersFrom], List.IsChain.nil, by simp [clustersFrom]⟩
  | cons c t ih =>
    obtain ⟨hhead, hmem, hchain, hfirst⟩ := ih (BreakContext.reached_next x (breakProperty c))
    simp only [clustersFrom]
    by_cases hb : x.breaksBefore (breakProperty c) = true
    · -- the cluster that begins here is the same one that the text from here on begins with
      have hstart := BreakContext.alike_start_of_breaksBefore hx hb
      simp only [if_pos hb]
      refine ⟨rfl, ?_, ?_, ?_⟩
      · intro u hu
        rcases List.mem_cons.mp hu with rfl | hu
        · rw [isCluster_cons_iff, ← clustersFrom_congr hstart]
          exact hhead
        · exact hmem u hu
      · cases hothers : (clustersFrom (x.next (breakProperty c)) t).2 with
        | nil => exact List.IsChain.singleton _
        | cons u us =>
          rw [hothers] at hchain
          refine List.isChain_cons_cons.mpr ⟨?_, hchain⟩
          cases u with
          | nil => trivial
          | cons d u =>
            have hd := hfirst d u us hothers
            rw [(hstart.advance _).breaksBefore] at hd
            exact hd
      · intro d u us heq
        injection heq with heq _
        injection heq with heq _
        rw [← heq]
        exact hb
    · simp only [if_neg hb]
      refine ⟨?_, hmem, hchain, hfirst⟩
      simp only [clustersFrom, if_neg hb, hhead]

theorem isCluster_of_mem_graphemes {t u : Text} (h : u ∈ graphemes t) : IsCluster u := by
  cases t with
  | nil => simp [graphemes] at h
  | cons c t =>
    obtain ⟨hhead, hmem, -, -⟩ := clustersFrom_spec (BreakContext.reached_start (breakProperty c)) t
    rcases List.mem_cons.mp h with rfl | h
    · exact isCluster_cons_iff.mpr hhead
    · exact hmem u h

theorem isChain_graphemes (t : Text) : (graphemes t).IsChain Breaks := by
  cases t with
  | nil => exact List.IsChain.nil
  | cons c t =>
    have hstart := BreakContext.reached_start (breakProperty c)
    obtain ⟨-, -, hchain, hfirst⟩ := clustersFrom_spec hstart t
    simp only [graphemes]
    cases hothers : (clustersFrom (.start (breakProperty c)) t).2 with
    | nil => exact List.IsChain.singleton _
    | cons u us =>
      rw [hothers] at hchain
      refine List.isChain_cons_cons.mpr ⟨?_, hchain⟩
      cases u with
      | nil => trivial
      | cons d u => exact hfirst d u us hothers

/-- Clusters with a boundary between any two neighbours are what their concatenation is cut
into. -/
theorem graphemes_flatten {us : List Text} (hu : ∀ u ∈ us, IsCluster u)
    (hchain : us.IsChain Breaks) : graphemes us.flatten = us := by
  induction us with
  | nil => rfl
  | cons u us ih =>
    have hrest := ih (fun v hv => hu v (List.mem_cons_of_mem _ hv)) hchain.tail
    have hfirst : IsCluster u := hu u List.mem_cons_self
    have hb : Breaks u us.flatten := by
      cases us with
      | nil => cases u <;> trivial
      | cons v us =>
        have hv : v ≠ [] := (hu v (List.mem_cons_of_mem _ List.mem_cons_self)).ne_nil
        rw [List.flatten_cons, breaks_append_right _ hv]
        exact (List.isChain_cons_cons.mp hchain).1
    rw [List.flatten_cons, graphemes_append hb, hrest, hfirst]
    rfl

theorem graphemes_eq_iff {t : Text} {us : List Text} :
    graphemes t = us ↔ us.flatten = t ∧ (∀ u ∈ us, IsCluster u) ∧ us.IsChain Breaks := by
  constructor
  · rintro rfl
    exact ⟨flatten_graphemes t, fun u hu => isCluster_of_mem_graphemes hu, isChain_graphemes t⟩
  · rintro ⟨rfl, hu, hchain⟩
    exact graphemes_flatten hu hchain

/-! ## Characters without a special property -/

theorem breaksBefore_other (x : BreakContext) : x.breaksBefore .other = true := by
  obtain ⟨p, b, n⟩ := x
  cases p <;> simp [BreakContext.breaksBefore, BreakProperty.isControl, BreakProperty.attaches,
    BreakProperty.continuesSyllable]

theorem breaksBefore_of_other {x : BreakContext} (h : x.previous = .other) (p : BreakProperty) :
    x.breaksBefore p = !p.attaches := by
  cases p <;> simp [BreakContext.breaksBefore, h, BreakProperty.isControl, BreakProperty.attaches,
    BreakProperty.continuesSyllable]

/-- A boundary falls in front of a character without a special property. -/
theorem breaks_other (u : Text) {c : Char} (h : breakProperty c = .other) (t : Text) :
    Breaks u (c :: t) := by
  cases u with
  | nil => trivial
  | cons d u =>
    simp only [Breaks, h]
    exact breaksBefore_other _

/-- Behind such a character a boundary falls in front of all but marks and joiners. -/
theorem breaks_of_other {c : Char} (h : breakProperty c = .other) (d : Char) (t : Text) :
    Breaks [c] (d :: t) ↔ (breakProperty d).attaches = false := by
  have hx : (contextBehind c []).previous = .other := h
  simp only [Breaks, breaksBefore_of_other hx, Bool.not_eq_true']

theorem not_attaches_of_other {c : Char} (h : breakProperty c = .other) :
    (breakProperty c).attaches = false := by
  rw [h]
  rfl

theorem graphemes_of_plain {t : Text} (h : ∀ c ∈ t, breakProperty c = .other) :
    graphemes t = t.map fun c => [c] := by
  have hchain : (t.map fun c => [c]).IsChain Breaks := by
    induction t with
    | nil => exact List.IsChain.nil
    | cons c t ih =>
      have hrest := ih fun d hd => h d (List.mem_cons_of_mem _ hd)
      cases t with
      | nil => exact List.IsChain.singleton _
      | cons d t =>
        have hd : breakProperty d = .other := h d (List.mem_cons_of_mem _ List.mem_cons_self)
        exact List.isChain_cons_cons.mpr ⟨breaks_other [c] hd [], hrest⟩
  rw [graphemes_eq_iff]
  refine ⟨?_, ?_, hchain⟩
  · rw [← List.flatMap_def, List.flatMap_singleton']
  · intro u hu
    obtain ⟨c, -, rfl⟩ := List.mem_map.mp hu
    exact isCluster_singleton c

end DatePattern.Text
