/-
  The scan of a pattern, one step at a time.

  `longestMatch?_eq_some_iff` says which word is taken: one that the clusters begin with, and none
  of those is longer.  The scan has five kinds of steps (`scan_escape`, `scan_literal`, …), and
  `scan_induction` carries a property of the clusters left and the tokens read from them through
  any scan.

  Names of plain characters are cut at every character, so that their words are told by their
  letters: `longestMatch?_plain`.
-/
import DatePattern.Pattern.Scan
import DatePattern.Proofs.Segmentation

namespace DatePattern

open Text

/-! ## The longest match -/

namespace Alphabet

theorem foldl_longer_some (ws : List (List Text)) (u : List Text) :
    ∃ w, ws.foldl longer (some u) = some w ∧ u.length ≤ w.length ∧
      ∀ v ∈ ws, v.length ≤ w.length := by
  induction ws generalizing u with
  | nil => exact ⟨u, rfl, Nat.le_refl _, by simp⟩
  | cons v ws ih =>
    by_cases hlt : u.length < v.length
    · obtain ⟨w, hw, hvw, hall⟩ := ih v
      refine ⟨w, ?_, by omega, ?_⟩
      · simp only [List.foldl_cons, longer, if_pos hlt, hw]
      · intro x hx
        rcases List.mem_cons.mp hx with rfl | hx
        · exact hvw
        · exact hall x hx
    · obtain ⟨w, hw, huw, hall⟩ := ih u
      refine ⟨w, ?_, huw, ?_⟩
      · simp only [List.foldl_cons, longer, if_neg hlt, hw]
      · intro x hx
        rcases List.mem_cons.mp hx with rfl | hx
        · omega
        · exact hall x hx

theorem foldl_longer_none (ws : List (List Text)) :
    (ws = [] ∧ ws.foldl longer none = none) ∨
      ∃ w, ws.foldl longer none = some w ∧ ∀ v ∈ ws, v.length ≤ w.length := by
  cases ws with
  | nil => exact Or.inl ⟨rfl, rfl⟩
  | cons u ws =>
    obtain ⟨w, hw, huw, hall⟩ := foldl_longer_some ws u
    refine Or.inr ⟨w, hw, ?_⟩
    intro v hv
    rcases List.mem_cons.mp hv with rfl | hv
    · exact huw
    · exact hall v hv

theorem mem_matching {a : Alphabet} {clusters w : List Text} :
    w ∈ a.matching clusters ↔ w ∈ a ∧ w ≠ [] ∧ w <+: clusters := by
  simp [matching]

theorem longestMatch?_eq_none_iff {a : Alphabet} {clusters : List Text} :
    a.longestMatch? clusters = none ↔ ∀ w ∈ a, w ≠ [] → ¬w <+: clusters := by
  unfold longestMatch?
  rcases foldl_longer_none (a.matching clusters) with ⟨hnil, hnone⟩ | ⟨w, hw, -⟩
  · rw [hnone]
    refine ⟨fun _ w hw hne hpre => ?_, fun _ => rfl⟩
    have hmem : w ∈ a.matching clusters := mem_matching.mpr ⟨hw, hne, hpre⟩
    rw [hnil] at hmem
    cases hmem
  · rw [hw]
    have hmem := mem_matching.mp ((foldl_longer_mem hw).resolve_right (by simp))
    exact ⟨fun h => by simp at h, fun h => absurd hmem.2.2 (h w hmem.1 hmem.2.1)⟩

theorem longestMatch?_eq_some_iff {a : Alphabet} {clusters w : List Text} :
    a.longestMatch? clusters = some w ↔
      w ∈ a ∧ w ≠ [] ∧ w <+: clusters ∧
        ∀ v ∈ a, v ≠ [] → v <+: clusters → v.length ≤ w.length := by
  have hmax : ∀ {u}, a.longestMatch? clusters = some u →
      ∀ v ∈ a, v ≠ [] → v <+: clusters → v.length ≤ u.length := by
    intro u hu v hv hne hpre
    have hmem : v ∈ a.matching clusters := mem_matching.mpr ⟨hv, hne, hpre⟩
    rcases foldl_longer_none (a.matching clusters) with ⟨hnil, -⟩ | ⟨w, hw, hall⟩
    · rw [hnil] at hmem
      cases hmem
    · unfold longestMatch? at hu
      rw [hw] at hu
      cases hu
      exact hall v hmem
  constructor
  · intro h
    obtain ⟨hw, hne, hpre⟩ := longestMatch?_some h
    exact ⟨hw, hne, hpre, hmax h⟩
  · rintro ⟨hw, hne, hpre, hlong⟩
    cases hu : a.longestMatch? clusters with
    | none => exact absurd hpre (longestMatch?_eq_none_iff.mp hu w hw hne)
    | some u =>
      -- two words that the clusters begin with and that are equally long are the same
      obtain ⟨hua, hune, hupre⟩ := longestMatch?_some hu
      have h₁ := hlong u hua hune hupre
      have h₂ := hmax hu w hw hne hpre
      rcases List.prefix_or_prefix_of_prefix hupre hpre with h | h
      · rw [h.eq_of_length (by omega)]
      · rw [h.eq_of_length (by omega)]

end Alphabet

/-! ## The steps of a scan -/

theorem scan_nil (a : Alphabet) : scan a 0 [] = [] := by
  simp [scan]

/-- An escape at the end is literal. -/
theorem scan_dangling (a : Alphabet) : scan a 0 [escapeCluster] = [.literal escapeCluster] := by
  simp [scan]

/-- An escape makes the next cluster literal. -/
theorem scan_escape (a : Alphabet) (next : Text) (rest : List Text) :
    scan a 0 (escapeCluster :: next :: rest) = Token.joinLiteral next (scan a 0 rest) := by
  simp only [scan, if_true]

theorem scan_literal {a : Alphabet} {cluster : Text} {rest : List Text}
    (hc : cluster ≠ escapeCluster) (h : a.longestMatch? (cluster :: rest) = none) :
    scan a 0 (cluster :: rest) = Token.joinLiteral cluster (scan a 0 rest) := by
  simp only [scan, if_neg hc, h]

theorem scan_symbol {a : Alphabet} {cluster : Text} {word rest : List Text}
    (hc : cluster ≠ escapeCluster)
    (h : a.longestMatch? (cluster :: word ++ rest) = some (cluster :: word)) :
    scan a 0 (cluster :: word ++ rest) =
      .symbol (cluster :: word).flatten :: scan a 0 rest := by
  have hskip : scan a ((cluster :: word).length - 1) (word ++ rest) = scan a 0 rest := by
    rw [scan_skip, List.length_cons, Nat.add_sub_cancel, List.drop_left]
  rw [List.cons_append] at h ⊢
  simp only [scan, if_neg hc, h]
  rw [hskip]

/-- A property of the clusters left and the tokens read from them holds of every scan if each
kind of step keeps it. -/
theorem scan_induction {a : Alphabet} {P : List Text → List Token → Prop} (hnil : P [] [])
    (hdangling : P [escapeCluster] [.literal escapeCluster])
    (hescape : ∀ next rest, P rest (scan a 0 rest) →
      P (escapeCluster :: next :: rest) (Token.joinLiteral next (scan a 0 rest)))
    (hliteral : ∀ cluster rest, cluster ≠ escapeCluster →
      a.longestMatch? (cluster :: rest) = none → P rest (scan a 0 rest) →
      P (cluster :: rest) (Token.joinLiteral cluster (scan a 0 rest)))
    (hsymbol : ∀ cluster word rest, cluster ≠ escapeCluster →
      a.longestMatch? (cluster :: word ++ rest) = some (cluster :: word) →
      P rest (scan a 0 rest) →
      P (cluster :: word ++ rest) (.symbol (cluster :: word).flatten :: scan a 0 rest))
    (clusters : List Text) : P clusters (scan a 0 clusters) := by
  -- a step takes at least one cluster, so the induction is on how many are left
  induction hn : clusters.length using Nat.strong_induction_on generalizing clusters with
  | _ n ih =>
    subst hn
    cases clusters with
    | nil =>
      rw [scan_nil]
      exact hnil
    | cons cluster rest =>
      by_cases hc : cluster = escapeCluster
      · subst hc
        cases rest with
        | nil =>
          rw [scan_dangling]
          exact hdangling
        | cons next rest =>
          rw [scan_escape]
          have hlength : rest.length < (escapeCluster :: next :: rest).length := by
            rw [List.length_cons, List.length_cons]
            omega
          exact hescape next rest (ih rest.length hlength rest rfl)
      · cases hm : a.longestMatch? (cluster :: rest) with
        | none =>
          rw [scan_literal hc hm]
          exact hliteral cluster rest hc hm (ih rest.length (by simp) rest rfl)
        | some w =>
          obtain ⟨-, hne, hpre⟩ := Alphabet.longestMatch?_some hm
          cases w with
          | nil => exact absurd rfl hne
          | cons first word =>
            obtain ⟨left, hleft⟩ := hpre
            rw [← hleft] at hm ih ⊢
            have hfirst : first = cluster := (List.cons.inj hleft).1
            rw [← hfirst] at hc
            rw [scan_symbol hc hm]
            have hlength : left.length < ((first :: word) ++ left).length := by
              rw [List.length_append, List.length_cons]
              omega
            exact hsymbol first word left hc hm (ih left.length hlength left rfl)

/-! ## Literal text in front of tokens -/

namespace Token

/-- Whether a token sequence begins with literal text. -/
def StartsLiteral (ts : List Token) : Prop := ∃ t rest, ts = .literal t :: rest

theorem not_startsLiteral_nil : ¬StartsLiteral [] := by
  rintro ⟨t, rest, h⟩
  cases h

theorem not_startsLiteral_symbol (name : Text) (ts : List Token) :
    ¬StartsLiteral (.symbol name :: ts) := by
  rintro ⟨t, rest, h⟩
  cases h

theorem joinLiteral_of_not_startsLiteral (t : Text) {ts : List Token} (h : ¬StartsLiteral ts) :
    joinLiteral t ts = .literal t :: ts := by
  cases ts with
  | nil => rfl
  | cons u ts =>
    cases u with
    | literal u => exact absurd ⟨u, ts, rfl⟩ h
    | symbol name => rfl

/-- Joining clusters one by one joins their concatenation. -/
theorem foldr_joinLiteral {us : List Text} (hne : us ≠ []) {ts : List Token}
    (h : ¬StartsLiteral ts) : us.foldr joinLiteral ts = .literal us.flatten :: ts := by
  induction us with
  | nil => exact absurd rfl hne
  | cons u us ih =>
    cases us with
    | nil => simpa using joinLiteral_of_not_startsLiteral u h
    | cons v us =>
      rw [List.foldr_cons, ih (by simp)]
      rfl

end Token

/-! ## Plain names -/

/-- A name whose characters have no special property and are no escapes, such as one of ASCII
letters. -/
structure IsPlainName (name : Text) : Prop where
  ne_nil : name ≠ []
  other : ∀ c ∈ name, breakProperty c = .other
  ne_escape : ∀ c ∈ name, c ≠ '\\'

/-- A text cut at every character. -/
def singles (t : Text) : List Text := t.map fun c => [c]

theorem singles_append (s t : Text) : singles (s ++ t) = singles s ++ singles t :=
  List.map_append

theorem length_singles (t : Text) : (singles t).length = t.length := List.length_map _

theorem flatten_singles (t : Text) : (singles t).flatten = t := by
  unfold singles
  rw [← List.flatMap_def, List.flatMap_singleton']

theorem singles_prefix_iff {s t : Text} : singles s <+: singles t ↔ s <+: t :=
  List.prefix_map_iff_of_injective fun _ _ h => List.singleton_inj.mp h

theorem mem_singles {t u : Text} : u ∈ singles t ↔ ∃ c ∈ t, u = [c] := by
  simp [singles, eq_comm]

namespace IsPlainName

theorem graphemes_eq {name : Text} (h : IsPlainName name) : graphemes name = singles name :=
  graphemes_of_plain h.other

theorem singles_ne_nil {name : Text} (h : IsPlainName name) : singles name ≠ [] :=
  fun e => h.ne_nil (List.map_eq_nil_iff.mp e)

theorem exists_cons {name : Text} (h : IsPlainName name) : ∃ c t, name = c :: t :=
  List.exists_cons_of_ne_nil h.ne_nil

theorem singleton_ne_escape {name : Text} (h : IsPlainName name) {c : Char} (hc : c ∈ name) :
    [c] ≠ escapeCluster := by
  intro e
  injection e with e _
  exact h.ne_escape c hc e

end IsPlainName

theorem mem_ofNames_of_plain {names : List Text} (hn : ∀ n ∈ names, IsPlainName n)
    {w : List Text} : w ∈ Alphabet.ofNames names ↔ ∃ n ∈ names, w = singles n := by
  simp only [Alphabet.ofNames, List.mem_map]
  constructor
  · rintro ⟨n, hm, rfl⟩
    exact ⟨n, hm, (hn n hm).graphemes_eq⟩
  · rintro ⟨n, hm, rfl⟩
    exact ⟨n, hm, (hn n hm).graphemes_eq⟩

theorem longestMatch?_plain {names : List Text} (hn : ∀ n ∈ names, IsPlainName n)
    {clusters w : List Text} :
    (Alphabet.ofNames names).longestMatch? clusters = some w ↔
      ∃ n ∈ names, w = singles n ∧ singles n <+: clusters ∧
        ∀ m ∈ names, singles m <+: clusters → m.length ≤ n.length := by
  rw [Alphabet.longestMatch?_eq_some_iff]
  constructor
  · rintro ⟨hw, -, hpre, hmax⟩
    obtain ⟨n, hm, rfl⟩ := (mem_ofNames_of_plain hn).mp hw
    refine ⟨n, hm, rfl, hpre, fun m hm' hpre' => ?_⟩
    have hlen := hmax (singles m) ((mem_ofNames_of_plain hn).mpr ⟨m, hm', rfl⟩)
      (hn m hm').singles_ne_nil hpre'
    rwa [length_singles, length_singles] at hlen
  · rintro ⟨n, hm, rfl, hpre, hmax⟩
    refine ⟨(mem_ofNames_of_plain hn).mpr ⟨n, hm, rfl⟩, (hn n hm).singles_ne_nil, hpre, ?_⟩
    intro v hv _ hpre'
    obtain ⟨m, hm', rfl⟩ := (mem_ofNames_of_plain hn).mp hv
    rw [length_singles, length_singles]
    exact hmax m hm' hpre'

/-- The text of a plain name is read as this name, whichever other names begin it or go on from
it. -/
theorem tokenize_name {names : List Text} (hn : ∀ n ∈ names, IsPlainName n) {n : Text}
    (h : n ∈ names) : tokenize names n = [.symbol n] := by
  have hplain := hn n h
  obtain ⟨c, t, rfl⟩ := hplain.exists_cons
  have hmatch : (Alphabet.ofNames names).longestMatch? ([c] :: singles t ++ []) =
      some ([c] :: singles t) := by
    rw [List.append_nil]
    exact (longestMatch?_plain hn).mpr ⟨c :: t, h, rfl, List.prefix_rfl, fun m _ hpre =>
      (singles_prefix_iff.mp hpre).length_le⟩
  have hscan := scan_symbol (hplain.singleton_ne_escape List.mem_cons_self) hmatch
  have hcons : [c] :: singles t = singles (c :: t) := rfl
  rw [List.append_nil, scan_nil, hcons, flatten_singles] at hscan
  rw [tokenize, hplain.graphemes_eq, hscan]

end DatePattern
