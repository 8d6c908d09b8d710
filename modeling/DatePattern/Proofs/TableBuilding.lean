/-
  Which tables can be built, and what is built.

  Definitions and aliases are checked one by one, in the order in which they are listed, and the
  chain of an alias may go through others that have not been checked yet.  Put together the checks
  are conditions on the definitions and on the mapping that the aliases are: `IsBuildable`.  They do
  not mention the order, so that only the first fault met depends on it.

  * `checkDefinitions_eq_ok_iff`: what checking definitions one after the other comes to.
  * `exists_buildWith_iff`: the conditions are those under which there is a table.
  * `isTableOf_of_buildWith`: and the table holds the definitions and the resolved aliases.
  * `isPlainName_of_buildWith`: a pattern is cut at every character of a name of such a table.
  * `buildWith_iff_isBuildable`: both, and that the order of what is listed makes no difference.
-/
import DatePattern.Proofs.AliasChains
import DatePattern.Proofs.TableNames

namespace DatePattern

open Text

namespace SymbolDefinition

variable {isExpression : Text → Bool}

theorem checkSource_eq_ok_iff {d : SymbolDefinition} :
    d.checkSource isExpression = .ok () ↔
      (d.isEmittable = true →
        ∃ e, d.renderSource defaultParameter = .ok e ∧ isExpression e = true) := by
  unfold checkSource
  cases d.isEmittable with
  | false => simp
  | true =>
    rw [if_pos rfl, bind_eq_ok_iff, imp_iff_right rfl]
    refine exists_congr fun e => and_congr_right fun _ => ?_
    cases isExpression e with
    | false => simp
    | true => simp [pure, Except.pure]

end SymbolDefinition

namespace SymbolTable

variable {isExpression : Text → Bool} {ds ds' : List SymbolDefinition}
  {pairs pairs' : List (Text × Text)} {t : SymbolTable}

/-! ## Definitions -/

theorem checkDefinition_eq_ok_iff {earlier : List Text} {d : SymbolDefinition} :
    checkDefinition isExpression earlier d = .ok () ↔
      nameProblem? d.name = none ∧ d.name ∉ earlier ∧ d.checkSource isExpression = .ok () := by
  unfold checkDefinition
  cases nameProblem? d.name with
  | some problem => simp
  | none =>
    by_cases hname : d.name ∈ earlier
    · simp [hname]
    · simp [hname, mapError_eq_ok_iff]

theorem checkDefinitions_eq_ok_iff {earlier : List Text} :
    checkDefinitions isExpression earlier ds = .ok () ↔
      (∀ d ∈ ds, nameProblem? d.name = none) ∧ (ds.map (·.name)).Nodup ∧
        (∀ d ∈ ds, d.name ∉ earlier) ∧ ∀ d ∈ ds, d.checkSource isExpression = .ok () := by
  induction ds generalizing earlier with
  | nil => simp [checkDefinitions]
  | cons d ds ih =>
    have hcons : checkDefinitions isExpression earlier (d :: ds) = .ok () ↔
        checkDefinition isExpression earlier d = .ok () ∧
          checkDefinitions isExpression (d.name :: earlier) ds = .ok () :=
      bind_eq_ok_iff.trans ⟨fun ⟨_, h⟩ => h, fun h => ⟨(), h⟩⟩
    rw [hcons, ih, checkDefinition_eq_ok_iff]
    have hnew : (∀ e ∈ ds, e.name ∉ d.name :: earlier) ↔
        d.name ∉ ds.map (·.name) ∧ ∀ e ∈ ds, e.name ∉ earlier := by
      simp only [List.mem_cons, not_or, List.mem_map, not_exists, not_and]
      exact ⟨fun h => ⟨fun e he => (h e he).1, fun e he => (h e he).2⟩,
        fun h e he => ⟨h.1 e he, h.2 e he⟩⟩
    rw [hnew]
    simp only [List.forall_mem_cons, List.map_cons, List.nodup_cons]
    constructor
    · rintro ⟨⟨hname, hfirst, hsource⟩, hnames, hnodup, ⟨hother, hearlier⟩, hsources⟩
      exact ⟨⟨hname, hnames⟩, ⟨hother, hnodup⟩, ⟨hfirst, hearlier⟩, hsource, hsources⟩
    · rintro ⟨⟨hname, hnames⟩, ⟨hother, hnodup⟩, ⟨hfirst, hearlier⟩, hsource, hsources⟩
      exact ⟨⟨hname, hfirst, hsource⟩, hnames, hnodup, ⟨hother, hearlier⟩, hsources⟩

/-! ## Aliases -/

/-- The target of an alias; the one given last counts. -/
def target? (pairs : List (Text × Text)) (a : Text) : Option Text := pairs.reverse.lookup a

theorem target?_isSome_iff {a : Text} :
    (target? pairs a).isSome ↔ a ∈ pairs.map Prod.fst := by
  rw [target?, List.lookup_isSome_iff, List.mem_map]
  refine exists_congr fun e => ?_
  rw [List.mem_reverse, beq_iff_eq]
  exact and_congr_right fun _ => eq_comm

/-- Keeping each alias once does not change the mapping. -/
theorem lookup_distinctAliases (pairs : List (Text × Text)) (a : Text) :
    (distinctAliases pairs).lookup a = target? pairs a := by
  rw [distinctAliases, lookup_map_mk]
  cases htarget : target? pairs a with
  | none =>
    have ha : a ∉ pairs.map Prod.fst := by
      rw [← target?_isSome_iff, htarget]
      simp
    rw [if_neg (mt mem_distinct.mp ha)]
  | some target =>
    have ha : a ∈ pairs.map Prod.fst := by
      rw [← target?_isSome_iff, htarget]
      rfl
    rw [if_pos (mem_distinct.mpr ha)]
    unfold target? at htarget
    rw [htarget]
    rfl

theorem map_fst_distinctAliases (pairs : List (Text × Text)) :
    (distinctAliases pairs).map Prod.fst = distinct (pairs.map Prod.fst) := by
  rw [distinctAliases, List.map_map]
  exact List.map_id _

theorem lookup_of_mem_distinctAliases {e : Text × Text} (h : e ∈ distinctAliases pairs) :
    (distinctAliases pairs).lookup e.1 = some e.2 := by
  obtain ⟨a, ha, rfl⟩ := List.mem_map.mp h
  rw [distinctAliases, lookup_map_mk, if_pos ha]

theorem mem_map_fst_distinctAliases {a : Text} :
    (∃ e ∈ distinctAliases pairs, e.1 = a) ↔ a ∈ pairs.map Prod.fst := by
  rw [← mem_distinct, ← map_fst_distinctAliases, List.mem_map]

/-- A mapping is the same in whatever order its aliases are listed. -/
theorem target?_of_perm (h : pairs'.Perm pairs) (hnodup : (pairs.map Prod.fst).Nodup) (a : Text) :
    target? pairs' a = target? pairs a := by
  have hreverse : ∀ {ps : List (Text × Text)}, ps.Perm pairs → (ps.reverse.map Prod.fst).Nodup :=
    fun hps => (((List.reverse_perm _).trans hps).map _).nodup_iff.mpr hnodup
  refine Option.ext fun target => ?_
  rw [target?, target?, lookup_eq_some_iff_mem (hreverse h),
    lookup_eq_some_iff_mem (hreverse (.refl pairs)), List.mem_reverse, List.mem_reverse, h.mem_iff]

/-! ## Building -/

/-- The conditions under which there is a table. -/
structure IsBuildable (isExpression : Text → Bool) (ds : List SymbolDefinition)
    (pairs : List (Text × Text)) : Prop where
  names : ∀ d ∈ ds, nameProblem? d.name = none
  aliasNames : ∀ a ∈ pairs.map Prod.fst, nameProblem? a = none
  /-- No two definitions have one name. -/
  nodup : (ds.map (·.name)).Nodup
  /-- No alias is the name of a definition. -/
  disjoint : ∀ a ∈ pairs.map Prod.fst, a ∉ ds.map (·.name)
  /-- Each source is an expression with the name of the instant put in. -/
  sources : ∀ d ∈ ds, d.isEmittable = true →
    ∃ e, d.renderSource defaultParameter = .ok e ∧ isExpression e = true
  /-- Each alias leads to a definition. -/
  chains : ∀ a ∈ pairs.map Prod.fst, ∃ n, LeadsTo (ds.map (·.name)) (target? pairs) a n

/-- The table of some definitions and aliases. -/
structure IsTableOf (ds : List SymbolDefinition) (pairs : List (Text × Text)) (t : SymbolTable) :
    Prop where
  definitions : t.definitions = ds
  /-- Each alias is in the table once. -/
  aliasNames : t.aliasNames = distinct (pairs.map Prod.fst)
  /-- It stands for the first definition that its chain comes to. -/
  resolved : ∀ a n, t.aliases.lookup a = some n ↔
    a ∈ pairs.map Prod.fst ∧ LeadsTo (ds.map (·.name)) (target? pairs) a n

theorem buildWith_eq_ok_iff :
    buildWith isExpression ds pairs = .ok t ↔
      checkDefinitions isExpression [] ds = .ok () ∧ t.definitions = ds ∧
      (distinctAliases pairs).mapM (resolveAlias (ds.map (·.name)) (distinctAliases pairs)
        (landings (ds.map (·.name)) (distinctAliases pairs))) = .ok t.aliases := by
  unfold buildWith
  constructor
  · intro h
    obtain ⟨_, hcheck, h⟩ := bind_eq_ok_iff.mp h
    obtain ⟨resolved, hresolved, h⟩ := bind_eq_ok_iff.mp h
    cases h
    exact ⟨hcheck, rfl, hresolved⟩
  · rintro ⟨hcheck, rfl, hresolved⟩
    exact bind_eq_ok_iff.mpr ⟨(), hcheck, bind_eq_ok_iff.mpr ⟨t.aliases, hresolved, rfl⟩⟩

/-- What it takes to resolve an alias, in terms of the mapping. -/
theorem resolveAlias_distinctAliases {canonical : List Text} {e r : Text × Text}
    (he : e ∈ distinctAliases pairs) :
    resolveAlias canonical (distinctAliases pairs) (landings canonical (distinctAliases pairs)) e =
        .ok r ↔
      nameProblem? e.1 = none ∧ e.1 ∉ canonical ∧ r.1 = e.1 ∧
        LeadsTo canonical (target? pairs) e.1 r.2 := by
  rw [resolveAlias_eq_ok_iff (lookup_of_mem_distinctAliases he),
    leadsTo_congr (fun _ => Iff.rfl) (lookup_distinctAliases pairs)]

theorem exists_mapM_resolveAlias_iff {canonical : List Text} :
    (∃ resolved, (distinctAliases pairs).mapM (resolveAlias canonical (distinctAliases pairs)
        (landings canonical (distinctAliases pairs))) = .ok resolved) ↔
      ∀ a ∈ pairs.map Prod.fst, nameProblem? a = none ∧ a ∉ canonical ∧
        ∃ n, LeadsTo canonical (target? pairs) a n := by
  rw [exists_mapM_ok_iff]
  constructor
  · intro h a ha
    obtain ⟨e, he, rfl⟩ := mem_map_fst_distinctAliases.mpr ha
    obtain ⟨r, hr⟩ := h e he
    obtain ⟨hproblem, hname, -, hleads⟩ := (resolveAlias_distinctAliases he).mp hr
    exact ⟨hproblem, hname, r.2, hleads⟩
  · intro h e he
    obtain ⟨hproblem, hname, n, hleads⟩ := h e.1 (mem_map_fst_distinctAliases.mp ⟨e, he, rfl⟩)
    exact ⟨(e.1, n), (resolveAlias_distinctAliases he).mpr ⟨hproblem, hname, rfl, hleads⟩⟩

/-- The conditions are those under which there is a table. -/
theorem exists_buildWith_iff :
    (∃ t, buildWith isExpression ds pairs = .ok t) ↔ IsBuildable isExpression ds pairs := by
  have hparts : (∃ t, buildWith isExpression ds pairs = .ok t) ↔
      checkDefinitions isExpression [] ds = .ok () ∧
        ∀ a ∈ pairs.map Prod.fst, nameProblem? a = none ∧ a ∉ ds.map (·.name) ∧
          ∃ n, LeadsTo (ds.map (·.name)) (target? pairs) a n := by
    rw [← exists_mapM_resolveAlias_iff]
    constructor
    · rintro ⟨t, ht⟩
      obtain ⟨hcheck, -, hresolved⟩ := buildWith_eq_ok_iff.mp ht
      exact ⟨hcheck, t.aliases, hresolved⟩
    · rintro ⟨hcheck, resolved, hresolved⟩
      exact ⟨⟨ds, resolved⟩, buildWith_eq_ok_iff.mpr ⟨hcheck, rfl, hresolved⟩⟩
  rw [hparts, checkDefinitions_eq_ok_iff]
  constructor
  · rintro ⟨⟨hnames, hnodup, -, hsources⟩, haliases⟩
    exact ⟨hnames, fun a ha => (haliases a ha).1, hnodup, fun a ha => (haliases a ha).2.1,
      fun d hd => SymbolDefinition.checkSource_eq_ok_iff.mp (hsources d hd),
      fun a ha => (haliases a ha).2.2⟩
  · intro h
    exact ⟨⟨h.names, h.nodup, fun d _ => List.not_mem_nil,
      fun d hd => SymbolDefinition.checkSource_eq_ok_iff.mpr (h.sources d hd)⟩,
      fun a ha => ⟨h.aliasNames a ha, h.disjoint a ha, h.chains a ha⟩⟩

/-- What is built under them. -/
theorem isTableOf_of_buildWith (h : buildWith isExpression ds pairs = .ok t) :
    IsTableOf ds pairs t := by
  obtain ⟨-, hdefinitions, hresolved⟩ := buildWith_eq_ok_iff.mp h
  have hleads : ∀ r ∈ t.aliases, LeadsTo (ds.map (·.name)) (target? pairs) r.1 r.2 := by
    intro r hr
    obtain ⟨e, he, her⟩ := exists_of_mapM_ok hresolved hr
    obtain ⟨-, -, hfst, hleads⟩ := (resolveAlias_distinctAliases he).mp her
    rwa [hfst]
  have hkeys : t.aliases.map Prod.fst = distinct (pairs.map Prod.fst) := by
    rw [← map_fst_distinctAliases]
    refine map_eq_of_mapM_ok hresolved fun e he r her => ?_
    obtain ⟨-, -, hfst, -⟩ := (resolveAlias_distinctAliases he).mp her
    exact hfst
  have hnodup : (t.aliases.map Prod.fst).Nodup := hkeys ▸ nodup_distinct _
  refine ⟨hdefinitions, hkeys, fun a n => ?_⟩
  rw [lookup_eq_some_iff_mem hnodup]
  constructor
  · intro hmem
    refine ⟨?_, hleads _ hmem⟩
    rw [← mem_distinct, ← hkeys]
    exact List.mem_map_of_mem hmem
  · rintro ⟨ha, hn⟩
    rw [← mem_distinct, ← hkeys] at ha
    obtain ⟨r, hr, rfl⟩ := List.mem_map.mp ha
    rw [hn.unique (hleads r hr)]
    exact hr

/-! ## The names of a table -/

theorem nameProblem?_of_buildWith (h : buildWith isExpression ds pairs = .ok t) :
    ∀ n ∈ t.names, nameProblem? n = none := by
  have hbuildable := exists_buildWith_iff.mp ⟨t, h⟩
  have htable := isTableOf_of_buildWith h
  intro n hn
  rcases List.mem_append.mp hn with hn | hn
  · rw [canonicalNames, htable.definitions] at hn
    obtain ⟨d, hd, rfl⟩ := List.mem_map.mp hn
    exact hbuildable.names d hd
  · rw [htable.aliasNames, mem_distinct] at hn
    exact hbuildable.aliasNames n hn

theorem isPlainName_of_buildWith (h : buildWith isExpression ds pairs = .ok t) :
    ∀ n ∈ t.names, IsPlainName n :=
  fun n hn => isPlainName_of_nameProblem? (nameProblem?_of_buildWith h n hn)

theorem isPlainName_of_build (h : build ds pairs = .ok t) : ∀ n ∈ t.names, IsPlainName n :=
  isPlainName_of_buildWith h

/-! ## The order of what is listed -/

theorem IsBuildable.of_perm (h : IsBuildable isExpression ds pairs) (hds : ds'.Perm ds)
    (hpairs : ∀ a, target? pairs' a = target? pairs a) : IsBuildable isExpression ds' pairs' := by
  have hcanonical : ∀ m, m ∈ ds.map (·.name) ↔ m ∈ ds'.map (·.name) :=
    fun m => ((hds.map _).mem_iff).symm
  have hkeys : ∀ a, a ∈ pairs'.map Prod.fst → a ∈ pairs.map Prod.fst := by
    intro a ha
    rwa [← target?_isSome_iff, ← hpairs, target?_isSome_iff]
  refine ⟨fun d hd => h.names d (hds.mem_iff.mp hd), fun a ha => h.aliasNames a (hkeys a ha),
    (hds.map _).nodup_iff.mpr h.nodup, fun a ha hmem => ?_,
    fun d hd => h.sources d (hds.mem_iff.mp hd), fun a ha => ?_⟩
  · exact h.disjoint a (hkeys a ha) ((hcanonical a).mpr hmem)
  · obtain ⟨n, hn⟩ := h.chains a (hkeys a ha)
    exact ⟨n, (leadsTo_congr hcanonical fun m => (hpairs m).symm).mp hn⟩

theorem IsTableOf.lookup_eq {t' : SymbolTable} (h : IsTableOf ds pairs t)
    (h' : IsTableOf ds' pairs' t') (hds : ds'.Perm ds)
    (hpairs : ∀ a, target? pairs' a = target? pairs a) (a : Text) :
    t'.aliases.lookup a = t.aliases.lookup a := by
  refine Option.ext fun n => ?_
  rw [h.resolved, h'.resolved, ← target?_isSome_iff, ← target?_isSome_iff, hpairs,
    leadsTo_congr (fun m => (hds.map _).mem_iff) hpairs]

/-- There is a table exactly under the conditions above, whichever texts are expressions; it holds
the definitions in order and leads each alias to the first definition on its chain.  The order in
which definitions and aliases are listed makes no difference to this, and following a chain ends
whatever the aliases are. -/
theorem buildWith_iff_isBuildable (isExpression : Text → Bool) (ds : List SymbolDefinition)
    (pairs : List (Text × Text)) :
    ((∃ t, buildWith isExpression ds pairs = .ok t) ↔ IsBuildable isExpression ds pairs) ∧
    (∀ t, buildWith isExpression ds pairs = .ok t → IsTableOf ds pairs t) ∧
    (∀ ds' pairs', ds'.Perm ds → (∀ a, target? pairs' a = target? pairs a) →
      ((∃ t, buildWith isExpression ds pairs = .ok t) ↔
        ∃ t', buildWith isExpression ds' pairs' = .ok t') ∧
      ∀ t t', buildWith isExpression ds pairs = .ok t → buildWith isExpression ds' pairs' = .ok t' →
        ∀ a, t'.aliases.lookup a = t.aliases.lookup a) ∧
    ∀ a target, target? pairs a = some target →
      Chase (ds.map (·.name)) (target? pairs) a [a] target
        (follow (ds.map (·.name)) (distinctAliases pairs) a target) := by
  refine ⟨exists_buildWith_iff, fun t ht => isTableOf_of_buildWith ht,
    fun ds' pairs' hds hpairs => ⟨?_, fun t t' ht ht' a => ?_⟩, fun a target htarget => ?_⟩
  · rw [exists_buildWith_iff, exists_buildWith_iff]
    exact ⟨fun h => h.of_perm hds hpairs, fun h => h.of_perm hds.symm fun a => (hpairs a).symm⟩
  · exact (isTableOf_of_buildWith ht).lookup_eq (isTableOf_of_buildWith ht') hds hpairs a
  · have hchase := chase_follow (ds.map (·.name)) (distinctAliases pairs) a target
    rwa [funext (lookup_distinctAliases pairs)] at hchase

/-- An alias of an alias, listed in either order. -/
theorem buildWith_iff_isBuildable_chain : ∃ t t',
    buildWith (fun _ => true)
      [.numeric "d" .day "Day of month" "$date.day" (fun i => i.date.day) SymbolDefinition.day_lt]
      [(['D'], ['D', 'D']), (['D', 'D'], ['d'])] = .ok t ∧
    buildWith (fun _ => true)
      [.numeric "d" .day "Day of month" "$date.day" (fun i => i.date.day) SymbolDefinition.day_lt]
      [(['D', 'D'], ['d']), (['D'], ['D', 'D'])] = .ok t' ∧
    t.aliases.lookup ['D'] = some ['d'] ∧ t'.aliases.lookup ['D'] = some ['d'] := by
  have hname : "d".toList = ['d'] := String.toList_ofList
  have hlast : LeadsTo ["d".toList] (target? [(['D'], ['D', 'D']), (['D', 'D'], ['d'])])
      ['D', 'D'] ['d'] := by
    rw [hname]
    exact ⟨.single ⟨by decide, rfl⟩, by decide⟩
  have hfirst : LeadsTo ["d".toList] (target? [(['D'], ['D', 'D']), (['D', 'D'], ['d'])])
      ['D'] ['d'] := by
    have hstep : AliasStep ["d".toList] (target? [(['D'], ['D', 'D']), (['D', 'D'], ['d'])])
        ['D'] ['D', 'D'] := by
      rw [hname]
      exact ⟨by decide, rfl⟩
    exact hstep.leadsTo_iff.mpr hlast
  have hbuildable : IsBuildable (fun _ => true)
      [.numeric "d" .day "Day of month" "$date.day" (fun i => i.date.day) SymbolDefinition.day_lt]
      [(['D'], ['D', 'D']), (['D', 'D'], ['d'])] := by
    refine ⟨?names, ?aliasNames, by simp, ?disjoint, ?sources, ?chains⟩
    case names => exact List.forall_mem_singleton.mpr (nameProblem?_of_isRunOfLetter rfl)
    case aliasNames =>
      exact List.forall_mem_cons.mpr ⟨nameProblem?_of_isRunOfLetter rfl,
        List.forall_mem_singleton.mpr (nameProblem?_of_isRunOfLetter rfl)⟩
    case disjoint =>
      have hkeys : ∀ a ∈ [['D'], ['D', 'D']], a ∉ ["d".toList] := by
        rw [hname]
        decide
      exact hkeys
    case sources => exact List.forall_mem_singleton.mpr fun _ => ⟨_, rfl, rfl⟩
    case chains =>
      exact List.forall_mem_cons.mpr ⟨⟨_, hfirst⟩, List.forall_mem_singleton.mpr ⟨_, hlast⟩⟩
  obtain ⟨hexists, htable, horder, -⟩ := buildWith_iff_isBuildable (fun _ => true)
    [.numeric "d" .day "Day of month" "$date.day" (fun i => i.date.day) SymbolDefinition.day_lt]
    [(['D'], ['D', 'D']), (['D', 'D'], ['d'])]
  obtain ⟨t, ht⟩ := hexists.mpr hbuildable
  obtain ⟨hsuccess, hlookup⟩ := horder _ _ (.refl _)
    (target?_of_perm (.swap (['D'], ['D', 'D']) (['D', 'D'], ['d']) []) (by decide))
  obtain ⟨t', ht'⟩ := hsuccess.mp ⟨t, ht⟩
  have hresolved : t.aliases.lookup ['D'] = some ['d'] :=
    ((htable t ht).resolved _ _).mpr ⟨by simp, hfirst⟩
  exact ⟨t, t', ht, ht', hresolved, (hlookup t t' ht ht' _).trans hresolved⟩

end SymbolTable

end DatePattern
