/-
  The queries of a table agree.

  A name can be looked up in several ways, and each way reads the definitions and the aliases in its
  own order.  They agree because of what building establishes, `IsResolved`: no name is given twice,
  and every alias stands for a symbol, never for another alias.  Conversely a table of this form is
  what building makes of its own definitions and aliases.

  * `isResolved_of_buildWith`, `buildWith_of_isResolved`: the form of the tables that are built.
  * `build_builtin`: the built-in table is one of them.
  * `IsResolved.resolves`: how a name of such a table is found.
  * `queriesAgree_of_buildWith`: every query agrees with every other one, for every name.
-/
import DatePattern.Compiler.Config
import DatePattern.Proofs.Emission
import DatePattern.Proofs.NameTwins
import DatePattern.Proofs.ProgramCall
import DatePattern.Proofs.TableBuilding
import Mathlib.Data.List.Nodup
import Mathlib.Data.List.TFAE

namespace DatePattern.SymbolTable

open Text

variable {isExpression : Text → Bool} {ds : List SymbolDefinition} {pairs : List (Text × Text)}
  {t : SymbolTable} {n c : Text}

/-! ## The form of a table -/

/-- A table without repeated names in which every alias stands for a symbol. -/
structure IsResolved (t : SymbolTable) : Prop where
  nodup : t.names.Nodup
  targets : ∀ a ∈ t.aliases, a.2 ∈ t.canonicalNames

theorem isResolved_of_buildWith (h : buildWith isExpression ds pairs = .ok t) : t.IsResolved := by
  have hbuildable := exists_buildWith_iff.mp ⟨t, h⟩
  have htable := isTableOf_of_buildWith h
  have hcanonical : t.canonicalNames = ds.map (·.name) := by
    rw [canonicalNames, htable.definitions]
  have haliases : t.aliasNames.Nodup := htable.aliasNames ▸ nodup_distinct _
  constructor
  · refine List.nodup_append.mpr ⟨hcanonical ▸ hbuildable.nodup, haliases, ?_⟩
    rintro n hn _ ha rfl
    rw [htable.aliasNames, mem_distinct] at ha
    exact hbuildable.disjoint n ha (hcanonical ▸ hn)
  · intro a ha
    have hlookup : t.aliases.lookup a.1 = some a.2 := (lookup_eq_some_iff_mem haliases).mpr ha
    rw [hcanonical]
    exact ((htable.resolved a.1 a.2).mp hlookup).2.symbol

namespace IsResolved

theorem nodup_canonicalNames (h : t.IsResolved) : t.canonicalNames.Nodup :=
  h.nodup.of_append_left

theorem nodup_aliasNames (h : t.IsResolved) : t.aliasNames.Nodup :=
  h.nodup.of_append_right

theorem not_mem_canonicalNames (h : t.IsResolved) (ha : n ∈ t.aliasNames) :
    n ∉ t.canonicalNames :=
  fun hn => (List.nodup_append.mp h.nodup).2.2 n hn n ha rfl

theorem lookup_aliases_iff (h : t.IsResolved) :
    t.aliases.lookup n = some c ↔ (n, c) ∈ t.aliases :=
  lookup_eq_some_iff_mem h.nodup_aliasNames

end IsResolved

/-- Such a table is what building makes of its own definitions and aliases. -/
theorem buildWith_of_isResolved (h : t.IsResolved)
    (hnames : ∀ n ∈ t.names, nameProblem? n = none)
    (hsources : ∀ d ∈ t.definitions, d.checkSource isExpression = .ok ()) :
    buildWith isExpression t.definitions t.aliases = .ok t := by
  have hkept : distinctAliases t.aliases = t.aliases := by
    have hlookup : ∀ a ∈ t.aliases, (t.aliases.reverse.lookup a.1).getD [] = a.2 := by
      intro a ha
      have hnodup : (t.aliases.reverse.map Prod.fst).Nodup := by
        rw [List.map_reverse, List.nodup_reverse]
        exact h.nodup_aliasNames
      rw [(lookup_eq_some_iff_mem hnodup).mpr (List.mem_reverse.mpr ha)]
      rfl
    have hkeys : distinct (t.aliases.map Prod.fst) = t.aliases.map Prod.fst :=
      distinct_of_nodup h.nodup_aliasNames
    rw [distinctAliases, hkeys, List.map_map]
    exact (List.map_congr_left fun a ha => by rw [Function.comp_apply, hlookup a ha]; rfl).trans
      (List.map_id _)
  refine buildWith_eq_ok_iff.mpr ⟨checkDefinitions_eq_ok_iff.mpr ⟨fun d hd => ?_,
    h.nodup_canonicalNames, fun _ _ => List.not_mem_nil, hsources⟩, rfl, ?_⟩
  · exact hnames _ (List.mem_append_left _ (List.mem_map_of_mem hd))
  -- the chain of every alias has one step
  rw [mapM_eq_ok_iff, hkept, List.forall₂_same]
  intro a ha
  have halias : a.1 ∈ t.aliasNames := List.mem_map_of_mem ha
  have hnot := h.not_mem_canonicalNames halias
  have hnext : target? t.aliases a.1 = some a.2 := by
    rw [← lookup_distinctAliases, hkept]
    exact h.lookup_aliases_iff.mpr ha
  have hstep : AliasStep t.canonicalNames (target? t.aliases) a.1 a.2 := ⟨hnot, hnext⟩
  have hmem : a ∈ distinctAliases t.aliases := hkept.symm ▸ ha
  have hresolve : resolveAlias t.canonicalNames (distinctAliases t.aliases)
      (landings t.canonicalNames (distinctAliases t.aliases)) a = .ok a :=
    (resolveAlias_distinctAliases hmem).mpr ⟨hnames _ (List.mem_append_right _ halias), hnot, rfl,
      hstep.leadsTo_iff.mpr (leadsTo_self (h.targets a ha))⟩
  rwa [hkept] at hresolve

theorem isResolved_builtin (withCase : Bool) : (builtin withCase).IsResolved := by
  constructor <;> cases withCase <;> decide +kernel

/-- The built-in table is what is built from the built-in symbols and aliases. -/
theorem build_builtin (withCase : Bool) :
    build SymbolDefinition.builtin (builtinAliases ++ if withCase then caseAliases else []) =
      .ok (builtin withCase) := by
  have hdate := isWordFor_of_isBindableName Config.isBindableName_default.2
  have hsources : ∀ d ∈ (builtin withCase).definitions,
      d.checkSource Expr.isExpression = .ok () := by
    refine fun d hd => SymbolDefinition.checkSource_eq_ok_iff.mpr fun _ => ?_
    obtain ⟨source, e, hrender, hread, -⟩ := SymbolDefinition.hasTwin_builtin d hd _ _ hdate
    refine ⟨source, hrender, ?_⟩
    rw [Expr.isExpression, hread]
    rfl
  have hbuild := buildWith_of_isResolved (isResolved_builtin withCase)
    (nameProblem?_builtin withCase) hsources
  exact hbuild

/-! ## How a name is found -/

namespace IsResolved

theorem exists_definition? (hc : c ∈ t.canonicalNames) :
    ∃ d, t.definition? c = some d ∧ d.name = c := by
  obtain ⟨d, hd, rfl⟩ := List.mem_map.mp hc
  have hsome : (t.definition? d.name).isSome = true :=
    List.find?_isSome.mpr ⟨d, hd, decide_eq_true rfl⟩
  obtain ⟨e, he⟩ := Option.isSome_iff_exists.mp hsome
  exact ⟨e, he, name_of_definition? he⟩

theorem canonicalName_of_mem (hn : n ∈ t.canonicalNames) : t.canonicalName n = .ok n :=
  if_pos hn

theorem canonicalName_of_alias (h : t.IsResolved) (ha : (n, c) ∈ t.aliases) :
    t.canonicalName n = .ok c := by
  have hnot := h.not_mem_canonicalNames (List.mem_map_of_mem ha)
  rw [canonicalName, if_neg hnot, h.lookup_aliases_iff.mpr ha]

/-- Every name belongs to one symbol, which is found under it and under its own name. -/
theorem resolves (h : t.IsResolved) (hn : n ∈ t.names) :
    ∃ c d, t.canonicalName n = .ok c ∧ c ∈ t.canonicalNames ∧ t.canonicalName c = .ok c ∧
      t.lookup? n = some d ∧ t.lookup? c = some d ∧ t.get n = .ok d ∧ d.name = c := by
  obtain ⟨c, d, hname, hc, hlookup, hd⟩ : ∃ c d, t.canonicalName n = .ok c ∧
      c ∈ t.canonicalNames ∧ t.lookup? n = some d ∧ t.definition? c = some d := by
    rcases List.mem_append.mp hn with hn | hn
    · obtain ⟨d, hd, -⟩ := exists_definition? hn
      exact ⟨n, d, canonicalName_of_mem hn, hn, lookup?_of_definition hd, hd⟩
    · obtain ⟨⟨a, c⟩, ha, rfl⟩ := List.mem_map.mp hn
      have hc := h.targets _ ha
      obtain ⟨d, hd, -⟩ := exists_definition? hc
      have hnone : t.definition? a = none := by
        refine List.find?_eq_none.mpr fun e he heq => h.not_mem_canonicalNames hn ?_
        rw [← of_decide_eq_true heq]
        exact List.mem_map_of_mem he
      refine ⟨c, d, h.canonicalName_of_alias ha, hc, ?_, hd⟩
      rw [lookup?_of_alias hnone (h.lookup_aliases_iff.mpr ha)]
      exact hd
  refine ⟨c, d, hname, hc, canonicalName_of_mem hc, hlookup, lookup?_of_definition hd, ?_,
    name_of_definition? hd⟩
  rw [get, hlookup]

/-- Only names of the table are resolved. -/
theorem mem_names_of_canonicalName (h : t.IsResolved) (hc : t.canonicalName n = .ok c) :
    n ∈ t.names := by
  unfold canonicalName at hc
  by_cases hn : n ∈ t.canonicalNames
  · exact List.mem_append_left _ hn
  rw [if_neg hn] at hc
  cases hlookup : t.aliases.lookup n with
  | none =>
    rw [hlookup] at hc
    cases hc
  | some target =>
    exact List.mem_append_right _ (List.mem_map_of_mem (h.lookup_aliases_iff.mp hlookup))

end IsResolved

/-! ## The aliases of a symbol -/

theorem mem_aliasesOf_iff : n ∈ t.aliasesOf c ↔ (n, c) ∈ t.aliases := by
  rw [aliasesOf, mem_sort, List.mem_map]
  constructor
  · rintro ⟨⟨a, target⟩, ha, rfl⟩
    obtain ⟨ha, htarget⟩ := List.mem_filter.mp ha
    rwa [← of_decide_eq_true htarget]
  · intro ha
    exact ⟨(n, c), List.mem_filter.mpr ⟨ha, decide_eq_true rfl⟩, rfl⟩

namespace IsResolved

theorem aliasesOf_eq_nil (h : t.IsResolved) (hc : c ∉ t.canonicalNames) : t.aliasesOf c = [] :=
  List.eq_nil_iff_forall_not_mem.mpr fun _ ha => hc (h.targets _ (mem_aliasesOf_iff.mp ha))

theorem nodup_aliasesOf (h : t.IsResolved) (c : Text) : (t.aliasesOf c).Nodup :=
  (perm_sort _).nodup_iff.mpr (h.nodup_aliasNames.sublist (List.filter_sublist.map _))

/-- An alias has one target, so it is an alias of one symbol. -/
theorem disjoint_aliasesOf (h : t.IsResolved) {c' : Text} (hne : c ≠ c') :
    List.Disjoint (t.aliasesOf c) (t.aliasesOf c') := by
  intro a ha ha'
  have hc := h.lookup_aliases_iff.mpr (mem_aliasesOf_iff.mp ha)
  have hc' := h.lookup_aliases_iff.mpr (mem_aliasesOf_iff.mp ha')
  exact hne (Option.some.inj (hc.symm.trans hc'))

/-- Listing the aliases of one symbol after the other lists every alias once. -/
theorem perm_flatMap_aliasesOf (h : t.IsResolved) :
    (t.canonicalNames.flatMap t.aliasesOf).Perm t.aliasNames := by
  have hnodup : (t.canonicalNames.flatMap t.aliasesOf).Nodup :=
    List.nodup_flatMap.mpr ⟨fun c _ => h.nodup_aliasesOf c,
      h.nodup_canonicalNames.imp fun hne => h.disjoint_aliasesOf hne⟩
  refine (List.perm_ext_iff_of_nodup hnodup h.nodup_aliasNames).mpr fun a => ?_
  rw [List.mem_flatMap, aliasNames, List.mem_map]
  constructor
  · rintro ⟨c, -, ha⟩
    exact ⟨(a, c), mem_aliasesOf_iff.mp ha, rfl⟩
  · rintro ⟨⟨a, c⟩, ha, rfl⟩
    exact ⟨c, h.targets _ ha, mem_aliasesOf_iff.mpr ha⟩

end IsResolved

/-! ## Agreement -/

/-- Every query of a table agrees with every other one. -/
structure QueriesAgree (t : SymbolTable) : Prop where
  /-- A name is known to all of them or to none. -/
  known : ∀ n, List.TFAE [t.contains n = true, ∃ d, t.lookup? n = some d,
    ∃ c, t.canonicalName n = .ok c, ∃ d, t.get n = .ok d, n ∈ t.names]
  /-- It is either that of a symbol or an alias. -/
  kind : ∀ n ∈ t.names, Xor (n ∈ t.canonicalNames) (t.isAlias n = true)
  /-- It resolves to the name of a symbol, which resolves to itself; both are names of one
  definition, which is called like the latter. -/
  resolved : ∀ n ∈ t.names, ∃ c d, t.canonicalName n = .ok c ∧ c ∈ t.canonicalNames ∧
    t.canonicalName c = .ok c ∧ t.lookup? n = some d ∧ t.lookup? c = some d ∧ t.get n = .ok d ∧
    d.name = c
  /-- The symbols are listed first. -/
  listed : t.names = t.canonicalNames ++ t.aliasNames
  /-- Every name is listed once. -/
  nodup : t.names.Nodup
  size : t.size = t.names.length
  /-- Every alias is listed among those of one symbol, and there once. -/
  grouped : (t.canonicalNames.flatMap t.aliasesOf).Perm t.aliasNames
  sorted : ∀ n, (t.aliasesOf n).Pairwise fun a b => precedes a b = true
  /-- Nothing but a symbol has aliases. -/
  others : ∀ n, n ∉ t.canonicalNames → t.aliasesOf n = []

/-- The queries of every table that has been built agree, whichever texts are expressions. -/
theorem queriesAgree_of_buildWith {isExpression : Text → Bool} {ds : List SymbolDefinition}
    {pairs : List (Text × Text)} {t : SymbolTable}
    (hbuild : buildWith isExpression ds pairs = .ok t) : t.QueriesAgree := by
  have h := isResolved_of_buildWith hbuild
  refine {
    known := fun n => ?known
    kind := fun n hn => ?kind
    resolved := fun n hn => h.resolves hn
    listed := rfl
    nodup := h.nodup
    size := ?size
    grouped := h.perm_flatMap_aliasesOf
    sorted := fun n => pairwise_sort _
    others := fun n hn => h.aliasesOf_eq_nil hn }
  case known =>
    tfae_have 1 ↔ 5 := List.contains_iff_mem
    tfae_have 5 → 2 := fun hn => by
      obtain ⟨c, d, -, -, -, hlookup, -⟩ := h.resolves hn
      exact ⟨d, hlookup⟩
    tfae_have 5 → 3 := fun hn => by
      obtain ⟨c, d, hname, -⟩ := h.resolves hn
      exact ⟨c, hname⟩
    tfae_have 5 → 4 := fun hn => by
      obtain ⟨c, d, -, -, -, -, -, hget, -⟩ := h.resolves hn
      exact ⟨d, hget⟩
    tfae_have 2 → 5 := fun ⟨d, hd⟩ => mem_names_of_lookup? hd
    tfae_have 3 → 5 := fun ⟨c, hc⟩ => h.mem_names_of_canonicalName hc
    tfae_have 4 → 5 := fun ⟨d, hd⟩ => mem_names_of_lookup? (lookup?_of_get hd)
    tfae_finish
  case kind =>
    have hiff : t.isAlias n = true ↔ n ∈ t.aliasNames := List.contains_iff_mem
    rw [hiff]
    rcases List.mem_append.mp hn with hn | hn
    · exact Or.inl ⟨hn, fun ha => h.not_mem_canonicalNames ha hn⟩
    · exact Or.inr ⟨hn, h.not_mem_canonicalNames hn⟩
  case size => rw [size, distinct_of_nodup h.nodup]

/-- The built-in table with the aliases of the other letter case. -/
theorem queriesAgree_of_buildWith_builtin :
    build SymbolDefinition.builtin (builtinAliases ++ caseAliases) = .ok (builtin true) ∧
      (builtin true).QueriesAgree :=
  ⟨build_builtin true, queriesAgree_of_buildWith (build_builtin true)⟩

end DatePattern.SymbolTable
