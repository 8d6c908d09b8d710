/-
  Two workspaces that no request can tell apart.

  Work goes in `Lockstep` when it takes related workspaces to related ones and ends alike in both:
  with the same fault, or with related results.  Steps in lockstep can be put one behind the other
  (`Lockstep.bind`), so that what a whole request needs is known from its parts.

  The workspaces may differ in what they keep.  Their compilers serve the same table under the same
  names, each with a cache that holds what it should (`Compiler.Serves`).  Their locale stores lead
  to contexts of the same locale (`LocaleStore.Indistinct`), which the table prints alike
  (`SymbolTable.PrintsAlike`).

  * `Workspace.Like.answer`: one request has the same answer in both, and leaves them alike.
  * `Workspace.Like.answers`: and so have any requests in order.
-/
import DatePattern.Compiler.Request
import DatePattern.Proofs.History

namespace DatePattern

open Text

/-! ## Compilers -/

/-- A compiler for a table that emits programs under some names; its cache, if there is one, holds
the tokens of its patterns. -/
structure Compiler.Serves (t : SymbolTable) (functionName parameter : Text) (c : Compiler) :
    Prop where
  table : c.table = t
  functionName : c.config.functionName = functionName
  parameter : c.config.parameter = parameter
  tokens : c.Holds

namespace Compiler.Serves

variable {t : SymbolTable} {functionName parameter : Text} {c : Compiler}

theorem fst_tokenize (h : c.Serves t functionName parameter) (pattern : Text) :
    (c.tokenize pattern).1 = DatePattern.tokenize t.names pattern := by
  rw [(h.tokens.tokenize pattern).1, h.table]

theorem snd_tokenize (h : c.Serves t functionName parameter) (pattern : Text) :
    (c.tokenize pattern).2.Serves t functionName parameter where
  table := (table_tokenize c pattern).trans h.table
  functionName := by rw [config_tokenize, h.functionName]
  parameter := by rw [config_tokenize, h.parameter]
  tokens := (h.tokens.tokenize pattern).2

theorem clear (h : c.Serves t functionName parameter) :
    c.clear.Serves t functionName parameter :=
  ⟨h.table, h.functionName, h.parameter, holds_clear⟩

end Compiler.Serves

theorem Compiler.serves_of_make {table? : Option SymbolTable} {config : Config} {c : Compiler}
    (h : Compiler.make table? config = .ok c) :
    c.Serves (table?.getD (.builtin config.caseAliases)) config.functionName config.parameter := by
  unfold Compiler.make at h
  cases hcheck : config.check with
  | error fault =>
    rw [hcheck] at h
    cases h
  | ok u =>
    rw [hcheck] at h
    cases h
    exact ⟨rfl, rfl, rfl, fun cache hcache => TokenCache.holds_ofCapacity? hcache⟩

/-! ## Stores -/

/-- Stores in the first relation give contexts in the second one, and these are for the same
locale. -/
structure LocaleStore.Indistinct (db? : Option LocaleDatabase)
    (stores : LocaleStore → LocaleStore → Prop) (contexts : LocaleContext → LocaleContext → Prop) :
    Prop where
  default_eq : ∀ s s', stores s s' → s.default = s'.default
  context : ∀ s s', stores s s' → ∀ code,
    Option.Rel (fun r r' => contexts r.1 r'.1 ∧ stores r.2 r'.2)
      (s.context? db? code) (s'.context? db? code)
  identifier_eq : ∀ x x', contexts x x' → x.identifier = x'.identifier

/-- The symbols of the table look alike in related contexts. -/
def SymbolTable.PrintsAlike (t : SymbolTable) (contexts : LocaleContext → LocaleContext → Prop) :
    Prop :=
  ∀ x x', contexts x x' → ∀ i tokens, Token.formatAll t i x tokens = Token.formatAll t i x' tokens

theorem SymbolTable.printsAlike_eq (t : SymbolTable) : t.PrintsAlike Eq := by
  rintro x _ rfl i tokens
  rfl

/-- Stores that are the same, with a property that making contexts keeps. -/
theorem LocaleStore.indistinct_eq (db? : Option LocaleDatabase) {P : LocaleStore → Prop}
    (hP : ∀ s code x s', P s → s.context? db? code = some (x, s') → P s') :
    Indistinct db? (fun s s' => s = s' ∧ P s) Eq where
  default_eq := by
    rintro s _ ⟨rfl, -⟩
    rfl
  context := by
    rintro s _ ⟨rfl, hs⟩ code
    cases hcontext : s.context? db? code with
    | none => exact .none
    | some r => exact .some ⟨rfl, rfl, hP s code r.1 r.2 hs hcontext⟩
  identifier_eq := by
    rintro x _ rfl
    rfl

/-! ## Workspaces -/

/-- Workspaces that differ at most in what they keep. -/
structure Workspace.Like (t : SymbolTable) (functionName parameter : Text)
    (stores : LocaleStore → LocaleStore → Prop) (w w' : Workspace) : Prop where
  left : w.compiler.Serves t functionName parameter
  right : w'.compiler.Serves t functionName parameter
  stores : stores w.locales w'.locales

namespace Work

variable {α β γ δ : Type}

/-- The same fault, or related results. -/
inductive Matches (Q : α → β → Prop) : Except Fault α → Except Fault β → Prop
  | fault (fault : Fault) : Matches Q (.error fault) (.error fault)
  | result {a : α} {b : β} (h : Q a b) : Matches Q (.ok a) (.ok b)

theorem Matches.eq {o o' : Except Fault α} (h : Matches Eq o o') : o = o' := by
  cases h with
  | fault => rfl
  | result h => rw [h]

theorem matches_refl (o : Except Fault α) : Matches Eq o o := by
  cases o with
  | error fault => exact .fault fault
  | ok a => exact .result rfl

/-- Work that ends alike in related workspaces and leaves related ones behind. -/
def Lockstep (R : Workspace → Workspace → Prop) (Q : α → β → Prop) (work : Work α)
    (work' : Work β) : Prop :=
  ∀ w w', R w w' → Matches Q (work.run w).1 (work'.run w').1 ∧ R (work.run w).2 (work'.run w').2

section Rules

variable {R : Workspace → Workspace → Prop}

theorem lockstep_pure {Q : α → β → Prop} {a : α} {b : β} (h : Q a b) :
    Lockstep R Q (pure a) (pure b) :=
  fun _ _ hw => ⟨.result h, hw⟩

theorem Lockstep.bind {P : α → β → Prop} {Q : γ → δ → Prop} {work : Work α} {work' : Work β}
    {next : α → Work γ} {next' : β → Work δ} (h : Lockstep R P work work')
    (hnext : ∀ a b, P a b → Lockstep R Q (next a) (next' b)) :
    Lockstep R Q (work >>= next) (work' >>= next') := by
  intro w w' hw
  obtain ⟨hmatch, hv⟩ := h w w' hw
  obtain ⟨⟨o, v⟩, hrun⟩ : ∃ r, work.run w = r := ⟨_, rfl⟩
  obtain ⟨⟨o', v'⟩, hrun'⟩ : ∃ r, work'.run w' = r := ⟨_, rfl⟩
  rw [hrun, hrun'] at hmatch hv
  cases hmatch with
  | fault fault =>
    rw [run_bind_error hrun, run_bind_error hrun']
    exact ⟨.fault fault, hv⟩
  | result hab =>
    rw [run_bind_ok hrun, run_bind_ok hrun']
    exact hnext _ _ hab v v' hv

theorem Lockstep.bind_eq {Q : γ → δ → Prop} {work work' : Work α} {next : α → Work γ}
    {next' : α → Work δ} (h : Lockstep R Eq work work')
    (hnext : ∀ a, Lockstep R Q (next a) (next' a)) :
    Lockstep R Q (work >>= next) (work' >>= next') := by
  refine h.bind ?_
  rintro a _ rfl
  exact hnext a

theorem lockstep_get : Lockstep R R get get :=
  fun _ _ hw => ⟨.result hw, hw⟩

theorem lockstep_lift {ε : Type} (fault : ε → Fault) {result result' : Except ε α}
    (h : result = result') : Lockstep R Eq (lift fault result) (lift fault result') := by
  intro w w' hw
  rw [run_lift, run_lift, h]
  exact ⟨matches_refl _, hw⟩

end Rules

/-! ## The steps of requests -/

section Steps

variable {db? : Option LocaleDatabase} {t : SymbolTable} {functionName parameter : Text}
  {stores : LocaleStore → LocaleStore → Prop} {contexts : LocaleContext → LocaleContext → Prop}

theorem lockstep_tokenize (pattern : Text) :
    Lockstep (Workspace.Like t functionName parameter stores) Eq
      (tokenize pattern) (tokenize pattern) := by
  intro w w' hw
  rw [run_tokenize, run_tokenize, hw.left.fst_tokenize, hw.right.fst_tokenize]
  exact ⟨matches_refl _, hw.left.snd_tokenize pattern, hw.right.snd_tokenize pattern, hw.stores⟩

theorem lockstep_clear :
    Lockstep (Workspace.Like t functionName parameter stores) Eq
      (modify fun w => { w with compiler := w.compiler.clear } : Work PUnit)
      (modify fun w => { w with compiler := w.compiler.clear }) :=
  fun _ _ hw => ⟨.result rfl, hw.left.clear, hw.right.clear, hw.stores⟩

theorem lockstep_formatTokens (ht : t.PrintsAlike contexts) (tokens : List Token) (i : Instant)
    {x x' : LocaleContext} (hx : contexts x x') :
    Lockstep (Workspace.Like t functionName parameter stores) Eq
      (formatTokens tokens i x) (formatTokens tokens i x') := by
  refine lockstep_get.bind fun w w' hw => lockstep_lift _ ?_
  rw [hw.left.table, hw.right.table]
  exact ht x x' hx i tokens

variable (h : LocaleStore.Indistinct db? stores contexts)
include h

theorem lockstep_resolve (locale : Option Text) :
    Lockstep (Workspace.Like t functionName parameter stores) Eq
      (resolve locale) (resolve locale) := by
  intro w w' hw
  have hdefault := h.default_eq _ _ hw.stores
  rw [run_resolve, run_resolve]
  cases locale with
  | none =>
    rw [LocaleStore.resolve_none, LocaleStore.resolve_none, hdefault]
    exact ⟨matches_refl _, hw⟩
  | some code => exact ⟨matches_refl _, hw⟩

theorem lockstep_context (code : Text) :
    Lockstep (Workspace.Like t functionName parameter stores) contexts
      (context db? code) (context db? code) := by
  intro w w' hw
  have hcontext := h.context _ _ hw.stores code
  unfold context
  rw [run_bind_ok (run_get w), run_bind_ok (run_get w')]
  cases hleft : w.locales.context? db? code <;> cases hright : w'.locales.context? db? code
  all_goals
    rw [hleft, hright] at hcontext
    cases hcontext
  · exact ⟨.fault _, hw⟩
  · rename_i hx
    exact ⟨.result hx.1, hw.left, hw.right, hx.2⟩

theorem lockstep_effectiveLocale (code : Text) :
    Lockstep (Workspace.Like t functionName parameter stores) Eq
      (effectiveLocale db? code) (effectiveLocale db? code) := by
  unfold effectiveLocale
  split
  · exact lockstep_pure rfl
  · exact (lockstep_context h code).bind fun x x' hx => lockstep_pure (h.identifier_eq x x' hx)

theorem lockstep_emitTokens (tokens : List Token) (code : Text) :
    Lockstep (Workspace.Like t functionName parameter stores) Eq
      (emitTokens db? tokens code) (emitTokens db? tokens code) := by
  refine (lockstep_effectiveLocale h code).bind_eq fun locale => ?_
  refine lockstep_get.bind fun w w' hw => lockstep_lift _ ?_
  rw [hw.left.table, hw.right.table, hw.left.functionName, hw.right.functionName,
    hw.left.parameter, hw.right.parameter]

/-! ## Requests -/

theorem lockstep_emit (pattern : Text) (locale : Option Text) :
    Lockstep (Workspace.Like t functionName parameter stores) Eq
      (emit db? pattern locale) (emit db? pattern locale) :=
  (lockstep_tokenize pattern).bind_eq fun tokens => (lockstep_resolve h locale).bind_eq fun code =>
    lockstep_emitTokens h tokens code

theorem lockstep_render (pattern : Text) (locale : Option Text) :
    Lockstep (Workspace.Like t functionName parameter stores) Eq
      (render db? pattern locale) (render db? pattern locale) :=
  (lockstep_emit h pattern locale).bind_eq fun _ => lockstep_pure rfl

variable (ht : t.PrintsAlike contexts)
include ht

theorem lockstep_format (pattern : Text) (given : GivenInstant) (locale : Option Text) :
    Lockstep (Workspace.Like t functionName parameter stores) Eq
      (format db? pattern given locale) (format db? pattern given locale) :=
  (lockstep_lift _ rfl).bind_eq fun i => (lockstep_resolve h locale).bind_eq fun code =>
    (lockstep_context h code).bind fun _ _ hx => (lockstep_tokenize pattern).bind_eq fun tokens =>
      lockstep_formatTokens ht tokens i hx

theorem lockstep_preview (pattern : Text) (given : GivenInstant) (locale : Option Text) :
    Lockstep (Workspace.Like t functionName parameter stores) Eq
      (preview db? pattern given locale) (preview db? pattern given locale) :=
  (lockstep_lift _ rfl).bind_eq fun i => (lockstep_resolve h locale).bind_eq fun code =>
    (lockstep_tokenize pattern).bind_eq fun tokens => (lockstep_context h code).bind fun _ _ hx =>
      (lockstep_formatTokens ht tokens i hx).bind_eq fun _ =>
        (lockstep_emitTokens h tokens code).bind_eq fun _ => lockstep_pure rfl

theorem lockstep_request (r : Request) :
    Lockstep (Workspace.Like t functionName parameter stores) Eq (r.work db?) (r.work db?) := by
  cases r with
  | tokenize pattern => exact (lockstep_tokenize pattern).bind_eq fun _ => lockstep_pure rfl
  | format pattern given locale =>
    exact (lockstep_format h ht pattern given locale).bind_eq fun _ => lockstep_pure rfl
  | emit pattern locale =>
    exact (lockstep_emit h pattern locale).bind_eq fun _ => lockstep_pure rfl
  | render pattern locale =>
    exact (lockstep_render h pattern locale).bind_eq fun _ => lockstep_pure rfl
  | preview pattern given locale =>
    exact (lockstep_preview h ht pattern given locale).bind_eq fun _ => lockstep_pure rfl
  | clear => exact lockstep_clear.bind_eq fun _ => lockstep_pure rfl

end Steps

end Work

namespace Workspace.Like

variable {db? : Option LocaleDatabase} {t : SymbolTable} {functionName parameter : Text}
  {stores : LocaleStore → LocaleStore → Prop} {contexts : LocaleContext → LocaleContext → Prop}
  {w w' : Workspace}

/-- A request is answered alike in both workspaces, which stay alike. -/
theorem answer (h : LocaleStore.Indistinct db? stores contexts) (ht : t.PrintsAlike contexts)
    (hw : w.Like t functionName parameter stores w') (r : Request) :
    ((r.work db?).run w).1 = ((r.work db?).run w').1 ∧
      ((r.work db?).run w).2.Like t functionName parameter stores ((r.work db?).run w').2 := by
  obtain ⟨hmatch, hv⟩ := Work.lockstep_request h ht r w w' hw
  exact ⟨hmatch.eq, hv⟩

/-- Requests in order are answered alike, and leave the workspaces alike. -/
theorem answers (h : LocaleStore.Indistinct db? stores contexts) (ht : t.PrintsAlike contexts)
    (hw : w.Like t functionName parameter stores w') (rs : List Request) :
    (play db? rs w).1 = (play db? rs w').1 ∧
      (play db? rs w).2.Like t functionName parameter stores (play db? rs w').2 := by
  induction rs generalizing w w' with
  | nil => exact ⟨rfl, hw⟩
  | cons r rs ih =>
    obtain ⟨hanswer, hv⟩ := hw.answer h ht r
    obtain ⟨hanswers, hrest⟩ := ih hv
    rw [play_cons, play_cons, hanswer, hanswers]
    exact ⟨rfl, hrest⟩

end Workspace.Like

end DatePattern
