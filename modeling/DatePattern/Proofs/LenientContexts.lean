/-
  Lenient contexts and strict ones.

  A context that is handed out may have been made long before, for another spelling of the code, by
  a caller or by a request of some compiler.  It is kept under the normal form of its code, and
  everything about it but the spelling depends on that normal form alone.  The strict way looks the
  same normal form up.  So both ways tell the codes that lead to a locale from the others alike, and
  agree on the locale, whatever the process has done before.

  What holds of the contexts kept is shown to be stable: it holds where none are kept, and asking
  for one and changing the default locale keep it.  A stable property holds in every process.

  * `LocaleStore.Stable.of_arises`: stable properties hold of the store behind any events.
  * `LocaleStore.Made.context?`: what is asked for is made for its normal form, kept or not.
  * `LocaleContext.IsOf.agreesWithStrict`: such a context is what the strict way makes or refuses.
  * `Process.context_agreesWithStrict`: the lenient way against the strict one behind any events.
-/
import DatePattern.Proofs.ContextCache
import DatePattern.Proofs.DefaultLocale
import DatePattern.Proofs.LocaleMemory

namespace DatePattern

open Text

/-! ## Stores behind any events -/

namespace LocaleStore

/-- What holds of a store without contexts, and stays true whatever is done with the store. -/
structure Stable (db? : Option LocaleDatabase) (P : LocaleStore → Prop) : Prop where
  empty : ∀ code, P ⟨code, .empty⟩
  default : ∀ s code, P s → P { s with default := code }
  context : ∀ s code x s', P s → s.context? db? code = some (x, s') → P s'

namespace Stable

variable {db? : Option LocaleDatabase} {P : LocaleStore → Prop} {s : Session} {p : Process}
  {t : SymbolTable} {functionName parameter : Text}

theorem setDefault (h : Stable db? P) (hs : P s.locales) (code : Text) :
    P (s.setDefault code).2.locales := by
  by_cases hempty : LocaleCode.normalize code = []
  · rw [Session.setDefault_empty hempty]
    exact hs
  · rw [Session.setDefault_normal hempty]
    exact h.default s.locales _ hs

theorem sessionContext (h : Stable db? P) (hs : P s.locales) (code : Text) :
    P (s.context db? code).2.locales := by
  unfold Session.context
  split
  · exact hs
  · rename_i x locales hcontext
    exact h.context s.locales code x locales hs hcontext

/-- An event keeps what is stable. -/
theorem step (h : Stable db? P) (hp : p.Settled db? t functionName parameter)
    (hs : P p.session.locales) (e : Process.Event) : P (p.step db? e).session.locales := by
  cases e with
  | setDefault code => exact h.setDefault hs code
  | resetDefault => exact h.default p.session.locales _ hs
  | useSystem settings =>
    show P (p.session.useSystem settings).2.locales
    rw [Session.snd_useSystem]
    exact h.setDefault hs _
  | context code => exact h.sessionContext hs code
  | forgetContexts => exact h.empty p.session.locales.default
  | shared how r => exact (Work.serves_of_request h.context (hp.session.shared how) hs r).2
  | own r => exact (Work.serves_of_request h.context hp.own hs r).2

/-- And so do events in order. -/
theorem after (h : Stable db? P) (hp : p.Settled db? t functionName parameter)
    (hs : P p.session.locales) (events : List Process.Event) :
    P (p.after db? events).session.locales := by
  induction events generalizing p with
  | nil => exact hs
  | cons e events ih =>
    rw [Process.after_cons]
    exact ih (hp.step e) (h.step hp hs e)

theorem of_arises (h : Stable db? P) (hp : p.Arises db?) : P p.session.locales := by
  obtain ⟨table?, config, c, events, hmake, rfl⟩ := hp
  exact h.after (Process.settled_start hmake db?) (h.empty LocaleCode.fallback) events

end Stable

/-! ## Contexts that have been made before -/

/-- Every context kept is one of the normal code that it is kept under. -/
def Made (db : LocaleDatabase) (s : LocaleStore) : Prop :=
  ∀ e ∈ s.contexts.entries, e.2.IsOf db e.1

variable {db : LocaleDatabase} {s : LocaleStore}

theorem Made.context? (h : s.Made db) (code : Text) :
    ∃ x s', s.context? (some db) code = some (x, s') ∧ x.IsOf db (LocaleCode.normalize code) ∧
      s'.Made db := by
  cases hfind : s.contexts.find? (LocaleCode.normalize code) with
  | some x =>
    refine ⟨_, _, context?_kept hfind, h _ (Recent.mem_entries_of_find? hfind), ?_⟩
    intro e he
    exact h e (Recent.mem_entries_of_mem_touch he)
  | none =>
    have hlenient := LocaleContext.isOf_lenient db code
    refine ⟨_, _, context?_made hfind, hlenient, ?_⟩
    intro e he
    rcases Recent.mem_entries_of_mem_put he with rfl | he
    · exact hlenient
    · exact h e he

theorem stable_made (db : LocaleDatabase) : Stable (some db) (Made db) where
  empty code := by
    intro e he
    cases he
  default s code h := h
  context s code x s' h hcontext := by
    obtain ⟨y, s₁, hmade, -, hs₁⟩ := h.context? code
    cases hcontext.symm.trans hmade
    exact hs₁

end LocaleStore

/-! ## Against the strict way -/

namespace LocaleContext

/-- A context agrees with what the strict way makes of a code: it is a fallback, of the locale that
the fallback code names, if the code is refused, and otherwise shows what the strict one shows. -/
structure AgreesWithStrict (db : LocaleDatabase) (code : Text) (x : LocaleContext) : Prop where
  isFallback_iff : x.isFallback = true ↔ ∃ r, strict db code = .error r
  refused : ∀ r, strict db code = .error r →
    ∃ l, db.locate LocaleCode.fallback = .ok l ∧ x.identifier = l.identifier
  accepted : ∀ y, strict db code = .ok y → x.identifier = y.identifier ∧
    ∀ kind i width, x.name kind i width = y.name kind i width

variable {db : LocaleDatabase} {x : LocaleContext} {code : Text}

theorem IsOf.agreesWithStrict (h : x.IsOf db (LocaleCode.normalize code)) :
    x.AgreesWithStrict db code := by
  obtain ⟨hlocale, hmark⟩ := h.alike (isOf_lenient db code)
  refine ⟨?_, fun r hr => ?_, fun y hy => ?_⟩
  · rw [hmark, lenient_isFallback_iff]
  · rw [locale_lenient_of_refused hr] at hlocale
    exact ⟨db.english, db.locate_fallback, congrArg Locale.identifier hlocale⟩
  · rw [lenient_of_strict hy] at hlocale
    exact ⟨congrArg Locale.identifier hlocale, name_congr hlocale⟩

end LocaleContext

namespace Process

/-- Whatever has happened in a process with a database, there is a context for every code, and it
agrees with what the strict way makes of the code. -/
theorem context_agreesWithStrict {db : LocaleDatabase} {p : Process} (h : p.Arises (some db))
    (code : Text) : ∃ x session, p.session.context (some db) code = (.ok x, session) ∧
      x.AgreesWithStrict db code := by
  have hmade : p.session.locales.Made db := (LocaleStore.stable_made db).of_arises h
  obtain ⟨x, s', hcontext, hof, -⟩ := hmade.context? code
  refine ⟨x, { p.session with locales := s' }, ?_, hof.agreesWithStrict⟩
  rw [Session.context, hcontext]

/-- A process that keeps the fallback locale under its code, asked for by another spelling, and for
a code that leads nowhere. -/
theorem context_agreesWithStrict_english : ∃ p : Process, p.Arises (some .englishOnly) ∧
    (∃ x session, p.session.context (some .englishOnly) "xx ".toList = (.ok x, session) ∧
      x.isFallback = true ∧ x.identifier = LocaleCode.fallback) ∧
    ∃ x session, p.session.context (some .englishOnly) "en_US.UTF-8".toList = (.ok x, session) ∧
      x.isFallback = false ∧ x.identifier = LocaleCode.fallback := by
  have hmake : Compiler.make none {} = .ok (.ofBuiltin false) := by
    rw [Compiler.make, Config.check_default]
    rfl
  obtain ⟨p, hp⟩ : ∃ p, p = after (some .englishOnly) ⟨.fresh, .ofBuiltin false⟩
      [.context "en-US".toList, .shared none (.format ['d'] (.other []) none),
        .context "xx".toList, .setDefault ['d', 'e']] := ⟨_, rfl⟩
  have harises : p.Arises (some .englishOnly) := ⟨none, {}, _, _, hmake, hp⟩
  obtain ⟨x, session, hx, hagrees⟩ := context_agreesWithStrict harises "xx ".toList
  obtain ⟨y, session', hy, hagrees'⟩ := context_agreesWithStrict harises "en_US.UTF-8".toList
  have hrefused : LocaleContext.strict .englishOnly "xx ".toList =
      .error ⟨"xx ".toList, .unknown "xx".toList⟩ := rfl
  have haccepted : LocaleContext.strict .englishOnly "en_US.UTF-8".toList =
      .ok { code := "en_US.UTF-8".toList, locale := Cldr.english } := rfl
  refine ⟨p, harises, ⟨x, session, hx, hagrees.isFallback_iff.mpr ⟨_, hrefused⟩, ?_⟩,
    y, session', hy, ?_, (hagrees'.accepted _ haccepted).1⟩
  · obtain ⟨l, hl, hidentifier⟩ := hagrees.refused _ hrefused
    cases hl
    exact hidentifier
  · rw [Bool.eq_false_iff, Ne, hagrees'.isFallback_iff, haccepted]
    rintro ⟨r, hr⟩
    cases hr

end Process

end DatePattern
