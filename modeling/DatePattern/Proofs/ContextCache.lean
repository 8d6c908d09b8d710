/-
  Which contexts a process keeps, behind any contexts asked for and forgotten.

  The keys of the contexts kept are the normal codes that have been asked for last since all were
  forgotten, up to `maxContexts` of them.  A context is kept under the normal form of the code that
  it has been made for, so it is right for every spelling of that code.

  * `LocaleStore.contexts_after`: what is kept, and what is given out, behind any calls.
-/
import DatePattern.Proofs.History
import DatePattern.Proofs.Recency

namespace DatePattern

open Text

/-- What can be done with the contexts that are kept. -/
inductive ContextCall where
  /-- Ask for the context of a code. -/
  | create (code : Text)
  /-- Forget all contexts. -/
  | clear
  deriving DecidableEq, Repr

namespace ContextCall

/-- The normal codes asked for since the contexts have been forgotten, behind one more call. -/
def note (codes : List Text) : ContextCall → List Text
  | create code => codes ++ [LocaleCode.normalize code]
  | clear => []

/-- The normal codes asked for since the contexts have been forgotten last, in order. -/
def requested (calls : List ContextCall) : List Text := calls.foldl note []

end ContextCall

/-- A context of the locale that a normal code leads to, or of the fallback locale, and marked so,
where it leads to none. -/
def LocaleContext.IsOf (db : LocaleDatabase) (key : Text) (x : LocaleContext) : Prop :=
  (∀ l, db.locate key = .ok l → x.locale = l ∧ x.isFallback = false) ∧
    ∀ fault, db.locate key = .error fault → x.locale = db.english ∧ x.isFallback = true

namespace LocaleContext

variable {db : LocaleDatabase} {x y : LocaleContext} {key : Text}

theorem isOf_lenient (db : LocaleDatabase) (code : Text) :
    (lenient db code).IsOf db (LocaleCode.normalize code) := by
  unfold lenient
  cases hlocate : db.locate (LocaleCode.normalize code) with
  | ok l =>
    refine ⟨fun l' h => ?_, fun fault h => ?_⟩
    · rw [hlocate] at h
      exact ⟨Except.ok.inj h, rfl⟩
    · rw [hlocate] at h
      cases h
  | error fault =>
    refine ⟨fun l h => ?_, fun fault' _ => ⟨rfl, rfl⟩⟩
    rw [hlocate] at h
    cases h

/-- Two contexts for one normal code differ at most in the spelling they have been made for. -/
theorem IsOf.alike (hx : x.IsOf db key) (hy : y.IsOf db key) :
    x.locale = y.locale ∧ x.isFallback = y.isFallback := by
  cases hlocate : db.locate key with
  | ok l =>
    obtain ⟨hxl, hxf⟩ := hx.1 l hlocate
    obtain ⟨hyl, hyf⟩ := hy.1 l hlocate
    exact ⟨hxl.trans hyl.symm, hxf.trans hyf.symm⟩
  | error fault =>
    obtain ⟨hxl, hxf⟩ := hx.2 fault hlocate
    obtain ⟨hyl, hyf⟩ := hy.2 fault hlocate
    exact ⟨hxl.trans hyl.symm, hxf.trans hyf.symm⟩

end LocaleContext

namespace LocaleStore

variable {db : LocaleDatabase} {s s' : LocaleStore} {codes : List Text} {x : LocaleContext}

/-- The store behind a call. -/
def call (db : LocaleDatabase) (s : LocaleStore) : ContextCall → LocaleStore
  | .create code =>
    match s.context? (some db) code with
    | some (_, s) => s
    | none => s
  | .clear => s.forget

/-- The store behind calls in order. -/
def after (db : LocaleDatabase) (s : LocaleStore) (calls : List ContextCall) : LocaleStore :=
  calls.foldl (call db) s

/-- The store keeps the contexts of the codes asked for last. -/
structure Tracks (db : LocaleDatabase) (codes : List Text) (s : LocaleStore) : Prop where
  keys : s.contexts.keys = Recent.latest maxContexts codes
  made : ∀ e ∈ s.contexts.entries, e.2.IsOf db e.1

theorem tracks_nil (default : Text) : Tracks db [] ⟨default, .empty⟩ := by
  refine ⟨(Recent.latest_nil maxContexts).symm, fun e he => ?_⟩
  cases he

/-- Asking for a context gives one of the code, kept or not, and makes its code the latest. -/
theorem Tracks.context? (h : s.Tracks db codes) (code : Text) :
    ∃ x s', s.context? (some db) code = some (x, s') ∧
      x.IsOf db (LocaleCode.normalize code) ∧
      s'.Tracks db (codes ++ [LocaleCode.normalize code]) := by
  cases hfind : s.contexts.find? (LocaleCode.normalize code) with
  | some x =>
    refine ⟨_, _, context?_kept hfind, h.made _ (Recent.mem_entries_of_find? hfind), ?_, ?_⟩
    · exact Recent.keys_touch h.keys (Recent.mem_keys_of_find? hfind)
    · exact fun e he => h.made e (Recent.mem_entries_of_mem_touch he)
  | none =>
    have hlenient := LocaleContext.isOf_lenient db code
    refine ⟨_, _, context?_made hfind, hlenient, ?_, fun e he => ?_⟩
    · exact Recent.keys_put (by decide) h.keys _ _
    · rcases Recent.mem_entries_of_mem_put he with rfl | he
      · exact hlenient
      · exact h.made e he

theorem Tracks.call (h : s.Tracks db codes) (c : ContextCall) :
    (s.call db c).Tracks db (c.note codes) := by
  cases c with
  | create code =>
    obtain ⟨x, s', hcontext, -, hs'⟩ := h.context? code
    rw [LocaleStore.call, hcontext]
    exact hs'
  | clear => exact tracks_nil s.default

theorem Tracks.after (h : s.Tracks db codes) (calls : List ContextCall) :
    (s.after db calls).Tracks db (calls.foldl ContextCall.note codes) := by
  induction calls generalizing s codes with
  | nil => exact h
  | cons c calls ih => exact ih (h.call c)

/-- Behind any calls the keys are the normal codes asked for last, the context under a key is one of
that code, and a context that is asked for is alike to the one of a store that keeps none. -/
theorem contexts_after (db : LocaleDatabase) (calls : List ContextCall) :
    (fresh.after db calls).contexts.keys =
      Recent.latest maxContexts (ContextCall.requested calls) ∧
    (∀ key ∈ (fresh.after db calls).contexts.keys, ∃ x,
      (fresh.after db calls).contexts.find? key = some x ∧ x.IsOf db key) ∧
    ∀ code, ∃ x s y s₀, (fresh.after db calls).context? (some db) code = some (x, s) ∧
      (fresh.after db calls).forget.context? (some db) code = some (y, s₀) ∧
      x.identifier = y.identifier ∧ x.isFallback = y.isFallback := by
  have htracks : (fresh.after db calls).Tracks db (ContextCall.requested calls) :=
    (tracks_nil LocaleCode.fallback).after calls
  refine ⟨htracks.keys, fun key hkey => ?_, fun code => ?_⟩
  · obtain ⟨x, hx⟩ := Recent.exists_find? hkey
    exact ⟨x, hx, htracks.made _ (Recent.mem_entries_of_find? hx)⟩
  · obtain ⟨x, s, hx, hxof, -⟩ := htracks.context? code
    obtain ⟨y, s₀, hy, hyof, -⟩ := (htracks.call .clear).context? code
    obtain ⟨hlocale, hfallback⟩ := hxof.alike hyof
    refine ⟨x, s, y, s₀, hx, hy, ?_, hfallback⟩
    rw [LocaleContext.identifier, LocaleContext.identifier, hlocale]

end LocaleStore

end DatePattern
