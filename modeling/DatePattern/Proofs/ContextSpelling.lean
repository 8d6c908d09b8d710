/-
  The spelling that a context carries.

  A context is made for the code of the call that finds none kept under its normal form, and later
  calls with the same normal form are given this context again, with that spelling, as long as it is
  kept.  So the code of a context is told by the calls alone: it is the one of the call since which
  the normal form has been among those kept, without a break.

  * `ContextCall.MadeFor.unique`: calls determine that spelling.
  * `LocaleStore.madeFor_after`: the contexts kept behind any calls carry it.
  * `LocaleStore.code_of_context_after`: so do the contexts given out, and which of them carry the
    code that they have been asked for by.
-/
import DatePattern.Proofs.Backends
import DatePattern.Proofs.ContextCache
import Mathlib.Data.List.Induction

namespace DatePattern

open Text

namespace ContextCall

/-- The normal codes under which contexts are kept behind calls. -/
def kept (calls : List ContextCall) : List Text := Recent.latest maxContexts (requested calls)

/-- A call for a code, behind some first calls, made the context that is kept under a key behind all
calls: it found none, and the key has been kept ever since. -/
structure Makes (before calls : List ContextCall) (key code : Text) : Prop where
  called : before ++ [create code] <+: calls
  normalize_eq : LocaleCode.normalize code = key
  absent : key ∉ kept before
  since : ∀ first, before ++ [create code] <+: first → first <+: calls → key ∈ kept first

/-- The context kept under a key behind calls was made for a code. -/
def MadeFor (calls : List ContextCall) (key code : Text) : Prop :=
  ∃ before, Makes before calls key code

variable {calls : List ContextCall} {key code code' : Text}

theorem requested_concat (calls : List ContextCall) (c : ContextCall) :
    requested (calls ++ [c]) = c.note (requested calls) := by
  rw [requested, requested, List.foldl_append]
  rfl

/-- The code that has been asked for last is kept. -/
theorem mem_kept_concat (calls : List ContextCall) (code : Text) :
    LocaleCode.normalize code ∈ kept (calls ++ [create code]) := by
  rw [kept, requested_concat, note, Recent.latest_concat (by decide)]
  exact List.mem_concat_self

/-- A code that finds no context has one made for it. -/
theorem madeFor_create (h : LocaleCode.normalize code ∉ kept calls) :
    MadeFor (calls ++ [create code]) (LocaleCode.normalize code) code := by
  refine ⟨calls, List.prefix_rfl, rfl, h, fun first hfrom hto => ?_⟩
  rw [hto.eq_of_length_le hfrom.length_le]
  exact mem_kept_concat calls code

/-- One more call changes nothing about a context that stays. -/
theorem MadeFor.concat (h : MadeFor calls key code) {c : ContextCall}
    (hkept : key ∈ kept (calls ++ [c])) : MadeFor (calls ++ [c]) key code := by
  obtain ⟨before, hmakes⟩ := h
  refine ⟨before, hmakes.called.trans (List.prefix_append calls [c]), hmakes.normalize_eq,
    hmakes.absent, fun first hfrom hto => ?_⟩
  rcases List.prefix_concat_iff.mp hto with rfl | hto
  · exact hkept
  · exact hmakes.since first hfrom hto

theorem MadeFor.mem_kept (h : MadeFor calls key code) : key ∈ kept calls := by
  obtain ⟨before, hmakes⟩ := h
  exact hmakes.since calls hmakes.called List.prefix_rfl

/-- Of two calls that made the context, none is the later one: it would have found the context. -/
theorem Makes.code_eq_of_prefix {before before' : List ContextCall}
    (h : Makes before calls key code) (h' : Makes before' calls key code')
    (hle : before ++ [create code] <+: before' ++ [create code']) : code = code' := by
  rcases List.prefix_concat_iff.mp hle with heq | hlt
  · cases (List.append_inj' heq rfl).2
    rfl
  · have hbefore' : before' <+: calls := (List.prefix_append before' _).trans h'.called
    exact absurd (h.since before' hlt hbefore') h'.absent

/-- The calls tell the code that the context was made for. -/
theorem MadeFor.unique (h : MadeFor calls key code) (h' : MadeFor calls key code') :
    code = code' := by
  obtain ⟨before, hmakes⟩ := h
  obtain ⟨before', hmakes'⟩ := h'
  rcases List.prefix_or_prefix_of_prefix hmakes.called hmakes'.called with hle | hle
  · exact hmakes.code_eq_of_prefix hmakes' hle
  · exact (hmakes'.code_eq_of_prefix hmakes hle).symm

end ContextCall

namespace LocaleStore

open ContextCall

theorem after_concat (db : LocaleDatabase) (s : LocaleStore) (calls : List ContextCall)
    (c : ContextCall) : s.after db (calls ++ [c]) = (s.after db calls).call db c := by
  rw [after, after, List.foldl_append]
  rfl

theorem keys_after (db : LocaleDatabase) (calls : List ContextCall) :
    (fresh.after db calls).contexts.keys = kept calls :=
  ((tracks_nil LocaleCode.fallback).after calls).keys

/-- Behind any calls every context that is kept carries the spelling that it was made for. -/
theorem madeFor_after (db : LocaleDatabase) (calls : List ContextCall) :
    ∀ e ∈ (fresh.after db calls).contexts.entries, MadeFor calls e.1 e.2.code := by
  induction calls using List.reverseRecOn with
  | nil =>
    intro e he
    cases he
  | append_singleton calls c ih =>
    intro e he
    have hkept : e.1 ∈ kept (calls ++ [c]) := by
      rw [← keys_after db]
      exact List.mem_map_of_mem he
    rw [after_concat] at he
    cases c with
    | clear => cases he
    | create code =>
      rw [call] at he
      cases hfind : (fresh.after db calls).contexts.find? (LocaleCode.normalize code) with
      | some x =>
        rw [context?_kept hfind] at he
        exact (ih e (Recent.mem_entries_of_mem_touch he)).concat hkept
      | none =>
        rw [context?_made hfind] at he
        rcases Recent.mem_entries_of_mem_put he with rfl | he
        · have habsent := Recent.find?_eq_none_iff.mp hfind
          rw [keys_after] at habsent
          simp only [LocaleContext.lenient_code]
          exact madeFor_create habsent
        · exact (ih e he).concat hkept

/-- Behind any calls there is a context for every code.  It was made for this code if none is kept
under its normal form, and otherwise for the code of the call since which one has been kept.  So it
carries the code that it is asked for by, unless the call that made it spelled the same normal form
in another way. -/
theorem code_of_context_after (db : LocaleDatabase) (calls : List ContextCall) (code : Text) :
    ∃ x s, (fresh.after db calls).context? (some db) code = some (x, s) ∧
      (∀ spelling, x.code = spelling ↔
        MadeFor (calls ++ [create code]) (LocaleCode.normalize code) spelling) ∧
      (x.code = code ↔ (LocaleCode.normalize code ∈ kept calls →
        MadeFor calls (LocaleCode.normalize code) code)) ∧
      LocaleCode.normalize x.code = LocaleCode.normalize code := by
  obtain ⟨x, hcontext⟩ := context?_eq_put db (fresh.after db calls) code
  have hmade : MadeFor (calls ++ [create code]) (LocaleCode.normalize code) x.code := by
    refine madeFor_after db (calls ++ [create code]) (LocaleCode.normalize code, x) ?_
    rw [after_concat, call, hcontext]
    exact Recent.mem_entries_of_find? (Recent.find?_put_self _ _ _ _)
  have hagain : ∀ {spelling}, MadeFor calls (LocaleCode.normalize code) spelling →
      x.code = spelling :=
    fun h => hmade.unique (h.concat hmade.mem_kept)
  refine ⟨x, _, hcontext, fun spelling => ⟨fun h => h ▸ hmade, hmade.unique⟩, ?_, ?_⟩
  · constructor
    · intro hcode hkept
      rw [← keys_after db] at hkept
      obtain ⟨y, hfind⟩ := Recent.exists_find? hkept
      have hbefore : MadeFor calls (LocaleCode.normalize code) y.code :=
        madeFor_after db calls _ (Recent.mem_entries_of_find? hfind)
      have hsame : y.code = code := (hagain hbefore).symm.trans hcode
      rwa [hsame] at hbefore
    · intro hsame
      by_cases hkept : LocaleCode.normalize code ∈ kept calls
      · exact hagain (hsame hkept)
      · exact hmade.unique (madeFor_create hkept)
  · obtain ⟨before, hmakes⟩ := hmade
    exact hmakes.normalize_eq

/-- A context that was made for one spelling and is asked for by another. -/
theorem code_ne_requested : ∃ x s,
    (fresh.after .englishOnly [.create "en-US".toList]).context? (some .englishOnly)
      "en_US".toList = some (x, s) ∧ x.code ≠ "en_US".toList :=
  ⟨_, _, rfl, by decide⟩

end LocaleStore

end DatePattern
