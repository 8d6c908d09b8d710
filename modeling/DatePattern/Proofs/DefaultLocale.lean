/-
  Saving the default locale and setting it again.

  Setting a default gives back the previous one.  Every default is in its normal form, but the
  normal form of a code may end with a blank, and such a default loses its blanks when it is set
  again: only defaults that do not end with a blank come back.

  * `Session.hasNormalDefault_after`: the default is a normal code, whatever has been set.
  * `Session.restores_after_iff`: when a default that has been saved comes back.
-/
import DatePattern.Proofs.LocaleCodes
import DatePattern.Session

namespace DatePattern

open Text

/-- What can be done with the default locale. -/
inductive DefaultCall where
  | set (code : Text)
  | reset
  | useSystem (settings : LocaleCode.SystemSettings)
  deriving DecidableEq, Repr

namespace Session

variable {s : Session} {code : Text}

/-- The session behind a call. -/
def call (s : Session) : DefaultCall → Session
  | .set code => (s.setDefault code).2
  | .reset => s.resetDefault
  | .useSystem settings => (s.useSystem settings).2

/-- The session behind calls in order. -/
def afterCalls (s : Session) (calls : List DefaultCall) : Session := calls.foldl call s

/-- Setting a code is refused and changes nothing, or it gives the previous default, and setting
that one makes it the default again. -/
def Restores (s : Session) (code : Text) : Prop :=
  s.setDefault code = (.error .emptyLocale, s) ∨
    ∃ s', s.setDefault code = (.ok s.locales.default, s') ∧
      (s'.setDefault s.locales.default).2.locales.default = s.locales.default

/-! ## One call -/

theorem setDefault_empty (h : LocaleCode.normalize code = []) :
    s.setDefault code = (.error .emptyLocale, s) := by
  simp [setDefault, LocaleStore.setDefault?, h]

theorem setDefault_normal (h : LocaleCode.normalize code ≠ []) :
    s.setDefault code = (.ok s.locales.default,
      { s with locales := { s.locales with default := LocaleCode.normalize code } }) := by
  simp [setDefault, LocaleStore.setDefault?, h]

theorem snd_useSystem (s : Session) (settings : LocaleCode.SystemSettings) :
    (s.useSystem settings).2 = (s.setDefault (LocaleCode.systemCode settings)).2 := by
  unfold useSystem
  dsimp only
  split <;> rename_i h <;> rw [h]

/-- The default is a code in its normal form. -/
structure HasNormalDefault (s : Session) : Prop where
  ne_nil : s.locales.default ≠ []
  normal : LocaleCode.IsNormal s.locales.default

theorem hasNormalDefault_fallback (s : Session) : s.resetDefault.HasNormalDefault := by
  have hnormal := LocaleCode.isNormal_normalize LocaleCode.fallback
  have hfallback : LocaleCode.normalize LocaleCode.fallback = LocaleCode.fallback := by decide
  have hne : LocaleCode.fallback ≠ [] := by decide
  rw [hfallback] at hnormal
  exact ⟨hne, hnormal⟩

theorem HasNormalDefault.setDefault (h : s.HasNormalDefault) (code : Text) :
    (s.setDefault code).2.HasNormalDefault := by
  by_cases hempty : LocaleCode.normalize code = []
  · rw [setDefault_empty hempty]
    exact h
  · rw [setDefault_normal hempty]
    exact ⟨hempty, LocaleCode.isNormal_normalize code⟩

theorem HasNormalDefault.call (h : s.HasNormalDefault) (c : DefaultCall) :
    (s.call c).HasNormalDefault := by
  cases c with
  | set code => exact h.setDefault code
  | reset => exact hasNormalDefault_fallback s
  | useSystem settings =>
    rw [Session.call, snd_useSystem]
    exact h.setDefault _

/-! ## Any calls -/

theorem HasNormalDefault.afterCalls (h : s.HasNormalDefault) (calls : List DefaultCall) :
    (s.afterCalls calls).HasNormalDefault := by
  induction calls generalizing s with
  | nil => exact h
  | cons c calls ih => exact ih (h.call c)

theorem hasNormalDefault_after (calls : List DefaultCall) :
    (fresh.afterCalls calls).HasNormalDefault :=
  (hasNormalDefault_fallback fresh).afterCalls calls

/-- Setting a normal default again trims its end. -/
theorem HasNormalDefault.default_setDefault {s' : Session} (h : s.HasNormalDefault) :
    (s'.setDefault s.locales.default).2.locales.default = trimEnd s.locales.default := by
  rw [setDefault_normal (h.normal.normalize_ne_nil h.ne_nil), ← h.normal.normalize_eq]

theorem HasNormalDefault.restores_iff (h : s.HasNormalDefault) (code : Text) :
    s.Restores code ↔ LocaleCode.normalize code = [] ∨ ¬EndsInBlank s.locales.default := by
  unfold Restores
  by_cases hempty : LocaleCode.normalize code = []
  · rw [setDefault_empty hempty]
    simp [hempty]
  · rw [setDefault_normal hempty]
    simp [hempty, h.default_setDefault, trimEnd_eq_self_iff]

/-- Whatever has been set, setting a code is refused if its normal form is empty, and gives the
default otherwise.  Setting that default again trims its end, so it comes back exactly if it does
not end with a blank. -/
theorem restores_after_iff (calls : List DefaultCall) (code : Text) :
    ((fresh.afterCalls calls).Restores code ↔
      LocaleCode.normalize code = [] ∨ ¬EndsInBlank (fresh.afterCalls calls).locales.default) ∧
    ((fresh.afterCalls calls).setDefault code = (.error .emptyLocale, fresh.afterCalls calls) ∨
      ∃ s', (fresh.afterCalls calls).setDefault code =
          (.ok (fresh.afterCalls calls).locales.default, s') ∧
        (s'.setDefault (fresh.afterCalls calls).locales.default).2.locales.default =
          trimEnd (fresh.afterCalls calls).locales.default) := by
  have h := hasNormalDefault_after calls
  refine ⟨h.restores_iff code, ?_⟩
  by_cases hempty : LocaleCode.normalize code = []
  · exact Or.inl (setDefault_empty hempty)
  · exact Or.inr ⟨_, setDefault_normal hempty, h.default_setDefault⟩

/-- A default that ends with a blank, set through a code with a point behind the blank. -/
theorem not_restores_english :
    ¬(fresh.afterCalls [.set ['e', 'n', ' ', '.', 'x']]).Restores ['d', 'e'] := by
  rw [(hasNormalDefault_after _).restores_iff]
  have hdefault : (fresh.afterCalls [.set ['e', 'n', ' ', '.', 'x']]).locales.default =
      ['e', 'n', ' '] := by decide
  have hcode : LocaleCode.normalize ['d', 'e'] ≠ [] := by decide
  rw [hdefault]
  rintro (h | h)
  · exact hcode h
  · exact h ⟨' ', rfl, by decide⟩

end Session

end DatePattern
