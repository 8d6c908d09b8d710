/-
  What a process shares: the default locale, the contexts made so far, and the compilers of the
  built-in table.

  There is one shared compiler for each way of asking for it: with or without the aliases of the
  other letter case, and without saying so.  `withCompiler` does work with a compiler of the
  caller's own, `withShared` with a shared one; both keep what the work has changed.
-/
import DatePattern.Compiler.Basic

namespace DatePattern

/-- How a shared compiler is asked for: whether it has the aliases of the other letter case, or
nothing is said about them. -/
abbrev Sharing := Option Bool

/-- What a process shares. -/
structure Session where
  locales : LocaleStore
  shared : Sharing → Compiler

namespace Session

/-- A fresh process. -/
def fresh : Session := ⟨.fresh, fun how => .ofBuiltin (how.getD false)⟩

/-! ## Work -/

/-- Do work with a compiler of the caller's own. -/
def withCompiler {α : Type} (s : Session) (c : Compiler) (work : Work α) :
    Except Fault α × Compiler × Session :=
  let (result, w) := work.run ⟨c, s.locales⟩
  (result, w.compiler, { s with locales := w.locales })

/-- Put another shared compiler in place. -/
def setShared (s : Session) (how : Sharing) (c : Compiler) : Session :=
  { s with shared := fun other => if other = how then c else s.shared other }

/-- Do work with a shared compiler. -/
def withShared {α : Type} (s : Session) (how : Sharing) (work : Work α) :
    Except Fault α × Session :=
  let (result, c, s') := s.withCompiler (s.shared how) work
  (result, s'.setShared how c)

theorem fst_withCompiler {α : Type} (s : Session) (c : Compiler) (work : Work α) :
    (s.withCompiler c work).1 = (work.run ⟨c, s.locales⟩).1 := rfl

theorem shared_setShared (s : Session) (how : Sharing) (c : Compiler) :
    (s.setShared how c).shared how = c := by
  simp [setShared]

theorem shared_setShared_of_ne {s : Session} {how other : Sharing} (h : other ≠ how)
    (c : Compiler) : (s.setShared how c).shared other = s.shared other := by
  simp [setShared, h]

/-! ## The default locale -/

/-- Set the default locale; the previous one is returned. -/
def setDefault (s : Session) (code : Text) : Except Fault Text × Session :=
  match s.locales.setDefault? code with
  | none => (.error .emptyLocale, s)
  | some (previous, locales) => (.ok previous, { s with locales })

/-- Make the fallback the default locale. -/
def resetDefault (s : Session) : Session := { s with locales := s.locales.resetDefault }

/-- Make the locale of the system the default; it is returned. -/
def useSystem (s : Session) (settings : LocaleCode.SystemSettings) : Except Fault Text × Session :=
  let code := LocaleCode.systemCode settings
  match s.setDefault code with
  | (.ok _, s) => (.ok code, s)
  | (.error fault, s) => (.error fault, s)

/-! ## Contexts -/

/-- The context of a locale code. -/
def context (s : Session) (db? : Option LocaleDatabase) (code : Text) :
    Except Fault LocaleContext × Session :=
  match s.locales.context? db? code with
  | none => (.error (.noDatabase .contexts), s)
  | some (x, locales) => (.ok x, { s with locales })

/-- Forget all contexts. -/
def forgetContexts (s : Session) : Session := { s with locales := s.locales.forget }

end Session

/-- The locale of the system, or the fallback, or a fault where it has to be told. -/
def systemLocale (settings : LocaleCode.SystemSettings) (required : Bool) : Except Fault Text :=
  match LocaleCode.systemCode? settings with
  | some code => .ok code
  | none => if required then .error .noSystemLocale else .ok LocaleCode.fallback

end DatePattern
