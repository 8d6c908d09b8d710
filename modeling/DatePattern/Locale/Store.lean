/-
  What a process remembers about locales: the default code and the contexts made so far.

  Contexts are kept under normal codes, the most recently used ones only, and a kept context is
  handed out again.  `setDefault` normalizes the new code and refuses an empty one.
-/
import DatePattern.Locale.Context
import DatePattern.Recent

namespace DatePattern

/-- The number of contexts that are kept. -/
def maxContexts : Nat := 128

/-- What a process remembers about locales. -/
structure LocaleStore where
  /-- The code used where none is given. -/
  default : Text
  /-- The contexts kept, by normal code. -/
  contexts : Recent Text LocaleContext

namespace LocaleStore

/-- The store of a fresh process. -/
def fresh : LocaleStore := ⟨LocaleCode.fallback, .empty⟩

/-! ## The default code -/

/-- The previous default code and the store with a new one; none if the new code is empty. -/
def setDefault? (s : LocaleStore) (code : Text) : Option (Text × LocaleStore) :=
  let normal := LocaleCode.normalize code
  if normal.isEmpty then none else some (s.default, { s with default := normal })

/-- The store with the fallback code as default. -/
def resetDefault (s : LocaleStore) : LocaleStore := { s with default := LocaleCode.fallback }

/-- The normal form of a code, or the default code if none is given. -/
def resolve (s : LocaleStore) : Option Text → Text
  | none => s.default
  | some code => LocaleCode.normalize code

/-! ## Contexts -/

/-- The context of a code and the store after it has been used.  Without a database only contexts
that are kept can be had. -/
def context? (s : LocaleStore) (db? : Option LocaleDatabase) (code : Text) :
    Option (LocaleContext × LocaleStore) :=
  let key := LocaleCode.normalize code
  match s.contexts.find? key with
  | some x => some (x, { s with contexts := s.contexts.touch key })
  | none =>
    db?.map fun db =>
      let x := LocaleContext.lenient db code
      (x, { s with contexts := s.contexts.put maxContexts key x })

/-- The store without contexts. -/
def forget (s : LocaleStore) : LocaleStore := { s with contexts := .empty }

theorem resolve_none (s : LocaleStore) : s.resolve none = s.default := rfl

theorem default_of_context? {s s' : LocaleStore} {db? : Option LocaleDatabase} {code : Text}
    {x : LocaleContext} (h : s.context? db? code = some (x, s')) : s'.default = s.default := by
  simp only [context?] at h
  split at h
  · cases h
    rfl
  · cases db? with
    | none => cases h
    | some db =>
      cases h
      rfl

end LocaleStore

end DatePattern
