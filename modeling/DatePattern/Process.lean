/-
  A process over time: what it shares and a compiler of the caller's own, event by event.

  Requests to the shared compilers and to the caller's own one may come in any order, between
  changes of the default locale and of the contexts that are kept.  A request that fails is an
  event like any other.

  * `Session.freshAt`: a fresh process, but for the default locale.
-/
import DatePattern.Compiler.Request
import DatePattern.Session

namespace DatePattern

/-- A fresh process with a default locale. -/
def Session.freshAt (code : Text) : Session :=
  { Session.fresh with locales := { LocaleStore.fresh with default := code } }

/-- What a process shares, and a compiler of the caller's own. -/
structure Process where
  session : Session
  own : Compiler

namespace Process

/-- What can happen in a process. -/
inductive Event where
  | setDefault (code : Text)
  | resetDefault
  | useSystem (settings : LocaleCode.SystemSettings)
  | context (code : Text)
  | forgetContexts
  /-- A request to a shared compiler. -/
  | shared (how : Sharing) (r : Request)
  /-- A request to the compiler of the caller's own. -/
  | own (r : Request)
  deriving DecidableEq, Repr

/-- What becomes of a process by an event. -/
def step (db? : Option LocaleDatabase) (p : Process) : Event → Process
  | .setDefault code => { p with session := (p.session.setDefault code).2 }
  | .resetDefault => { p with session := p.session.resetDefault }
  | .useSystem settings => { p with session := (p.session.useSystem settings).2 }
  | .context code => { p with session := (p.session.context db? code).2 }
  | .forgetContexts => { p with session := p.session.forgetContexts }
  | .shared how r => { p with session := (p.session.withShared how (r.work db?)).2 }
  | .own r =>
    let (_, own, session) := p.session.withCompiler p.own (r.work db?)
    { session, own }

/-- What becomes of a process by events in order. -/
def after (db? : Option LocaleDatabase) (p : Process) (events : List Event) : Process :=
  events.foldl (step db?) p

/-- The compilers of a process. -/
def Has (p : Process) (c : Compiler) : Prop := c = p.own ∨ ∃ how, c = p.session.shared how

theorem after_nil (db? : Option LocaleDatabase) (p : Process) : p.after db? [] = p := rfl

theorem after_cons (db? : Option LocaleDatabase) (p : Process) (e : Event) (events : List Event) :
    p.after db? (e :: events) = (p.step db? e).after db? events := rfl

end Process

end DatePattern
