/-
  What a compiler can be asked for, and what it answers.

  A request may fail.  The ones behind it are then served all the same, by the compiler and with
  the contexts that the failed one has left.
-/
import DatePattern.Compiler.Basic

namespace DatePattern

open Text

/-- What a compiler can be asked for. -/
inductive Request where
  | tokenize (pattern : Text)
  | format (pattern : Text) (given : GivenInstant) (locale : Option Text)
  | emit (pattern : Text) (locale : Option Text)
  | render (pattern : Text) (locale : Option Text)
  | preview (pattern : Text) (given : GivenInstant) (locale : Option Text)
  /-- Forget the patterns that are kept. -/
  | clear
  deriving DecidableEq, Repr

/-- What a compiler answers. -/
inductive Answer where
  | tokens (ts : List Token)
  | formatted (f : Formatted)
  | program (p : Program)
  | source (t : Text)
  | preview (p : Work.Preview)
  | done
  deriving DecidableEq, Repr

/-- The work that a request takes. -/
def Request.work (db? : Option LocaleDatabase) : Request → Work Answer
  | .tokenize pattern => do return .tokens (← Work.tokenize pattern)
  | .format pattern given locale => do return .formatted (← Work.format db? pattern given locale)
  | .emit pattern locale => do return .program (← Work.emit db? pattern locale)
  | .render pattern locale => do return .source (← Work.render db? pattern locale)
  | .preview pattern given locale => do return .preview (← Work.preview db? pattern given locale)
  | .clear => do
    modify fun w => { w with compiler := w.compiler.clear }
    return .done

/-- The answers to requests in order, and what becomes of the workspace. -/
def Workspace.play (db? : Option LocaleDatabase) :
    List Request → Workspace → List (Except Fault Answer) × Workspace
  | [], w => ([], w)
  | r :: rs, w =>
    let (answer, w) := (r.work db?).run w
    let (answers, w) := Workspace.play db? rs w
    (answer :: answers, w)

namespace Workspace

theorem play_cons (db? : Option LocaleDatabase) (r : Request) (rs : List Request)
    (w : Workspace) :
    play db? (r :: rs) w =
      (((r.work db?).run w).1 :: (play db? rs ((r.work db?).run w).2).1,
        (play db? rs ((r.work db?).run w).2).2) := rfl

end Workspace

end DatePattern
