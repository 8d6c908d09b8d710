/-
  What a report shows of long content.

  With a limit that is not negative, content longer than the limit is shortened to its beginning and
  three dots (`Report.cut_eq_shortened`).  The brief form and the object shorten the message, and
  the object and the detailed form the hint.  The detailed form shows the message as it is, so it
  alone can show a message longer than the limit and the dots.

  * `Report.shows_render_iff`: which message a report shows, and when it is the shortened one.
-/
import DatePattern.Proofs.ReportReading

namespace DatePattern

open Text

namespace Report

theorem length_shortened_le (limit : Nat) (t : Text) : (shortened limit t).length ≤ limit + 3 := by
  unfold shortened
  split
  · rw [List.length_append, List.length_take]
    exact Nat.add_le_add_right (Nat.min_le_left _ _) 3
  · omega

theorem shortened_eq_nil_iff {limit : Nat} {t : Text} : shortened limit t = [] ↔ t = [] := by
  unfold shortened
  split
  · rename_i hlong
    simp [List.ne_nil_of_length_pos (Nat.zero_lt_of_lt hlong)]
  · exact Iff.rfl

/-- A text shows a message and a hint in the layout of a diagnostic, where no hint is an empty one:
behind the headline and on a line of its own, behind the code, or under their names. -/
def Shows (layout : Layout) (d : Diagnostic) (message hint text : Text) : Prop :=
  match layout with
  | .detailed => text =
      d.severity.name ++ "[".toList ++ d.code.name ++ "]: ".toList ++ message
        ++ (if d.symbol.getD [] = [] then [] else "\n  = symbol: ".toList ++ d.symbol.getD [])
        ++ (if hint = [] then [] else "\n  = help: ".toList ++ hint)
  | .brief => text = d.code.name ++ ": ".toList ++ message
  | .json => ∃ ms, Json.readObject? text = some ms ∧
      ms.lookup "message".toList = some (.text message) ∧
      ms.lookup "hint".toList = if hint = [] then none else some (.text hint)

variable {layout : Layout} {d : Diagnostic} {message message' hint text : Text}

/-- A text shows one message with a given hint. -/
theorem Shows.message_unique (h : Shows layout d message hint text)
    (h' : Shows layout d message' hint text) : message = message' := by
  cases layout with
  | detailed =>
    have hlines := List.append_cancel_right (List.append_cancel_right (h.symm.trans h'))
    exact List.append_cancel_left hlines
  | brief => exact List.append_cancel_left (h.symm.trans h')
  | json =>
    obtain ⟨ms, hread, hmessage, -⟩ := h
    obtain ⟨ms', hread', hmessage', -⟩ := h'
    cases hread.symm.trans hread'
    cases hmessage.symm.trans hmessage'
    rfl

/-! ## The three layouts -/

theorem intercalate_cons_eq_flatMap (separator line : Text) (lines : List Text) :
    List.intercalate separator (line :: lines) = line ++ lines.flatMap (separator ++ ·) := by
  induction lines generalizing line with
  | nil => simp
  | cons next lines ih =>
    rw [List.intercalate_cons_cons, ih next, List.flatMap_cons, List.append_assoc,
      List.append_assoc]

/-- A field that is given and not empty makes a line, and any other makes none. -/
theorem flatMap_shown? (f : Text → Text) (field : Option Text) :
    ((shown? field).map f).toList.flatMap (['\n'] ++ ·) =
      if field.getD [] = [] then [] else '\n' :: f (field.getD []) := by
  rcases field with _ | _ | ⟨c, t⟩
  · rfl
  · rfl
  · exact List.append_nil _

/-- The detailed form shows the message as it is. -/
theorem shows_detailed (limit : Nat) (d : Diagnostic) :
    Shows .detailed d d.message (shortened limit (d.hint.getD []))
      (render { layout := .detailed, sanitize := true, limit } d) := by
  have hopen : '[' :: d.code.name = "[".toList ++ d.code.name := rfl
  unfold Shows render detailedLines
  simp only [cut_eq_shortened, shortened_eq_nil_iff]
  rw [List.cons_append, intercalate_cons_eq_flatMap, List.flatMap_append, flatMap_shown?,
    flatMap_shown?, ← List.append_assoc, hopen, ← List.append_assoc d.severity.name]
  rfl

theorem shows_brief (limit : Nat) (d : Diagnostic) (hint : Text) :
    Shows .brief d (shortened limit d.message) hint
      (render { layout := .brief, sanitize := true, limit } d) := by
  rw [Shows, render, brief, cut_eq_shortened]

theorem shows_json (limit : Nat) (d : Diagnostic) :
    Shows .json d (shortened limit d.message) (shortened limit (d.hint.getD []))
      (render { layout := .json, sanitize := true, limit } d) := by
  obtain ⟨ms, hread, hread'⟩ := exists_readObject?_render d true limit
  have hrecord := hread'.short limit rfl rfl
  refine ⟨ms, hread, hrecord.message, ?_⟩
  rw [hrecord.hint]
  simp only [shortened_eq_nil_iff]

/-- In every layout the message shown is the shortened one, except that the detailed form shows it
as it is.  So sanitizing bounds what is shown by the limit and three dots, but for the message of
the detailed form where it is longer than that. -/
theorem shows_render_iff (layout : Layout) (limit : Nat) (d : Diagnostic) :
    (∀ message, Shows layout d message (shortened limit (d.hint.getD []))
        (render { layout, sanitize := true, limit } d) ↔
      message = if layout = .detailed then d.message else shortened limit d.message) ∧
    (Shows layout d (shortened limit d.message) (shortened limit (d.hint.getD []))
        (render { layout, sanitize := true, limit } d) ↔
      (layout = .detailed → shortened limit d.message = d.message)) ∧
    ((∃ message, Shows layout d message (shortened limit (d.hint.getD []))
        (render { layout, sanitize := true, limit } d) ∧ limit + 3 < message.length) ↔
      layout = .detailed ∧ limit + 3 < d.message.length) ∧
    (shortened limit (d.hint.getD [])).length ≤ limit + 3 := by
  have hshown : Shows layout d (if layout = .detailed then d.message else shortened limit d.message)
      (shortened limit (d.hint.getD [])) (render { layout, sanitize := true, limit } d) := by
    cases layout with
    | detailed => exact shows_detailed limit d
    | brief => exact shows_brief limit d _
    | json => exact shows_json limit d
  have hiff : ∀ message, Shows layout d message (shortened limit (d.hint.getD []))
        (render { layout, sanitize := true, limit } d) ↔
      message = if layout = .detailed then d.message else shortened limit d.message :=
    fun message => ⟨fun h => h.message_unique hshown, fun h => h ▸ hshown⟩
  have hbound := length_shortened_le limit d.message
  refine ⟨hiff, ?_, ?_, length_shortened_le limit _⟩
  · rw [hiff]
    by_cases hlayout : layout = .detailed <;> simp [hlayout]
  · simp only [hiff, exists_eq_left]
    by_cases hlayout : layout = .detailed
    · simp [hlayout]
    · simp [hlayout, hbound]

/-- A message in the detailed form that is longer than the limit and the dots. -/
theorem not_shows_shortened_detailed :
    ¬Shows .detailed { code := .formattingFailed, message := "xxxxxxxx".toList }
      (shortened 3 "xxxxxxxx".toList) (shortened 3 [])
      (render { layout := .detailed, sanitize := true, limit := 3 }
        { code := .formattingFailed, message := "xxxxxxxx".toList }) := by
  show ¬_ = _
  decide

end Report

end DatePattern
