/-
  Reports of diagnostics as JSON objects, taken apart and read back.

  A diagnostic stands on one line as an object, so several of them are told apart by the blank lines
  between them, whatever their texts hold: a blank line inside a message is written in escapes.
  What an object is read as has the members of its diagnostic, in order, and no others.  Its message
  and its hint are as they were, or shortened if the style cuts them at a limit that is not
  negative.

  * `paragraphs_intercalate`: one-line texts are what their joined text is cut into.
  * `Report.cut_eq_shortened`: cutting at a limit is shortening.
  * `Report.isRecordOf_members`: the members of a diagnostic, by name.
  * `Report.readsBack_renderAll`: several diagnostics as JSON, cut into pieces and read.
-/
import DatePattern.Diagnostic.Report
import DatePattern.Proofs.JsonReading
import Mathlib.Data.List.Forall2

namespace DatePattern

open Text

namespace Text

/-! ## Blank lines -/

theorem paragraphs_of_not_mem {t : Text} (h : '\n' ∉ t) : paragraphs t = [t] := by
  induction t with
  | nil => rfl
  | cons c t ih =>
    obtain ⟨hc, ht⟩ := not_or.mp (mt List.mem_cons.mpr h)
    rw [paragraphs, ih ht]
    rintro rest rfl -
    exact hc rfl

theorem paragraphs_append {t : Text} (h : '\n' ∉ t) (rest : Text) :
    paragraphs (t ++ '\n' :: '\n' :: rest) = t :: paragraphs rest := by
  induction t with
  | nil => rfl
  | cons c t ih =>
    obtain ⟨hc, ht⟩ := not_or.mp (mt List.mem_cons.mpr h)
    rw [List.cons_append, paragraphs, ih ht]
    rintro rest rfl -
    exact hc rfl

/-- Texts of one line each are the pieces of the text that they make with blank lines between. -/
theorem paragraphs_intercalate {ts : List Text} (hne : ts ≠ []) (h : ∀ t ∈ ts, '\n' ∉ t) :
    paragraphs (List.intercalate ['\n', '\n'] ts) = ts := by
  induction ts with
  | nil => exact absurd rfl hne
  | cons t ts ih =>
    obtain ⟨ht, hts⟩ := List.forall_mem_cons.mp h
    cases ts with
    | nil =>
      rw [List.intercalate_singleton]
      exact paragraphs_of_not_mem ht
    | cons u us =>
      have hjoin : List.intercalate ['\n', '\n'] (t :: u :: us) =
          t ++ '\n' :: '\n' :: List.intercalate ['\n', '\n'] (u :: us) := by
        simp [List.intercalate_cons_cons]
      rw [hjoin, paragraphs_append ht, ih (by simp) hts]

end Text

namespace Report

/-! ## Long content -/

/-- A text up to a length, with three dots in place of what is longer. -/
def shortened (limit : Nat) (t : Text) : Text :=
  if limit < t.length then t.take limit ++ ['.', '.', '.'] else t

theorem cut_eq_shortened (layout : Layout) (limit : Nat) (t : Text) :
    Style.cut { layout, sanitize := true, limit } t = shortened limit t := by
  have hkeep : keep limit t = t.take limit := by
    rw [keep, if_neg (Int.not_lt.mpr (Int.natCast_nonneg limit)), Int.toNat_natCast]
  by_cases hlong : limit < t.length
  · rw [Style.cut, shortened, if_pos ⟨rfl, Int.ofNat_lt.mpr hlong⟩, if_pos hlong, hkeep]
    rfl
  · rw [Style.cut, shortened, if_neg hlong, if_neg fun h => hlong (Int.ofNat_lt.mp h.2)]

/-! ## Records -/

/-- What a diagnostic comes to as the members of an object, with its message and its hint as they
are sanitized: a text or number under each name, the names in order, and the symbol and the hint
only where they are not empty. -/
structure IsRecordOf (sanitized : Text → Text) (d : Diagnostic) (ms : List (Text × Json.Scalar)) :
    Prop where
  names : ms.map Prod.fst =
    ["code".toList, "code_value".toList, "message".toList, "severity".toList]
      ++ (if d.symbol.getD [] = [] then [] else ["symbol".toList])
      ++ (if d.hint.getD [] = [] then [] else ["hint".toList])
  code : ms.lookup "code".toList = some (.text d.code.name)
  value : ms.lookup "code_value".toList = some (.number d.code.value)
  message : ms.lookup "message".toList = some (.text (sanitized d.message))
  severity : ms.lookup "severity".toList = some (.text d.severity.name)
  symbol : ms.lookup "symbol".toList =
    if d.symbol.getD [] = [] then none else some (.text (d.symbol.getD []))
  hint : ms.lookup "hint".toList =
    if d.hint.getD [] = [] then none else some (.text (sanitized (d.hint.getD [])))

/-- The members of a diagnostic are such a record, whether its symbol and its hint are missing,
empty or given. -/
theorem isRecordOf_members (s : Style) (d : Diagnostic) : IsRecordOf s.cut d (members s d) := by
  obtain ⟨code, message, hint, symbol, severity⟩ := d
  rcases hint with _ | _ | ⟨c, hint⟩ <;> rcases symbol with _ | _ | ⟨c', symbol⟩ <;>
    exact ⟨rfl, rfl, rfl, rfl, rfl, rfl, rfl⟩

/-! ## Reports -/

/-- What a diagnostic is read as from an object: its record with the message and the hint as the
style cuts them.  They are left alone if nothing is cut, and shortened if they are cut at a limit
that is not negative. -/
structure IsReadAs (sanitize : Bool) (limit : Int) (d : Diagnostic)
    (ms : List (Text × Json.Scalar)) : Prop where
  cut : IsRecordOf (Style.cut { layout := .json, sanitize, limit }) d ms
  alone : sanitize = false → IsRecordOf id d ms
  short : ∀ n : Nat, sanitize = true → limit = n → IsRecordOf (shortened n) d ms

/-- An object is read back as the record of its diagnostic. -/
theorem exists_readObject?_render (d : Diagnostic) (sanitize : Bool) (limit : Int) :
    ∃ ms, Json.readObject? (render { layout := .json, sanitize, limit } d) = some ms ∧
      IsReadAs sanitize limit d ms := by
  have hrecord := isRecordOf_members { layout := .json, sanitize, limit } d
  refine ⟨_, Json.readObject?_object _, ⟨hrecord, ?_, ?_⟩⟩
  · rintro rfl
    rwa [funext (Style.cut_of_not_sanitize rfl)] at hrecord
  · rintro n rfl rfl
    rwa [funext (cut_eq_shortened .json n)] at hrecord

/-- Diagnostics laid out as objects are as many pieces between blank lines, and each piece is read
back as the record of its diagnostic. -/
theorem readsBack_renderAll {ds : List Diagnostic} (h : ds ≠ []) (sanitize : Bool) (limit : Int) :
    List.Forall₂
      (fun piece d => ∃ ms, Json.readObject? piece = some ms ∧ IsReadAs sanitize limit d ms)
      (paragraphs (renderAll { layout := .json, sanitize, limit } ds)) ds := by
  have hpieces : paragraphs (renderAll { layout := .json, sanitize, limit } ds) =
      ds.map (render { layout := .json, sanitize, limit }) := by
    refine paragraphs_intercalate (by simpa using h) fun t ht => ?_
    obtain ⟨d, -, rfl⟩ := List.mem_map.mp ht
    exact Json.lineFeed_not_mem_object _
  rw [hpieces, List.forall₂_map_left_iff, List.forall₂_same]
  exact fun d _ => exists_readObject?_render d sanitize limit

/-- Messages with a blank line, quotes and a control character, one of them cut behind the first
line feed. -/
theorem readsBack_renderAll_hostile :
    [(⟨.symbolNotFound, "a\n\n\"b\"".toList, some "c\\".toList, some [], .error⟩ : Diagnostic),
      ⟨.danglingEscape, ['\x01'], some [], some "d".toList, .warning⟩] ≠ [] ∧
    List.Forall₂
      (fun piece d => ∃ ms, Json.readObject? piece = some ms ∧
        IsRecordOf (Style.cut { layout := .json, sanitize := true, limit := 2 }) d ms ∧
        IsRecordOf (shortened 2) d ms)
      (paragraphs (renderAll { layout := .json, sanitize := true, limit := 2 }
        [⟨.symbolNotFound, "a\n\n\"b\"".toList, some "c\\".toList, some [], .error⟩,
          ⟨.danglingEscape, ['\x01'], some [], some "d".toList, .warning⟩]))
      [⟨.symbolNotFound, "a\n\n\"b\"".toList, some "c\\".toList, some [], .error⟩,
        ⟨.danglingEscape, ['\x01'], some [], some "d".toList, .warning⟩] := by
  refine ⟨List.cons_ne_nil _ _, ?_⟩
  refine (readsBack_renderAll (List.cons_ne_nil _ _) true 2).imp ?_
  rintro piece d ⟨ms, hread, hrecord⟩
  exact ⟨ms, hread, hrecord.cut, hrecord.short 2 rfl rfl⟩

end Report

end DatePattern
