/-
  Reading the written form of a template.

  Every character of a literal is written as a piece that is read back as that character, whatever
  follows it, and each substitution as a piece that ends with its brace.  So a written form is read
  piece by piece (`readsAs_renderWith`), and gives back the segments, with text next to text joined.
  No piece leaves a quote open: the written form fits between double quotes (`FitsQuotes`).  Which
  characters stand as themselves does not matter, if none of them ends a line (`KeepsLine`).

  * `takeEscape?_numericEscape`: a character given by number is read back.
  * `quotedBody?_of_fitsQuotes`: the inside of a string ends at the quote behind it.
  * `read?_template`: a template without empty or adjacent literals is what its text is read as.
-/
import Mathlib.Algebra.Group.Nat.Defs
import Mathlib.Data.Bool.AllAny
import DatePattern.Program.Basic
import DatePattern.Proofs.Ascii

namespace DatePattern

open Text

namespace Text

/-! ## Characters by number -/

theorem hexValue?_hexDigit {n : Nat} (h : n < 16) : hexValue? (hexDigit n) = some n := by
  have hall : ∀ n < 16, hexValue? (hexDigit n) = some n := by decide
  exact hall n h

/-- Digits in front are read first. -/
theorem takeHex?_hexDigits (width more acc n : Nat) (t : Text) :
    takeHex? (width + more) acc (hexDigits width n ++ t) =
      takeHex? more (16 ^ width * acc + n % 16 ^ width) t := by
  induction width generalizing more n t with
  | zero =>
    rw [Nat.zero_add, Nat.pow_zero, Nat.one_mul, Nat.mod_one, Nat.add_zero]
    rfl
  | succ width ih =>
    have hlast : hexValue? (hexDigit (n % 16)) = some (n % 16) :=
      hexValue?_hexDigit (Nat.mod_lt n (by decide))
    have hvalue : 16 * (16 ^ width * acc + n / 16 % 16 ^ width) + n % 16 =
        16 ^ (width + 1) * acc + n % 16 ^ (width + 1) := by
      rw [Nat.pow_succ', Nat.mod_mul, Nat.mul_assoc]
      omega
    rw [hexDigits, List.append_assoc, Nat.succ_add_eq_add_succ, ih (more + 1)]
    simp only [List.cons_append, List.nil_append, takeHex?, hlast, Option.bind_some]
    rw [hvalue]

/-- The number of a character leads back to it. -/
theorem scalar?_toNat (c : Char) : scalar? c.toNat = some c := by
  have hvalid : c.toNat.isValidChar := c.valid
  rw [scalar?, if_pos hvalid, Char.ofNat_toNat]

theorem takeScalar?_hexDigits {width : Nat} {c : Char} (h : c.toNat < 16 ^ width) (t : Text) :
    takeScalar? width (hexDigits width c.toNat ++ t) = some (c, t) := by
  have hdigits := takeHex?_hexDigits width 0 0 c.toNat t
  rw [Nat.add_zero, Nat.mul_zero, Nat.zero_add, Nat.mod_eq_of_lt h] at hdigits
  simp only [takeScalar?, hdigits, takeHex?, scalar?_toNat, bind, Option.bind, pure]

theorem isWordChar_hexDigit {n : Nat} (h : n < 16) : isWordChar (hexDigit n) = true := by
  have hall : ∀ n < 16, isWordChar (hexDigit n) = true := by decide
  exact hall n h

theorem isWordChar_of_mem_hexDigits {width n : Nat} {c : Char} (h : c ∈ hexDigits width n) :
    isWordChar c = true := by
  induction width generalizing n with
  | zero => simp [hexDigits] at h
  | succ width ih =>
    rcases List.mem_append.mp h with h | h
    · exact ih h
    · rw [List.mem_singleton.mp h]
      exact isWordChar_hexDigit (Nat.mod_lt n (by decide))

theorem toNat_lt (c : Char) : c.toNat < 0x110000 := by
  have hvalid : c.toNat.isValidChar := c.valid
  unfold Nat.isValidChar at hvalid
  omega

/-- A character by its number: a backslash, and letters and digits that are read back as it. -/
theorem takeEscape?_numericEscape (c : Char) :
    ∃ e, numericEscape c = '\\' :: e ∧ e ≠ [] ∧ (∀ d ∈ e, isWordChar d = true) ∧
      ∀ t, takeEscape? (e ++ t) = some (c, t) := by
  have hc := toNat_lt c
  have hword : ∀ (d : Char) (width : Nat), isWordChar d = true →
      ∀ x ∈ d :: hexDigits width c.toNat, isWordChar x = true := by
    intro d width hd x hx
    rcases List.mem_cons.mp hx with rfl | hx
    · exact hd
    · exact isWordChar_of_mem_hexDigits hx
  unfold numericEscape
  by_cases h₂ : c.toNat ≤ 0xFF
  · rw [if_pos h₂]
    exact ⟨_, rfl, by simp, hword 'x' 2 (by decide), takeScalar?_hexDigits (by omega)⟩
  by_cases h₄ : c.toNat ≤ 0xFFFF
  · rw [if_neg h₂, if_pos h₄]
    exact ⟨_, rfl, by simp, hword 'u' 4 (by decide), takeScalar?_hexDigits (by omega)⟩
  · rw [if_neg h₂, if_neg h₄]
    exact ⟨_, rfl, by simp, hword 'U' 8 (by decide), takeScalar?_hexDigits (by omega)⟩

/-! ## Between double quotes -/

/-- What fits between double quotes: a quote stands behind a backslash that takes it along, and no
line ends. -/
inductive FitsQuotes : Text → Prop where
  | nil : FitsQuotes []
  | char {c : Char} {t : Text} (hb : c ≠ '\\') (hq : c ≠ '"') (hl : isLineBreak c = false)
      (ht : FitsQuotes t) : FitsQuotes (c :: t)
  | escaped {c : Char} {t : Text} (hl : isLineBreak c = false) (ht : FitsQuotes t) :
      FitsQuotes ('\\' :: c :: t)

theorem FitsQuotes.append {s t : Text} (hs : FitsQuotes s) (ht : FitsQuotes t) :
    FitsQuotes (s ++ t) := by
  induction hs with
  | nil => exact ht
  | char hb hq hl _ ih => exact .char hb hq hl ih
  | escaped hl _ ih => exact .escaped hl ih

theorem fitsQuotes_of_chars {t : Text}
    (h : ∀ c ∈ t, c ≠ '\\' ∧ c ≠ '"' ∧ isLineBreak c = false) : FitsQuotes t := by
  induction t with
  | nil => exact .nil
  | cons c t ih =>
    obtain ⟨hb, hq, hl⟩ := h c List.mem_cons_self
    exact .char hb hq hl (ih fun d hd => h d (List.mem_cons_of_mem c hd))

theorem FitsQuotes.flatMap {α : Type} {f : α → Text} {l : List α}
    (h : ∀ a ∈ l, FitsQuotes (f a)) : FitsQuotes (l.flatMap f) := by
  induction l with
  | nil => exact .nil
  | cons a l ih =>
    rw [List.flatMap_cons]
    exact (h a List.mem_cons_self).append (ih fun b hb => h b (List.mem_cons_of_mem a hb))

theorem FitsQuotes.not_isLineBreak {t : Text} (h : FitsQuotes t) :
    ∀ c ∈ t, isLineBreak c = false := by
  induction h with
  | nil => simp
  | char _ _ hl _ ih =>
    intro d hd
    rcases List.mem_cons.mp hd with rfl | hd
    · exact hl
    · exact ih d hd
  | escaped hl _ ih =>
    intro d hd
    rcases List.mem_cons.mp hd with rfl | hd
    · decide
    rcases List.mem_cons.mp hd with rfl | hd
    · exact hl
    · exact ih d hd

/-- Whether a text ends in a backslash that takes the next character along, one that no other
backslash has taken. -/
def endsInEscape (t : Text) : Bool := t.foldl (fun escape c => c == '\\' && !escape) false

/-- Every quote stands behind a backslash of its own. -/
theorem FitsQuotes.endsInEscape {t : Text} (h : FitsQuotes t) {a b : Text}
    (ht : t = a ++ '"' :: b) : endsInEscape a = true := by
  induction h generalizing a with
  | nil => exact absurd ht.symm (by simp)
  | @char c t hb hq _ _ ih =>
    cases a with
    | nil => exact absurd (List.cons.inj ht).1 hq
    | cons d a =>
      obtain ⟨hd, ht⟩ := List.cons.inj ht
      have hstep : (d == '\\' && !false) = false := by simp [← hd, hb]
      have hrest := ih ht
      unfold Text.endsInEscape at hrest ⊢
      rw [List.foldl_cons, hstep]
      exact hrest
  | @escaped c t _ _ ih =>
    cases a with
    | nil => exact absurd (List.cons.inj ht).1 (by decide)
    | cons d a =>
      obtain ⟨hd, ht⟩ := List.cons.inj ht
      rw [← hd]
      cases a with
      | nil => rfl
      | cons e a =>
        obtain ⟨-, ht⟩ := List.cons.inj ht
        have hstep : (e == '\\' && !('\\' == '\\' && !false)) = false := by simp
        have hrest := ih ht
        unfold Text.endsInEscape at hrest ⊢
        rw [List.foldl_cons, List.foldl_cons, hstep]
        exact hrest

/-- The inside of a string ends at the quote behind it and not before. -/
theorem quotedBody?_of_fitsQuotes {t : Text} (h : FitsQuotes t) (rest : Text) :
    Lexeme.quotedBody? (t ++ '"' :: rest) = some t := by
  induction h with
  | nil => rfl
  | @char c t hb hq hl _ ih =>
    have hn : c ≠ '\n' := by
      rintro rfl
      revert hl
      decide
    rw [List.cons_append, Lexeme.quotedBody?, if_neg hn, ih]
    · rfl
    · exact hq
    · intro d rest' h _
      exact hb h
  | escaped _ _ ih =>
    rw [List.cons_append, List.cons_append, Lexeme.quotedBody?, ih]
    rfl

/-- What can stand as itself does not end a line. -/
def KeepsLine (printable : Char → Bool) : Prop := ∀ c, isLineBreak c = true → printable c = false

theorem keepsLine_isPrintable : KeepsLine isPrintable := by
  intro c hl
  obtain ⟨r, hr, hc⟩ := CodePoints.contains_iff.mp hl
  have hcover : ∀ r ∈ [(0xA, 0xD), (0x1C, 0x1E), (0x85, 0x85), (0x2028, 0x2029)],
      ∃ s ∈ unprintable, s.1 ≤ r.1 ∧ r.2 ≤ s.2 := by
    decide +kernel
  obtain ⟨s, hs, hle⟩ := hcover r hr
  exact not_isPrintable_of_mem hs ⟨by omega, by omega⟩

theorem fitsQuotes_of_isWordChar {t : Text} (h : ∀ c ∈ t, isWordChar c = true) : FitsQuotes t := by
  refine fitsQuotes_of_chars fun c hc => ?_
  exact ⟨ne_of_isWordChar (h c hc) (by decide), ne_of_isWordChar (h c hc) (by decide),
    not_isLineBreak_of_isWordChar (h c hc)⟩

/-- A character as it is written: itself, or a backslash and what is read back as it, whatever
follows. -/
theorem escapeCharWith_cases {printable : Char → Bool} (h : KeepsLine printable) (c : Char) :
    (escapeCharWith printable c = [c] ∧ c ≠ '\\' ∧ c ≠ '"' ∧ isLineBreak c = false) ∨
      ∃ e, escapeCharWith printable c = '\\' :: e ∧ FitsQuotes ('\\' :: e) ∧
        ∀ t, takeEscape? (e ++ t) = some (c, t) := by
  unfold escapeCharWith
  by_cases hb : c = '\\'
  · rw [if_pos hb]
    exact Or.inr ⟨['\\'], rfl, .escaped (by decide) .nil, fun t => by rw [hb]; rfl⟩
  by_cases hq : c = '"'
  · rw [if_neg hb, if_pos hq]
    exact Or.inr ⟨['"'], rfl, .escaped (by decide) .nil, fun t => by rw [hq]; rfl⟩
  rw [if_neg hb, if_neg hq]
  by_cases hp : printable c = true
  · rw [if_pos hp]
    have hl : isLineBreak c = false := Bool.eq_false_iff.mpr fun hl => by simp [h c hl] at hp
    exact Or.inl ⟨rfl, hb, hq, hl⟩
  · rw [if_neg hp]
    obtain ⟨e, he, hne, hword, hread⟩ := takeEscape?_numericEscape c
    obtain ⟨d, e, rfl⟩ := List.exists_cons_of_ne_nil hne
    refine Or.inr ⟨_, he, ?_, hread⟩
    refine .escaped (not_isLineBreak_of_isWordChar (hword d List.mem_cons_self)) ?_
    exact fitsQuotes_of_isWordChar fun x hx => hword x (List.mem_cons_of_mem d hx)

theorem fitsQuotes_escapeCharWith {printable : Char → Bool} (h : KeepsLine printable) (c : Char) :
    FitsQuotes (escapeCharWith printable c) := by
  rcases escapeCharWith_cases h c with ⟨he, hb, hq, hl⟩ | ⟨e, he, hfits, -⟩
  · rw [he]
    exact .char hb hq hl .nil
  · rw [he]
    exact hfits

end Text

namespace Template

/-! ## Reading piece by piece -/

/-- What can stand between the braces of a substitution, so that it ends where it should and can be
put between double quotes. -/
structure IsField (name : Text) : Prop where
  not_brace : ∀ rest, name ≠ '{' :: rest
  closed : ∀ c ∈ name, c ≠ '}'
  fitsQuotes : FitsQuotes name

theorem isField_of_isWordChar {name : Text} (h : ∀ c ∈ name, isWordChar c = true) :
    IsField name where
  not_brace rest heq := by
    rw [heq] at h
    exact ne_of_isWordChar (h '{' List.mem_cons_self) (by decide) rfl
  closed c hc := ne_of_isWordChar (h c hc) (by decide)
  fitsQuotes := fitsQuotes_of_isWordChar h

/-- What a text is read as with any fuel that it can need. -/
def ReadsAs (t : Text) (segments : Template) : Prop :=
  ∀ fuel, t.length ≤ fuel → readWithin? fuel t = some segments

theorem readsAs_nil : ReadsAs [] [] := by
  intro fuel _
  cases fuel <;> rfl

/-- A piece of at least one character leaves fuel for what follows. -/
theorem ReadsAs.of_step {piece t : Text} {segments result : Template} (h : ReadsAs t segments)
    (hne : piece ≠ [])
    (hstep : ∀ fuel, readWithin? fuel t = some segments →
      readWithin? (fuel + 1) (piece ++ t) = some result) : ReadsAs (piece ++ t) result := by
  intro fuel hfuel
  have hpos : 0 < piece.length := List.length_pos_iff.mpr hne
  rw [List.length_append] at hfuel
  cases fuel with
  | zero => omega
  | succ fuel => exact hstep fuel (h fuel (by omega))

section

variable {printable : Char → Bool} (hp : KeepsLine printable)
include hp

theorem ReadsAs.escapeChar {t : Text} {segments : Template} (h : ReadsAs t segments) (c : Char) :
    ReadsAs (escapeCharWith printable c ++ t) (consChar c segments) := by
  unfold Template.escapeCharWith
  by_cases ho : c = '{'
  · rw [if_pos ho, ho]
    exact h.of_step (by simp) fun fuel hf => by simp [readWithin?, hf]
  by_cases hc : c = '}'
  · rw [if_neg ho, if_pos hc, hc]
    exact h.of_step (by simp) fun fuel hf => by simp [readWithin?, hf]
  rw [if_neg ho, if_neg hc]
  rcases Text.escapeCharWith_cases hp c with ⟨he, hb, hq, -⟩ | ⟨e, he, -, hread⟩
  · rw [he]
    exact h.of_step (by simp) fun fuel hf => by simp [readWithin?, ho, hc, hb, hq, hf]
  · rw [he]
    exact h.of_step (by simp) fun fuel hf => by simp [readWithin?, hread, hf]

theorem ReadsAs.escape {t : Text} {segments : Template} (h : ReadsAs t segments) (u : Text) :
    ReadsAs (escapeWith printable u ++ t) (u.foldr consChar segments) := by
  induction u with
  | nil => exact h
  | cons c u ih =>
    have hc := ReadsAs.escapeChar hp ih c
    rw [← List.append_assoc] at hc
    exact hc

end

theorem ReadsAs.substitution {printable : Char → Bool} {t : Text} {segments : Template}
    (h : ReadsAs t segments) {name : Text} (hname : IsField name) :
    ReadsAs (written printable (.substitution name) ++ t) (.substitution name :: segments) := by
  have htake : (name ++ '}' :: t).takeWhile (· ≠ '}') = name := by
    rw [List.takeWhile_append_of_pos fun c hc => by simpa using hname.closed c hc]
    simp
  refine h.of_step (by simp [written]) fun fuel hf => ?_
  have hbrace : ∀ rest, name ++ '}' :: t ≠ '{' :: rest := by
    intro rest heq
    cases name with
    | nil => exact absurd (List.cons.inj heq).1 (by decide)
    | cons c name =>
      rw [(List.cons.inj heq).1] at hname
      exact hname.not_brace name rfl
  simp only [written, List.cons_append, List.append_assoc, List.nil_append, readWithin?, if_true]
  rw [htake, List.drop_left]
  simp only [hf, Option.map_some]

/-! ## Reading a written form -/

/-- The segments with text next to text joined. -/
def merged : Template → Template
  | [] => []
  | .literal t :: segments => t.foldr consChar (merged segments)
  | .substitution name :: segments => .substitution name :: merged segments

theorem readsAs_renderWith {printable : Char → Bool} (hp : KeepsLine printable)
    {segments : Template} (h : ∀ name, .substitution name ∈ segments → IsField name) :
    ReadsAs (renderWith printable segments) (merged segments) := by
  induction segments with
  | nil => exact readsAs_nil
  | cons s segments ih =>
    have hrest := ih fun name hname => h name (List.mem_cons_of_mem s hname)
    rw [renderWith_cons]
    cases s with
    | literal t => exact ReadsAs.escape hp hrest t
    | substitution name => exact hrest.substitution (h name List.mem_cons_self)

theorem read?_render {segments : Template}
    (h : ∀ name, .substitution name ∈ segments → IsField name) :
    read? (render segments) = some (merged segments) :=
  readsAs_renderWith keepsLine_isPrintable h _ (Nat.le_refl _)

theorem foldr_consChar {t : Text} (ht : t ≠ []) {segments : Template}
    (hs : ∀ u rest, segments ≠ .literal u :: rest) :
    t.foldr consChar segments = .literal t :: segments := by
  induction t with
  | nil => exact absurd rfl ht
  | cons c t ih =>
    cases t with
    | nil =>
      cases segments with
      | nil => rfl
      | cons s segments =>
        cases s with
        | literal u => exact absurd rfl (hs u segments)
        | substitution name => rfl
    | cons d t =>
      rw [List.foldr_cons, ih (by simp)]
      rfl

/-- Nothing is joined where no literal is empty and none follows another. -/
theorem merged_of_separate {segments : Template} (hne : ∀ t, .literal t ∈ segments → t ≠ [])
    (hsep : ∀ s t rest, ¬(.literal s :: .literal t :: rest) <:+ segments) :
    merged segments = segments := by
  induction segments with
  | nil => rfl
  | cons s segments ih =>
    have hrest := ih (fun t ht => hne t (List.mem_cons_of_mem s ht))
      fun u t rest hs => hsep u t rest (hs.trans (List.suffix_cons s segments))
    cases s with
    | literal t =>
      rw [merged, hrest]
      refine foldr_consChar (hne t List.mem_cons_self) fun u rest heq => ?_
      rw [heq] at hsep
      exact hsep t u rest List.suffix_rfl
    | substitution name => rw [merged, hrest]

theorem fitsQuotes_escapeCharWith {printable : Char → Bool} (hp : KeepsLine printable) (c : Char) :
    FitsQuotes (escapeCharWith printable c) := by
  unfold escapeCharWith
  by_cases ho : c = '{'
  · rw [if_pos ho]
    exact fitsQuotes_of_chars (List.all_iff_forall_prop.mp (by decide))
  by_cases hc : c = '}'
  · rw [if_neg ho, if_pos hc]
    exact fitsQuotes_of_chars (List.all_iff_forall_prop.mp (by decide))
  rw [if_neg ho, if_neg hc]
  exact Text.fitsQuotes_escapeCharWith hp c

theorem fitsQuotes_renderWith {printable : Char → Bool} (hp : KeepsLine printable)
    {segments : Template} (h : ∀ name, .substitution name ∈ segments → IsField name) :
    FitsQuotes (renderWith printable segments) := by
  refine FitsQuotes.flatMap fun s hs => ?_
  cases s with
  | literal t => exact FitsQuotes.flatMap fun c _ => fitsQuotes_escapeCharWith hp c
  | substitution name =>
    have hopen : FitsQuotes ['{'] := fitsQuotes_of_chars (List.all_iff_forall_prop.mp (by decide))
    have hclose : FitsQuotes ['}'] := fitsQuotes_of_chars (List.all_iff_forall_prop.mp (by decide))
    exact (hopen.append (h name hs).fitsQuotes).append hclose

theorem fitsQuotes_render {segments : Template}
    (h : ∀ name, .substitution name ∈ segments → IsField name) : FitsQuotes (render segments) :=
  fitsQuotes_renderWith keepsLine_isPrintable h

/-- A text that is read as the segments, holds no line break, and in which every double quote stands
behind a backslash of its own. -/
structure IsWrittenAs (segments : Template) (t : Text) : Prop where
  read : read? t = some segments
  oneLine : ∀ c ∈ t, isLineBreak c = false
  quotes : ∀ a b, t = a ++ '"' :: b → endsInEscape a = true

end Template

/-- The text of a template can be read in one way only, as its segments.  It holds no line break,
and every double quote in it stands behind a backslash of its own.  So it is for any choice of the
characters that stand as themselves, if none of them ends a line. -/
theorem Program.read?_template (p : Program) (hne : ∀ t, .literal t ∈ p.segments → t ≠ [])
    (hsep : ∀ s t rest, ¬(.literal s :: .literal t :: rest) <:+ p.segments)
    (hnames : ∀ name, .substitution name ∈ p.segments → ∀ c ∈ name, isAsciiLetter c = true) :
    Template.read? p.template = some p.segments ∧
      (∀ c ∈ p.template, isLineBreak c = false) ∧
      (∀ a b, p.template = a ++ '"' :: b → endsInEscape a = true) ∧
      ∀ printable : Char → Bool, (∀ c, isLineBreak c = true → printable c = false) →
        p.segments.IsWrittenAs (p.templateWith printable) := by
  have hfields : ∀ name, .substitution name ∈ p.segments → Template.IsField name :=
    fun name hname => Template.isField_of_isWordChar fun c hc =>
      isWordChar_of_isAsciiLetter (hnames name hname c hc)
  have hall : ∀ printable : Char → Bool, KeepsLine printable →
      p.segments.IsWrittenAs (p.templateWith printable) := by
    intro printable hp
    have hquotes : FitsQuotes (p.templateWith printable) :=
      Template.fitsQuotes_renderWith hp hfields
    refine ⟨?_, hquotes.not_isLineBreak, fun a b h => hquotes.endsInEscape h⟩
    have hread := Template.readsAs_renderWith hp hfields _ (Nat.le_refl _)
    rwa [Template.merged_of_separate hne hsep] at hread
  have htable := hall isPrintable keepsLine_isPrintable
  exact ⟨htable.read, htable.oneLine, htable.quotes, hall⟩

/-- Braces, a quote and a backslash beside a substitution, which they do not join: as the table of
printable characters has it, and where no character stands as itself. -/
theorem Program.read?_template_braces :
    let p : Program :=
      { declarations := [], imports := [], locale := []
        segments := [.literal "\x7b\"\\".toList, .substitution "d".toList, .literal "\x7d".toList] }
    (∀ t, .literal t ∈ p.segments → t ≠ []) ∧
      (∀ s t rest, ¬(.literal s :: .literal t :: rest) <:+ p.segments) ∧
      (∀ name, .substitution name ∈ p.segments → ∀ c ∈ name, isAsciiLetter c = true) ∧
      Template.read? p.template = some p.segments ∧
      (∀ c, isLineBreak c = true → (fun _ => false) c = false) ∧
      p.segments.IsWrittenAs (p.templateWith fun _ => false) := by
  intro p
  have hne : ∀ t, .literal t ∈ p.segments → t ≠ [] := by
    intro t ht
    simp [p] at ht
    rcases ht with rfl | rfl <;> simp
  have hsep : ∀ s t rest, ¬(.literal s :: .literal t :: rest) <:+ p.segments := by
    intro s t rest h
    simp [p, List.suffix_cons_iff] at h
  have hnames : ∀ name, .substitution name ∈ p.segments → ∀ c ∈ name, isAsciiLetter c = true := by
    intro name hname
    simp [p] at hname
    rw [hname]
    exact List.all_eq_true.mp (by decide)
  obtain ⟨hread, -, -, hall⟩ := read?_template p hne hsep hnames
  exact ⟨hne, hsep, hnames, hread, fun _ _ => rfl, hall (fun _ => false) fun _ _ => rfl⟩

end DatePattern
