/-
  Reading expressions in which a variable stands.

  A text is cut into lexemes from the left, so the lexemes of a text are those of its beginning
  and then those of the rest, wherever the beginning ends in a mark.  A word is one lexeme in front
  of what cannot continue it: the name that it stands for, which is its normal form.  A formatted
  string is one lexeme up to its quote, and is read segment by segment.

  * `ofTextFrom?_word`: a word in front of other text.
  * `read?_joined`: reading a formatted string.
  * `read?_padded`: reading a formatted string that holds one padded number.
-/
import DatePattern.Expression.Read
import DatePattern.Proofs.TemplateReading
import DatePattern.Proofs.Trimming

namespace DatePattern

open Text

namespace Lexeme

/-- Lexemes in front of others, if there are others. -/
def behind (ls : List Lexeme) (o : Option (List Lexeme)) : Option (List Lexeme) :=
  ls.foldr (fun l o => o.map (l :: ·)) o

theorem behind_some (ls ms : List Lexeme) : behind ls (some ms) = some (ls ++ ms) := by
  induction ls with
  | nil => rfl
  | cons l ls ih =>
    simp only [behind, List.foldr_cons] at ih ⊢
    rw [ih]
    rfl

/-! ## Lexemes that stay whatever follows -/

/-- The lexemes of a text, if none of them can become another one through text that follows: each
is a mark, or ends in front of the end. -/
def settledFrom? : Nat → Text → Option (List Lexeme)
  | _, [] => some []
  | skip + 1, _ :: rest => settledFrom? skip rest
  | 0, c :: rest =>
    if c = ' ' then settledFrom? 0 rest
    else
      match first? (c :: rest) with
      | none => none
      | some (l, n) =>
        if n ≤ rest.length ∨ (l = .mark c ∧ n = 1) then (settledFrom? (n - 1) rest).map (l :: ·)
        else none

theorem quotedBody?_append {t body : Text} (h : quotedBody? t = some body) (rest : Text) :
    quotedBody? (t ++ rest) = some body := by
  induction t using quotedBody?.induct generalizing body with
  | case1 => cases h
  | case2 t => exact h
  | case3 c t ih =>
    simp only [quotedBody?] at h
    obtain ⟨u, hu, rfl⟩ := Option.map_eq_some_iff.mp h
    simp only [List.cons_append, quotedBody?, ih hu, Option.map_some]
  | case4 t hescape hquote =>
    simp only [quotedBody?, if_true] at h
    cases h
  | case5 c t hquote hescape hn ih =>
    simp only [quotedBody?, if_neg hn] at h
    obtain ⟨u, hu, rfl⟩ := Option.map_eq_some_iff.mp h
    have hescape' : ∀ d r, c = '\\' → t ++ rest = d :: r → False := by
      intro d r hc ht
      cases t with
      | nil => cases hu
      | cons e t => exact hescape e t hc rfl
    simp only [List.cons_append, quotedBody?, if_neg hn, ih hu, Option.map_some]

theorem takeWhile_append_of_short {p : Char → Bool} {t : Text}
    (h : (t.takeWhile p).length < t.length) (rest : Text) :
    (t ++ rest).takeWhile p = t.takeWhile p := by
  rw [List.takeWhile_append, if_neg (by omega)]

theorem endsNumber_append {p : Char → Bool} {t : Text}
    (h : (t.takeWhile p).length < t.length) (rest : Text) :
    endsNumber ((t ++ rest).drop (t.takeWhile p).length) =
      endsNumber (t.drop (t.takeWhile p).length) := by
  rw [List.drop_append_of_le_length (by omega)]
  cases hd : t.drop (t.takeWhile p).length with
  | nil =>
    have hlength := List.drop_eq_nil_iff.mp hd
    omega
  | cons d u => rfl

theorem ofWord?_ne_mark (word : Text) (c : Char) : ofWord? word ≠ some (.mark c) := by
  unfold ofWord?
  repeat' split
  all_goals simp

theorem ofDigits?_ne_mark (digits : Text) (c : Char) : ofDigits? digits ≠ some (.mark c) := by
  unfold ofDigits?
  split
  · simp
  · simp

/-- A lexeme that ends in front of the end of a text, or is a mark, is the first one of every text
that begins so. -/
theorem first?_append {c : Char} {t : Text} {l : Lexeme} {n : Nat}
    (h : first? (c :: t) = some (l, n)) (hn : n ≤ t.length ∨ (l = .mark c ∧ n = 1)) (rest : Text) :
    first? (c :: (t ++ rest)) = some (l, n) := by
  by_cases hquote : c = '"'
  · subst hquote
    simp only [first?, Option.bind_eq_bind, Option.bind_eq_some_iff] at h ⊢
    obtain ⟨body, hbody, u, hu, h⟩ := h
    exact ⟨body, quotedBody?_append hbody rest, u, hu, h⟩
  by_cases hf : ∃ u, c = 'f' ∧ t = '"' :: u
  · obtain ⟨u, rfl, rfl⟩ := hf
    simp only [first?, List.cons_append] at h ⊢
    obtain ⟨body, hbody, h⟩ := Option.map_eq_some_iff.mp h
    rw [quotedBody?_append hbody, Option.map_some, h]
  by_cases hslash : ∃ u, c = '/' ∧ t = '/' :: u
  · obtain ⟨u, rfl, rfl⟩ := hslash
    exact h
  have hf' : ∀ u, c = 'f' → t ++ rest = '"' :: u → False := by
    intro u hc ht
    cases t with
    | nil =>
      rw [hc, show first? ['f'] = some (.name ['f'], 1) from rfl] at h
      cases h
      simp at hn
    | cons d t => exact hf ⟨t, hc, by rw [(List.cons.inj ht).1]⟩
  have hslash' : ∀ u, c = '/' → t ++ rest = '/' :: u → False := by
    intro u hc ht
    cases t with
    | nil =>
      rw [hc, show first? ['/'] = none from rfl] at h
      cases h
    | cons d t => exact hslash ⟨t, hc, by rw [(List.cons.inj ht).1]⟩
  rw [first?.eq_5 c t hquote (fun u hc ht => hf ⟨u, hc, ht⟩) fun u hc ht => hslash ⟨u, hc, ht⟩] at h
  rw [first?.eq_5 c (t ++ rest) hquote hf' hslash']
  by_cases hstart : isIdentifierStart c = true
  · simp only [if_pos hstart] at h ⊢
    obtain ⟨w, hw, heq⟩ := Option.map_eq_some_iff.mp h
    obtain ⟨rfl, rfl⟩ := Prod.mk.inj heq
    have hshort : (t.takeWhile isIdentifierContinuation).length < t.length := by
      rcases hn with hn | ⟨rfl, -⟩
      · exact hn
      · exact absurd hw (ofWord?_ne_mark _ _)
    rw [takeWhile_append_of_short hshort]
    exact h
  by_cases hdigit : isAsciiDigit c = true
  · simp only [if_neg hstart, if_pos hdigit] at h ⊢
    split at h
    · rename_i hends
      obtain ⟨w, hw, heq⟩ := Option.map_eq_some_iff.mp h
      obtain ⟨rfl, rfl⟩ := Prod.mk.inj heq
      have hshort : (t.takeWhile isAsciiDigit).length < t.length := by
        rcases hn with hn | ⟨rfl, -⟩
        · exact hn
        · exact absurd hw (ofDigits?_ne_mark _ _)
      rw [takeWhile_append_of_short hshort]
      rw [List.length_cons, List.drop_succ_cons] at hends ⊢
      rw [endsNumber_append hshort, if_pos hends]
      exact h
    · cases h
  · simp only [if_neg hstart, if_neg hdigit] at h ⊢
    exact h

theorem ofTextFrom?_append {skip : Nat} {t : Text} {ls : List Lexeme}
    (h : settledFrom? skip t = some ls) (hskip : skip ≤ t.length) (rest : Text) :
    ofTextFrom? skip (t ++ rest) = behind ls (ofTextFrom? 0 rest) := by
  induction t generalizing skip ls with
  | nil =>
    have hzero : skip = 0 := Nat.le_zero.mp hskip
    rw [hzero] at h ⊢
    cases h
    rfl
  | cons c t ih =>
    cases skip with
    | succ skip => exact ih h (Nat.le_of_succ_le_succ hskip)
    | zero =>
      rw [List.cons_append, ofTextFrom?]
      rw [settledFrom?] at h
      by_cases hblank : c = ' '
      · rw [if_pos hblank] at h ⊢
        exact ih h (Nat.zero_le _)
      rw [if_neg hblank] at h ⊢
      cases hfirst : first? (c :: t) with
      | none =>
        rw [hfirst] at h
        cases h
      | some ln =>
        obtain ⟨l, n⟩ := ln
        rw [hfirst] at h
        by_cases hn : n ≤ t.length ∨ (l = .mark c ∧ n = 1)
        · simp only [if_pos hn] at h
          obtain ⟨ls', hls, rfl⟩ := Option.map_eq_some_iff.mp h
          simp only [first?_append hfirst hn rest, ih hls (by omega)]
          rfl
        · simp only [if_neg hn] at h
          cases h

theorem ofTextFrom?_settled {t : Text} {ls : List Lexeme} (h : settledFrom? 0 t = some ls)
    (rest : Text) : ofTextFrom? 0 (t ++ rest) = behind ls (ofTextFrom? 0 rest) :=
  ofTextFrom?_append h (Nat.zero_le _) rest

/-! ## Variables as lexemes -/

/-- A name of ASCII letters, digits and underscores that a variable can have. -/
structure IsVariable (x : Text) : Prop where
  start : ∃ c t, x = c :: t ∧ isIdentifierStart c = true
  word : ∀ c ∈ x, isWordChar c = true
  not_keyword : x ∉ keywords

/-- A word by which a variable of some name can be called. -/
structure IsWordFor (x name : Text) : Prop where
  start : ∃ c t, x = c :: t ∧ isIdentifierStart c = true
  word : ∀ c ∈ x, isIdentifierContinuation c = true
  not_keyword : x ∉ keywords
  normalized_eq : normalized x = name

/-- Text that a word in front of it does not run into. -/
def EndsWord (rest : Text) : Prop :=
  ∀ c t, rest = c :: t → isIdentifierContinuation c = false ∧ c ≠ '"'

theorem endsWord_nil : EndsWord [] := by
  intro c t h
  cases h

theorem endsWord_cons {c : Char} (h : isIdentifierContinuation c = false ∧ c ≠ '"') (t : Text) :
    EndsWord (c :: t) := by
  intro d u heq
  rw [← (List.cons.inj heq).1]
  exact h

theorem endsWord_dot (t : Text) : EndsWord ('.' :: t) := endsWord_cons (by decide) t

theorem endsWord_blank (t : Text) : EndsWord (' ' :: t) := endsWord_cons (by decide) t

theorem isVariable_of_letters {x : Text} (hne : x ≠ []) (h : ∀ c ∈ x, isAsciiLetter c = true)
    (hkeyword : x ∉ keywords) : IsVariable x := by
  obtain ⟨c, rest, rfl⟩ := List.exists_cons_of_ne_nil hne
  refine ⟨⟨c, rest, rfl, ?_⟩, fun d hd => isWordChar_of_isAsciiLetter (h d hd), hkeyword⟩
  have hc := h c List.mem_cons_self
  have hsmall := isAsciiLetter_iff.mp hc
  rw [isIdentifierStart, if_pos (by omega), hc]
  rfl

/-- A variable is called by its name. -/
theorem IsVariable.isWordFor {x : Text} (h : IsVariable x) : IsWordFor x x where
  start := h.start
  word c hc := isIdentifierContinuation_of_isWordChar (h.word c hc)
  not_keyword := h.not_keyword
  normalized_eq := by
    refine normalized_of_small fun c hc => ?_
    have := isWordChar_iff.mp (h.word c hc)
    omega

theorem special_mem_keywords : "if".toList ∈ keywords ∧ "else".toList ∈ keywords ∧
    "or".toList ∈ keywords ∧ "in".toList ∈ keywords := by
  unfold keywords
  refine ⟨?_, ?_, ?_, ?_⟩
  all_goals
    repeat first | with_reducible exact List.mem_cons_self | apply List.mem_cons_of_mem

variable {x name rest : Text}

theorem ofWord?_of_isWordFor (h : IsWordFor x name) : ofWord? x = some (.name name) := by
  have hne : ∀ w ∈ keywords, x ≠ w := by
    rintro w hw rfl
    exact h.not_keyword hw
  obtain ⟨hif, helse, hor, hin⟩ := special_mem_keywords
  unfold ofWord?
  rw [if_neg (hne _ hif), if_neg (hne _ helse), if_neg (hne _ hor), if_neg (hne _ hin),
    if_neg h.not_keyword, h.normalized_eq]

theorem takeWhile_word (h : ∀ c ∈ x, isIdentifierContinuation c = true) (hrest : EndsWord rest) :
    (x ++ rest).takeWhile isIdentifierContinuation = x := by
  rw [List.takeWhile_append_of_pos h]
  cases rest with
  | nil => simp
  | cons c t => simp [(hrest c t rfl).1]

theorem first?_word (h : IsWordFor x name) (hrest : EndsWord rest) :
    first? (x ++ rest) = some (.name name, x.length) := by
  have hofWord := ofWord?_of_isWordFor h
  obtain ⟨c, t, rfl, hstart⟩ := h.start
  have hword := takeWhile_word (fun d hd => h.word d (List.mem_cons_of_mem c hd)) hrest
  have hc := h.word c List.mem_cons_self
  have hquote : c ≠ '"' := ne_of_isIdentifierContinuation hc (by decide)
  have hslash : c ≠ '/' := ne_of_isIdentifierContinuation hc (by decide)
  -- a variable called `f` does not begin a formatted string, as no quote follows it
  have hnext : ∀ u, t ++ rest = '"' :: u → False := by
    intro u heq
    cases t with
    | nil => exact (hrest '"' u heq).2 rfl
    | cons d t =>
      have hd := h.word d (by simp)
      exact ne_of_isIdentifierContinuation hd (by decide) (List.cons.inj heq).1
  rw [List.cons_append, first?]
  · simp only [if_pos hstart, hword, hofWord, Option.map_some]
  · exact hquote
  · intro u _ heq
    exact hnext u heq
  · intro u heq _
    exact hslash heq

theorem ofTextFrom?_word (h : IsWordFor x name) (hrest : EndsWord rest) :
    ofTextFrom? 0 (x ++ rest) = behind [.name name] (ofTextFrom? 0 rest) := by
  have hfirst := first?_word h hrest
  obtain ⟨c, t, rfl, hstart⟩ := h.start
  have hblank : c ≠ ' ' :=
    ne_of_isIdentifierContinuation (h.word c List.mem_cons_self) (by decide)
  rw [List.cons_append] at hfirst ⊢
  rw [ofTextFrom?, if_neg hblank, hfirst]
  simp only [List.length_cons, Nat.add_sub_cancel, ofTextFrom?_skip t.length, List.drop_left]
  rfl

theorem ofText?_variable (h : IsVariable x) : ofText? x = some [.name x] := by
  have hall := ofTextFrom?_word h.isWordFor endsWord_nil
  rw [List.append_nil] at hall
  exact hall

theorem ofTextFrom?_variable_of {ls : List Lexeme} (h : IsVariable x)
    (hrest : EndsWord rest) (hls : ofTextFrom? 0 rest = some ls) :
    ofTextFrom? 0 (x ++ rest) = some (.name x :: ls) := by
  rw [ofTextFrom?_word h.isWordFor hrest, hls]
  rfl

theorem ofTextFrom?_word_dot (h : IsWordFor x name) (rest : Text) :
    ofTextFrom? 0 (x ++ '.' :: rest) = behind [.name name, .mark '.'] (ofTextFrom? 0 rest) := by
  rw [ofTextFrom?_word h (endsWord_dot rest)]
  rfl

/-- Text, a word, and an attribute of what it stands for. -/
theorem ofTextFrom?_settled_word {t : Text} {ls : List Lexeme}
    (h : settledFrom? 0 t = some ls) (hx : IsWordFor x name) (rest : Text) :
    ofTextFrom? 0 (t ++ (x ++ '.' :: rest)) =
      behind ls (behind [.name name, .mark '.'] (ofTextFrom? 0 rest)) := by
  rw [ofTextFrom?_settled h, ofTextFrom?_word_dot hx]

/-- A word can stand between the braces of a formatted string. -/
theorem IsWordFor.isField (h : IsWordFor x name) : Template.IsField x where
  not_brace rest heq := by
    have hbrace := h.word '{' (by rw [heq]; exact List.mem_cons_self)
    exact ne_of_isIdentifierContinuation hbrace (by decide) rfl
  closed c hc := ne_of_isIdentifierContinuation (h.word c hc) (by decide)
  fitsQuotes := by
    refine fitsQuotes_of_chars fun c hc => ?_
    have hword := h.word c hc
    exact ⟨ne_of_isIdentifierContinuation hword (by decide),
      ne_of_isIdentifierContinuation hword (by decide),
      not_isLineBreak_of_isIdentifierContinuation hword⟩

/-! ## Formatted strings as lexemes -/

theorem ofText?_template {t : Text} (h : FitsQuotes t) :
    ofText? ("f\"".toList ++ t ++ "\"".toList) = some [.template t] := by
  have hbody := quotedBody?_of_fitsQuotes h []
  have hfirst : first? ('f' :: '"' :: (t ++ ['"'])) = some (.template t, t.length + 3) := by
    rw [first?, hbody]
    rfl
  have hdrop : ('"' :: (t ++ ['"'])).drop (t.length + 3 - 1) = [] := by simp
  change ofTextFrom? 0 ('f' :: '"' :: (t ++ ['"'])) = _
  rw [ofTextFrom?, if_neg (by decide), hfirst]
  simp only [ofTextFrom?_skip (t.length + 3 - 1), hdrop]
  rfl

end Lexeme

namespace Expr

/-! ## Formatted strings as expressions -/

/-- An operand with nothing behind it is a whole expression. -/
theorem choice?_of_operand? {reader : Text → Option Expr} {fuel : Nat} {ls : List Lexeme} {e : Expr}
    (h : operand? reader (fuel + 1) ls = some (e, [])) :
    choice? reader (fuel + 6) ls = some (e, []) := by
  have hproduct : product? reader (fuel + 2) ls = some (e, []) := by
    rw [product?, h]
    rfl
  have hsum : sum? reader (fuel + 3) ls = some (e, []) := by
    rw [sum?, hproduct]
    rfl
  have hcomparison : comparison? reader (fuel + 4) ls = some (e, []) := by
    rw [comparison?, hsum]
    rfl
  have halternative : alternative? reader (fuel + 5) ls = some (e, []) := by
    rw [alternative?, hcomparison]
    rfl
  rw [choice?, halternative]
  rfl

/-- A formatted string is read from its segments, with text next to text joined. -/
theorem read?_joined {segments : Template}
    (h : ∀ name, .substitution name ∈ segments → Template.IsField name) {parts : List Expr}
    (hparts : segments.merged.mapM part? = some parts) :
    read? ("f\"".toList ++ segments.render ++ "\"".toList) = some (.joined parts) := by
  have hlexemes := Lexeme.ofText?_template (Template.fitsQuotes_render h)
  have htemplate : template? segments.render = some (.joined parts) := by
    rw [template?, Template.read?_render h]
    simp [hparts]
  have hoperand : operand? template? 11 [.template segments.render] = some (.joined parts, []) := by
    rw [operand?, htemplate]
    rfl
  have hchoice := choice?_of_operand? hoperand
  simp only [read?, hlexemes, bind, Option.bind, ofLexemes?, List.length_singleton, hchoice]

theorem field?_variable {x : Text} (h : Lexeme.IsVariable x) : field? x = some (.name x) := by
  have hcolon : ':' ∉ x := fun hc => ne_of_isWordChar (h.word ':' hc) (by decide) rfl
  rw [field?, upTo_of_not_mem hcolon, Lexeme.ofText?_variable h, behind?_of_not_mem hcolon]
  rfl

theorem field?_padded {source format : Text} {ls : List Lexeme} {e : Expr} {width : Nat}
    (hcolon : ':' ∉ source) (hls : Lexeme.ofText? source = some ls)
    (he : ofLexemes? (fun _ => none) ls = some e) (hformat : padding? format = some width) :
    field? (source ++ ':' :: format) = some (.padded e width) := by
  rw [field?, upTo_append hcolon, hls, behind?_append hcolon]
  simp [he, hformat]

/-- A formatted string that holds one number with its width. -/
theorem read?_padded {source format : Text} {ls : List Lexeme} {e : Expr} {width : Nat}
    (hfield : Template.IsField (source ++ ':' :: format)) (hcolon : ':' ∉ source)
    (hls : Lexeme.ofText? source = some ls) (he : ofLexemes? (fun _ => none) ls = some e)
    (hformat : padding? format = some width) :
    read? ("f\"\x7b".toList ++ (source ++ ':' :: format) ++ "\x7d\"".toList) =
      some (.joined [.padded e width]) := by
  have hfield' := field?_padded hcolon hls he hformat
  have hfields : ∀ name, .substitution name ∈ [Segment.substitution (source ++ ':' :: format)] →
      Template.IsField name := by simpa using hfield
  have hparts : (Template.merged [.substitution (source ++ ':' :: format)]).mapM part? =
      some [.padded e width] := by simp [Template.merged, part?, hfield']
  rw [← read?_joined hfields hparts]
  simp [Template.render, Template.renderWith, Template.written]

end Expr

end DatePattern
