/-
  What is written as a JSON object is read back.

  A character inside a string is written as itself, or as a backslash and an escape, and is read
  back whatever follows it; no form of a character begins with a quote, so a string ends where it
  should.  A number ends in front of the comma or brace behind it.  So every object of texts and
  numbers is read back, member by member, in order.

  * `takeChar?_stringChar`: a character of a string is read back.
  * `readObject?_object`: an object is read back.
  * `lineFeed_not_mem_object`: there is no line feed in an object.
-/
import DatePattern.Proofs.TemplateReading
import DatePattern.Text.Json

namespace DatePattern.Text

/-! ## Numerals -/

theorem digit?_of_isDigit {c : Char} (h : c.isDigit = true) :
    digit? c = some (c.toNat - '0'.toNat) := by
  simp only [Char.isDigit, Bool.and_eq_true, decide_eq_true_eq] at h
  exact if_pos h

theorem digitsFrom?_of_isDigit {t : Text} (h : ∀ c ∈ t, c.isDigit = true) (n : Nat) :
    digitsFrom? n t = some (Nat.ofDigitChars 10 t n) := by
  induction t generalizing n with
  | nil => rfl
  | cons c t ih =>
    obtain ⟨hc, ht⟩ := List.forall_mem_cons.mp h
    rw [digitsFrom?, digit?_of_isDigit hc, Option.bind_some, ih ht, Nat.ofDigitChars_cons]

theorem isDigit_of_mem_ofNat {n : Nat} {c : Char} (h : c ∈ ofNat n) : c.isDigit = true :=
  Nat.isDigit_of_mem_toDigits (by decide) (by decide) h

theorem exists_ofNat_eq_cons (n : Nat) : ∃ c t, ofNat n = c :: t ∧ c.isDigit = true := by
  obtain ⟨c, t, hcons⟩ := List.exists_cons_of_ne_nil (Nat.toDigits_ne_nil (n := n) (b := 10))
  refine ⟨c, t, hcons, isDigit_of_mem_ofNat (n := n) ?_⟩
  rw [ofNat, hcons]
  exact List.mem_cons_self

/-- A numeral is read back. -/
theorem toNat?_ofNat (n : Nat) : toNat? (ofNat n) = some n := by
  have hvalue : digitsFrom? 0 (ofNat n) = some n := by
    rw [digitsFrom?_of_isDigit fun c => isDigit_of_mem_ofNat, ofNat, Nat.ofDigitChars_ten_toDigits]
  obtain ⟨c, t, hcons, -⟩ := exists_ofNat_eq_cons n
  rw [hcons] at hvalue ⊢
  exact hvalue

namespace Json

/-! ## Characters and strings -/

theorem takeUnit?_hexDigits {c : Char} (h : c.toNat < 0x20) (t : Text) :
    takeUnit? (hexDigits 4 c.toNat ++ t) = some (c.toNat, t) := by
  have hlower : ∀ n < 0x20, (takeHex? 4 0 ((hexDigits 4 n).map Char.toLower)) = some (n, []) := by
    decide
  have hlength : (hexDigits 4 c.toNat).length = 4 := length_hexDigits 4 c.toNat
  rw [takeUnit?, List.take_left' hlength, List.drop_left' hlength, hlower c.toNat h]
  rfl

theorem takeNumbered?_hexDigits {c : Char} (h : c.toNat < 0x20) (t : Text) :
    takeNumbered? (hexDigits 4 c.toNat ++ t) = some (c, t) := by
  rw [takeNumbered?, takeUnit?_hexDigits h, Option.bind_some]
  simp only
  rw [if_neg (by omega), scalar?_toNat]
  rfl

/-- A character inside a string: itself, or a backslash and what is read back as it, whatever
follows.  Neither form holds a line feed. -/
theorem stringChar_cases (c : Char) :
    (stringChar c = [c] ∧ c ≠ '\\' ∧ c ≠ '"' ∧ 0x20 ≤ c.toNat) ∨
      ∃ e, stringChar c = '\\' :: e ∧ '\n' ∉ e ∧ ∀ t, takeEscape? (e ++ t) = some (c, t) := by
  -- an escape of one letter
  have hshort : ∀ d : Char, d ≠ '\n' → (∀ t, takeEscape? (d :: t) = some (c, t)) →
      ∃ e, ['\\', d] = '\\' :: e ∧ '\n' ∉ e ∧ ∀ t, takeEscape? (e ++ t) = some (c, t) :=
    fun d hd hread => ⟨[d], rfl, by simpa using hd.symm, hread⟩
  unfold stringChar
  by_cases hquote : c = '"'
  · rw [if_pos hquote]
    exact Or.inr (hshort '"' (by decide) fun t => by rw [hquote]; rfl)
  by_cases hback : c = '\\'
  · rw [if_neg hquote, if_pos hback]
    exact Or.inr (hshort '\\' (by decide) fun t => by rw [hback]; rfl)
  rw [if_neg hquote, if_neg hback]
  by_cases hfeed : c = '\n'
  · rw [if_pos hfeed]
    exact Or.inr (hshort 'n' (by decide) fun t => by rw [hfeed]; rfl)
  by_cases hreturn : c = '\r'
  · rw [if_neg hfeed, if_pos hreturn]
    exact Or.inr (hshort 'r' (by decide) fun t => by rw [hreturn]; rfl)
  by_cases htab : c = '\t'
  · rw [if_neg hfeed, if_neg hreturn, if_pos htab]
    exact Or.inr (hshort 't' (by decide) fun t => by rw [htab]; rfl)
  rw [if_neg hfeed, if_neg hreturn, if_neg htab]
  by_cases hform : c.toNat = 0xC
  · rw [if_pos hform]
    exact Or.inr (hshort 'f' (by decide) fun t => by rw [← Char.ofNat_toNat c, hform]; rfl)
  by_cases hbackspace : c.toNat = 0x8
  · rw [if_neg hform, if_pos hbackspace]
    exact Or.inr (hshort 'b' (by decide) fun t => by rw [← Char.ofNat_toNat c, hbackspace]; rfl)
  rw [if_neg hform, if_neg hbackspace]
  by_cases hcontrol : c.toNat < 0x20
  · rw [if_pos hcontrol]
    refine Or.inr ⟨_, rfl, ?_, takeNumbered?_hexDigits hcontrol⟩
    intro hmem
    rcases List.mem_cons.mp hmem with h | h
    · cases h
    · exact ne_of_isWordChar (isWordChar_of_mem_hexDigits h) (by decide) rfl
  · rw [if_neg hcontrol]
    exact Or.inl ⟨rfl, hback, hquote, Nat.not_lt.mp hcontrol⟩

/-- A character of a string is read back, whatever follows it. -/
theorem takeChar?_stringChar (c : Char) (t : Text) :
    takeChar? (stringChar c ++ t) = some (c, t) := by
  rcases stringChar_cases c with ⟨hplain, hback, hquote, hspace⟩ | ⟨e, hescaped, -, hread⟩
  · rw [hplain, List.singleton_append, takeChar?, if_neg hback,
      if_neg (not_or.mpr ⟨hquote, Nat.not_lt.mpr hspace⟩)]
  · rw [hescaped, List.cons_append, takeChar?, if_pos rfl, hread]

/-- No form of a character begins with a quote. -/
theorem exists_stringChar_eq_cons (c : Char) : ∃ d e, stringChar c = d :: e ∧ d ≠ '"' := by
  rcases stringChar_cases c with ⟨hplain, -, hquote, -⟩ | ⟨e, hescaped, -, -⟩
  · exact ⟨c, [], hplain, hquote⟩
  · exact ⟨'\\', e, hescaped, by decide⟩

theorem lineFeed_not_mem_stringChar (c : Char) : '\n' ∉ stringChar c := by
  rcases stringChar_cases c with ⟨hplain, -, -, hspace⟩ | ⟨e, hescaped, hfeed, -⟩
  · rw [hplain, List.mem_singleton]
    rintro rfl
    revert hspace
    decide
  · rw [hescaped, List.mem_cons, not_or]
    exact ⟨by decide, hfeed⟩

theorem takeStringTail?_flatMap (t rest : Text) {fuel : Nat} (hfuel : t.length < fuel) :
    takeStringTail? fuel (t.flatMap stringChar ++ '"' :: rest) = some (t, rest) := by
  induction t generalizing fuel with
  | nil =>
    obtain ⟨fuel, rfl⟩ := Nat.exists_eq_add_of_lt hfuel
    rfl
  | cons c t ih =>
    cases fuel with
    | zero => exact absurd hfuel (Nat.not_lt_zero _)
    | succ fuel =>
      -- the form of `c` begins with no quote, so this step reads a character and does not end
      obtain ⟨d, e, hcons, hquote⟩ := exists_stringChar_eq_cons c
      have hread := takeChar?_stringChar c (t.flatMap stringChar ++ '"' :: rest)
      rw [List.flatMap_cons, List.append_assoc]
      rw [hcons, List.cons_append] at hread ⊢
      rw [takeStringTail?, hread, Option.bind_some]
      · simp only [ih (Nat.lt_of_succ_lt_succ hfuel), Option.map_some]
      · intro u hu
        exact hquote (List.cons.inj hu).1

theorem string_append (t rest : Text) :
    string t ++ rest = '"' :: (t.flatMap stringChar ++ '"' :: rest) := by
  simp [string]

theorem length_le_flatMap_stringChar (t : Text) : t.length ≤ (t.flatMap stringChar).length := by
  induction t with
  | nil => exact Nat.le_refl 0
  | cons c t ih =>
    obtain ⟨d, e, hcons, -⟩ := exists_stringChar_eq_cons c
    simp only [List.flatMap_cons, List.length_append, List.length_cons, hcons]
    omega

/-- A string is read back, whatever follows it. -/
theorem takeString?_string (t rest : Text) : takeString? (string t ++ rest) = some (t, rest) := by
  have hlength := length_le_flatMap_stringChar t
  rw [string_append, takeString?]
  refine takeStringTail?_flatMap t rest ?_
  rw [List.length_append, List.length_cons]
  omega

/-! ## Values and members -/

/-- What can follow a value: something that goes on with no numeral. -/
def EndsNumber (rest : Text) : Prop := ∀ c, rest.head? = some c → digit? c = none

theorem takeNumber?_ofNat (n : Nat) {rest : Text} (h : EndsNumber rest) :
    takeNumber? (ofNat n ++ rest) = some (n, rest) := by
  have hdigits : (ofNat n ++ rest).takeWhile (fun c => (digit? c).isSome) = ofNat n := by
    have hall : ∀ c ∈ ofNat n, (digit? c).isSome = true := by
      intro c hc
      rw [digit?_of_isDigit (isDigit_of_mem_ofNat hc)]
      rfl
    rw [List.takeWhile_append_of_pos hall]
    cases rest with
    | nil => simp
    | cons c rest => simp [h c rfl]
  simp only [takeNumber?, hdigits, toNat?_ofNat, Option.filter_some, decide_true, if_true,
    Option.map_some, List.drop_left]

theorem takeValue?_written (v : Scalar) {rest : Text} (h : EndsNumber rest) :
    takeValue? (v.written ++ rest) = some (v, rest) := by
  cases v with
  | text t =>
    have hread := takeString?_string t rest
    rw [string_append] at hread
    rw [Scalar.written, string_append, takeValue?, hread]
    rfl
  | number n =>
    have hread := takeNumber?_ofNat n h
    rw [Scalar.written, takeValue?, hread]
    · rfl
    · intro t hquote
      obtain ⟨c, ds, hcons, hdigit⟩ := exists_ofNat_eq_cons n
      rw [hcons, List.cons_append] at hquote
      rw [(List.cons.inj hquote).1] at hdigit
      exact absurd hdigit (by decide)

/-- What follows a member: a comma and a blank, or the brace that closes the object. -/
inductive FollowsMember : Text → Prop where
  | comma (rest : Text) : FollowsMember (',' :: ' ' :: rest)
  | brace (rest : Text) : FollowsMember ('}' :: rest)

theorem FollowsMember.skipSpace {rest : Text} (h : FollowsMember rest) : skipSpace rest = rest := by
  cases h <;> rfl

theorem FollowsMember.endsNumber {rest : Text} (h : FollowsMember rest) : EndsNumber rest := by
  intro c hc
  cases h <;> cases hc <;> decide

theorem skipSpace_cons {c : Char} (h : c ∉ spaces) (t : Text) :
    Json.skipSpace (c :: t) = c :: t :=
  List.dropWhile_cons_of_neg (by simpa using h)

theorem skipSpace_written (v : Scalar) (rest : Text) :
    Json.skipSpace (v.written ++ rest) = v.written ++ rest := by
  cases v with
  | text t =>
    rw [Scalar.written, string_append]
    exact skipSpace_cons (by decide) _
  | number n =>
    obtain ⟨c, ds, hcons, hdigit⟩ := exists_ofNat_eq_cons n
    have hspace : c ∉ spaces := by
      intro hmem
      have hnone : ∀ d ∈ spaces, d.isDigit = false := by simp [spaces]
      rw [hnone c hmem] at hdigit
      cases hdigit
    rw [Scalar.written, hcons]
    exact skipSpace_cons hspace _

/-- A member is read back in front of what follows one. -/
theorem takeMember?_member (m : Text × Scalar) {rest : Text} (h : FollowsMember rest) :
    takeMember? (member m ++ rest) = some (m, rest) := by
  obtain ⟨name, v⟩ := m
  have hform : member (name, v) ++ rest = string name ++ ':' :: ' ' :: (v.written ++ rest) := by
    simp [member]
  have hcolon : Json.skipSpace (':' :: ' ' :: (v.written ++ rest)) =
      ':' :: ' ' :: (v.written ++ rest) := rfl
  have hblank : Json.skipSpace (' ' :: (v.written ++ rest)) = v.written ++ rest :=
    skipSpace_written v rest
  rw [hform, takeMember?, takeString?_string, Option.bind_some]
  simp only [hcolon, hblank, takeValue?_written v h.endsNumber, Option.map_some, h.skipSpace]

/-! ## Objects -/

/-- The members of an object, with the brace that closes it. -/
def tail (ms : List (Text × Scalar)) : Text := List.intercalate [',', ' '] (ms.map member) ++ ['}']

theorem tail_singleton (m : Text × Scalar) : tail [m] = member m ++ ['}'] := by
  simp [tail, List.intercalate]

theorem tail_cons_cons (m n : Text × Scalar) (ms : List (Text × Scalar)) :
    tail (m :: n :: ms) = member m ++ ',' :: ' ' :: tail (n :: ms) := by
  simp [tail, List.intercalate_cons_cons]

theorem object_eq_cons (ms : List (Text × Scalar)) : object ms = '{' :: tail ms := by
  simp [object, tail]

theorem exists_tail_eq_cons (m : Text × Scalar) (ms : List (Text × Scalar)) :
    ∃ t, tail (m :: ms) = '"' :: t := by
  cases ms with
  | nil => exact ⟨_, by rw [tail_singleton, member, List.append_assoc, string_append]⟩
  | cons n ms => exact ⟨_, by rw [tail_cons_cons, member, List.append_assoc, string_append]⟩

theorem skipSpace_tail (m : Text × Scalar) (ms : List (Text × Scalar)) :
    Json.skipSpace (tail (m :: ms)) = tail (m :: ms) := by
  obtain ⟨t, ht⟩ := exists_tail_eq_cons m ms
  rw [ht]
  exact skipSpace_cons (by decide) t

theorem length_lt_length_tail (ms : List (Text × Scalar)) : ms.length < (tail ms).length := by
  induction ms with
  | nil => exact Nat.zero_lt_one
  | cons m ms ih =>
    cases ms with
    | nil =>
      rw [tail_singleton, member, List.append_assoc, string_append]
      simp only [List.length_append, List.length_cons, List.length_nil]
      omega
    | cons n ms =>
      rw [tail_cons_cons]
      simp only [List.length_append, List.length_cons] at ih ⊢
      omega

/-- The members of an object are read back. -/
theorem readMembers?_tail (m : Text × Scalar) (ms : List (Text × Scalar)) {fuel : Nat}
    (hfuel : ms.length < fuel) : readMembers? fuel (tail (m :: ms)) = some (m :: ms) := by
  induction ms generalizing m fuel with
  | nil =>
    obtain ⟨fuel, rfl⟩ := Nat.exists_eq_add_of_lt hfuel
    rw [tail_singleton, readMembers?, takeMember?_member m (.brace []), Option.bind_some]
    rfl
  | cons n ms ih =>
    cases fuel with
    | zero => exact absurd hfuel (Nat.not_lt_zero _)
    | succ fuel =>
      have hblank : Json.skipSpace (' ' :: tail (n :: ms)) = tail (n :: ms) := skipSpace_tail n ms
      rw [tail_cons_cons, readMembers?, takeMember?_member m (.comma _), Option.bind_some]
      simp only [hblank, ih n (Nat.lt_of_succ_lt_succ hfuel), Option.map_some]

/-- An object is read back, whatever its members. -/
theorem readObject?_object (ms : List (Text × Scalar)) : readObject? (object ms) = some ms := by
  have hopen : Json.skipSpace ('{' :: tail ms) = '{' :: tail ms := skipSpace_cons (by decide) _
  rw [object_eq_cons, readObject?]
  simp only [hopen]
  cases ms with
  | nil => rfl
  | cons m ms =>
    have hread := readMembers?_tail m ms (Nat.lt_of_succ_lt (length_lt_length_tail (m :: ms)))
    rw [skipSpace_tail]
    obtain ⟨t, ht⟩ := exists_tail_eq_cons m ms
    rw [ht] at hread ⊢
    exact hread

/-! ## Lines -/

theorem lineFeed_not_mem_string (t : Text) : '\n' ∉ string t := by
  intro hmem
  simp only [string, List.mem_append, List.mem_cons, List.mem_flatMap, List.not_mem_nil,
    or_false] at hmem
  rcases hmem with (hquote | ⟨c, -, hc⟩) | hquote
  · cases hquote
  · exact lineFeed_not_mem_stringChar c hc
  · cases hquote

theorem lineFeed_not_mem_written (v : Scalar) : '\n' ∉ v.written := by
  cases v with
  | text t => exact lineFeed_not_mem_string t
  | number n =>
    intro hmem
    exact absurd (isDigit_of_mem_ofNat hmem) (by decide)

theorem lineFeed_not_mem_member (m : Text × Scalar) : '\n' ∉ member m := by
  intro hmem
  simp only [member, List.mem_append, List.mem_cons] at hmem
  rcases hmem with hname | hmark | hmark | hvalue
  · exact lineFeed_not_mem_string m.1 hname
  · cases hmark
  · cases hmark
  · exact lineFeed_not_mem_written m.2 hvalue

/-- An object stands on one line. -/
theorem lineFeed_not_mem_object (ms : List (Text × Scalar)) : '\n' ∉ object ms := by
  have htail : '\n' ∉ tail ms := by
    induction ms with
    | nil => decide
    | cons m ms ih =>
      cases ms with
      | nil =>
        rw [tail_singleton, List.mem_append, not_or]
        exact ⟨lineFeed_not_mem_member m, by decide⟩
      | cons n ms =>
        intro hmem
        rw [tail_cons_cons, List.mem_append, List.mem_cons, List.mem_cons] at hmem
        rcases hmem with hm | hmark | hmark | hrest
        · exact lineFeed_not_mem_member m hm
        · cases hmark
        · cases hmark
        · exact ih hrest
  intro hmem
  rw [object_eq_cons, List.mem_cons] at hmem
  rcases hmem with hmark | hmem
  · cases hmark
  · exact htail hmem

end Json

end DatePattern.Text
