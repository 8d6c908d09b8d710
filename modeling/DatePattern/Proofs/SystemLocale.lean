/-
  The locale that the system tells.

  Each source of a code is judged as it stands: an empty text and the names of the pseudo-locales
  are passed over, and the first other code is taken.  Its normal form is not judged again.  So a
  pseudo-locale that is written with an encoding or with blanks around it, as in `C.UTF-8`, is taken
  for a locale, and the sources behind it are not asked.

  * `LocaleCode.isUsable_normalize_iff`: which codes have a normal form that is worth using.
  * `LocaleCode.properLocale_isUsable`: judging the normal forms never yields a pseudo-locale.
  * `LocaleCode.systemLocale_eq_proper_iff`: when judging the codes as they stand comes to the same.
-/
import DatePattern.Proofs.DefaultLocale

namespace DatePattern

open Text

namespace LocaleCode

namespace SystemSettings

/-- The codes that the sources give, the most important first. -/
def codes (s : SystemSettings) : List Text := s.sources.filterMap id

/-- The first code that is worth using as it stands. -/
def takenCode? (s : SystemSettings) : Option Text := s.codes.find? isUsable

/-- The first normal form that is worth using. -/
def properCode? (s : SystemSettings) : Option Text := (s.codes.map normalize).find? isUsable

/-- The locale of the system if its codes are judged by their normal forms: the fallback, or a fault
where it has to be told, if none of them is worth using. -/
def properLocale (s : SystemSettings) (required : Bool) : Except Fault Text :=
  match s.properCode? with
  | some code => .ok code
  | none => if required then .error .noSystemLocale else .ok fallback

end SystemSettings

/-- A code that is empty or the name of a pseudo-locale, but for blanks around it and what stands
behind its first point. -/
def IsDisguised (code : Text) : Prop := upTo '.' (trim code) ∈ [] :: pseudoCodes

variable {s : SystemSettings} {code : Text}

/-! ## One code -/

theorem isUsable_iff : isUsable code = true ↔ code ∉ [] :: pseudoCodes := by
  simp [isUsable]

/-- Writing underscores for hyphens makes no text that has neither. -/
theorem map_hyphen_eq_iff {t w : Text} (hw : '_' ∉ w ∧ '-' ∉ w) :
    t.map (fun c => if c = '-' then '_' else c) = w ↔ t = w := by
  have hsame : ∀ u : Text, '-' ∉ u → u.map (fun c => if c = '-' then '_' else c) = u := by
    intro u hu
    refine (List.map_congr_left fun c hc => if_neg ?_).trans (List.map_id u)
    rintro rfl
    exact hu hc
  constructor
  · rintro rfl
    refine (hsame t fun hmem => hw.1 ?_).symm
    exact List.mem_map.mpr ⟨'-', hmem, if_pos rfl⟩
  · rintro rfl
    exact hsame t hw.2

theorem isUsable_normalize_iff : isUsable (normalize code) = true ↔ ¬IsDisguised code := by
  have hplain : ∀ w ∈ [] :: pseudoCodes, '_' ∉ w ∧ '-' ∉ w := by decide
  have hmem : normalize code ∈ [] :: pseudoCodes ↔ IsDisguised code := by
    constructor
    · intro h
      have heq : upTo '.' (trim code) = normalize code := (map_hyphen_eq_iff (hplain _ h)).mp rfl
      rwa [IsDisguised, heq]
    · intro h
      have heq : normalize code = upTo '.' (trim code) := (map_hyphen_eq_iff (hplain _ h)).mpr rfl
      rwa [heq]
  rw [isUsable_iff, hmem]

/-- What is passed over is its own normal form. -/
theorem normalize_of_not_isUsable (h : isUsable code = false) : normalize code = code := by
  have hall : ∀ w ∈ [] :: pseudoCodes, normalize w = w := by decide
  refine hall code (Decidable.not_not.mp fun hmem => ?_)
  rw [isUsable_iff.mpr hmem] at h
  cases h

/-! ## The sources -/

theorem properCode?_eq_map : s.properCode? =
    (s.codes.find? fun code => isUsable (normalize code)).map normalize :=
  List.find?_map

/-- A code that is taken is the proper one if its normal form is worth using. -/
theorem properCode?_of_takenCode? (h : s.takenCode? = some code)
    (husable : isUsable (normalize code) = true) : s.properCode? = some (normalize code) := by
  obtain ⟨-, before, behind, hcodes, hbefore⟩ := List.find?_eq_some_iff_append.mp h
  have hproper : (s.codes.find? fun code => isUsable (normalize code)) = some code := by
    refine List.find?_eq_some_iff_append.mpr ⟨husable, before, behind, hcodes, fun c hc => ?_⟩
    have hnot : isUsable c = false := by simpa using hbefore c hc
    rw [normalize_of_not_isUsable hnot, hnot]
    rfl
  rw [properCode?_eq_map, hproper]
  rfl

theorem properCode?_of_none (h : s.takenCode? = none) : s.properCode? = none := by
  rw [properCode?_eq_map, Option.map_eq_none_iff, List.find?_eq_none]
  intro c hc
  have hnot : isUsable c = false := by simpa using List.find?_eq_none.mp h c hc
  rw [normalize_of_not_isUsable hnot, hnot]
  exact Bool.false_ne_true

theorem systemLocale_of_takenCode? (h : s.takenCode? = some code) (required : Bool) :
    systemLocale s required = .ok (normalize code) := by
  have hcode : systemCode? s = some (normalize code) := congrArg (Option.map normalize) h
  rw [systemLocale, hcode]

/-- Judging the normal forms yields no pseudo-locale, and no empty code. -/
theorem properLocale_isUsable {required : Bool} (h : s.properLocale required = .ok code) :
    isUsable code = true := by
  unfold SystemSettings.properLocale at h
  cases hproper : s.properCode? with
  | some c =>
    rw [hproper] at h
    cases h
    exact List.find?_some hproper
  | none =>
    rw [hproper] at h
    cases required with
    | true => cases h
    | false =>
      cases h
      decide

/-- Making the locale of the system the default is refused if the code that is taken is empty in its
normal form. -/
theorem fst_useSystem_of_takenCode? (h : s.takenCode? = some code) (session : Session) :
    (session.useSystem s).1 =
      if normalize code = [] then .error .emptyLocale else .ok (normalize code) := by
  have hcode : systemCode s = normalize code :=
    congrArg (Option.getD · fallback) (congrArg (Option.map normalize) h)
  simp only [Session.useSystem, hcode]
  by_cases hempty : normalize code = []
  · have hagain : normalize (normalize code) = [] := by
      rw [hempty]
      rfl
    rw [Session.setDefault_empty hagain, if_pos hempty]
  · have hagain := (isNormal_normalize code).normalize_ne_nil hempty
    rw [Session.setDefault_normal hagain, if_neg hempty]

/-- The system's locale is found by the normal forms exactly if the first code that is worth using
as it stands is no pseudo-locale in disguise.  Such a code is taken all the same: its normal form is
the locale of the system, which cannot be made the default where it is empty. -/
theorem systemLocale_eq_proper_iff (s : SystemSettings) :
    (∀ required, systemLocale s required = s.properLocale required ↔
      ∀ code, s.takenCode? = some code → ¬IsDisguised code) ∧
    ∀ code, s.takenCode? = some code →
      (∀ required, systemLocale s required = .ok (normalize code)) ∧
      ∀ session : Session, (session.useSystem s).1 =
        if normalize code = [] then .error .emptyLocale else .ok (normalize code) := by
  refine ⟨fun required => ⟨fun heq code htaken => ?_, fun hplain => ?_⟩, fun code htaken =>
    ⟨systemLocale_of_takenCode? htaken, fst_useSystem_of_takenCode? htaken⟩⟩
  · rw [systemLocale_of_takenCode? htaken] at heq
    exact isUsable_normalize_iff.mp (properLocale_isUsable heq.symm)
  · cases htaken : s.takenCode? with
    | some code =>
      have husable := isUsable_normalize_iff.mpr (hplain code htaken)
      rw [systemLocale_of_takenCode? htaken, SystemSettings.properLocale,
        properCode?_of_takenCode? htaken husable]
    | none =>
      have hnone : systemCode? s = none := congrArg (Option.map normalize) htaken
      rw [systemLocale, hnone, SystemSettings.properLocale, properCode?_of_none htaken]

/-- A pseudo-locale with an encoding in front of a locale. -/
theorem systemLocale_ne_proper :
    systemLocale { all := some "C.UTF-8".toList, language := some "de_DE.UTF-8".toList } false =
      .ok ['C'] ∧
    SystemSettings.properLocale
      { all := some "C.UTF-8".toList, language := some "de_DE.UTF-8".toList } false =
      .ok "de_DE".toList := by
  decide

end LocaleCode

end DatePattern
