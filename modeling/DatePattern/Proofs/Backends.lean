/-
  The two ways to print an instant agree.

  A pattern can be formatted at once, or emitted as a program that is loaded and called later, by
  other compilers with the same settings and behind other histories.  Both tokenize the pattern
  alike and look at the names of the same locale, formatting at the locale itself and the program
  at its identifier; that these are the same names is what is asked of the database
  (`LocaleDatabase.IsFaithful`).

  * `Work.call_emit_eq_format`: whatever is formatted without a fault, the loaded program returns
    the same text.
-/
import DatePattern.Locale.Cldr
import DatePattern.Proofs.History
import DatePattern.Proofs.NameTwins
import DatePattern.Proofs.ProgramCall
import DatePattern.Proofs.TableNames

namespace DatePattern

open Text

namespace LocaleDatabase

/-- The identifier of every locale found leads to the names of that locale. -/
def IsFaithful (db : LocaleDatabase) : Prop :=
  ∀ code l, db.locate code = .ok l →
    ∃ l', db.choose (some (.text l.identifier)) = .ok l' ∧ l'.names = l.names

theorem IsFaithful.effective {db : LocaleDatabase} (h : db.IsFaithful) (code : Text) :
    ∃ l, db.choose (some (.text (db.effective code).identifier)) = .ok l ∧
      l.names = (db.effective code).names := by
  unfold LocaleDatabase.effective
  cases hlocate : db.locate code with
  | ok l => exact h code l hlocate
  | error fault => exact h LocaleCode.fallback db.english db.locate_fallback

/-- The database that knows the fallback locale alone. -/
def englishOnly : LocaleDatabase where
  locate code := if code = LocaleCode.fallback then .ok Cldr.english else .error (.unknown code)
  english := Cldr.english
  locate_fallback := if_pos rfl

theorem isFaithful_englishOnly : englishOnly.IsFaithful := by
  intro code l h
  unfold englishOnly at h
  dsimp only at h
  split at h
  · cases h
    exact ⟨Cldr.english, rfl, rfl⟩
  · cases h

end LocaleDatabase

/-- What is checked when settings are made is what is checked when programs are emitted, but for
the names of the table. -/
theorem Program.checkNames_of_check {config : Config} {t : SymbolTable}
    (h : config.check = .ok ()) (hp : config.parameter ∉ t.names) :
    checkNames t config.functionName config.parameter = .ok () := by
  obtain ⟨-, hfunction, hparameter⟩ := Config.check_eq_ok_iff.mp h
  exact checkNames_eq_ok_iff.mpr ⟨hfunction, hparameter, hp⟩

theorem Program.checkNames_default :
    checkNames (.builtin false) defaultFunctionName defaultParameter = .ok () := by
  have hfree : defaultParameter ∉ (SymbolTable.builtin false).names := by decide +kernel
  have hcheck := checkNames_of_check Config.check_default hfree
  dsimp only at hcheck
  exact hcheck

namespace Work

variable {db : LocaleDatabase} {table? : Option SymbolTable} {config : Config}

/-- Whatever is formatted without a fault, the program emitted for the same pattern and locale can
be loaded and returns the same text, whatever has happened before. -/
theorem call_emit_eq_format (hdb : db.IsFaithful) {withCase : Bool}
    (htable : table?.getD (.builtin config.caseAliases) = .builtin withCase)
    (hfunction : ∀ c ∈ config.functionName, c.toNat < 0x80)
    (hparameter : ∀ c ∈ config.parameter, c.toNat < 0x80)
    (hfree : config.parameter ∉ (SymbolTable.builtin withCase).names)
    {w w' : Workspace} (hw : w.Reachable db table? config) (hw' : w'.Reachable db table? config)
    {locale : Option Text} (hlocale : w'.locales.resolve locale = w.locales.resolve locale)
    {pattern text : Text} {i : Instant}
    (hformat : ((format (some db) pattern (.instant i) locale).run w).1 = .ok ⟨text, []⟩) :
    ∃ program f, ((emit (some db) pattern locale).run w').1 = .ok program ∧
      program.load (some db) = .ok f ∧ f.call (some i) none = .ok text := by
  have hholds := hw.holds
  have hholds' := hw'.holds
  -- both look at the same tokens and at the same locale
  obtain ⟨x, hx, hrun⟩ := run_format hholds pattern i locale
  have hrun' := run_emit hholds' pattern locale
  rw [hholds.table, htable] at hrun
  rw [hholds'.table, htable, hlocale] at hrun'
  rw [hrun] at hformat
  have hall := mapError_eq_ok_iff.mp hformat
  have hnames := Program.checkNames_of_check hholds'.checked hfree
  obtain ⟨l, hl, hln⟩ := hdb.effective (LocaleCode.normalize (w.locales.resolve locale))
  rw [← hx] at hln
  obtain ⟨program, f, hemit, hload, hcall⟩ :=
    call_of_formatAll (SymbolTable.nameProblem?_builtin withCase)
      SymbolDefinition.hasTwin_builtin hnames hfunction hparameter ⟨l, hl, hln⟩ hall
  refine ⟨program, f, ?_, hload, hcall⟩
  rw [hrun']
  exact mapError_eq_ok_iff.mpr hemit

theorem call_emit_eq_format_wednesday : ∃ program f,
    ((emit (some .englishOnly) "EEEE d".toList none).run ⟨.ofBuiltin false, .fresh⟩).1 =
      .ok program ∧
    program.load (some .englishOnly) = .ok f ∧
    f.call (some (.ofDate ⟨2015, 10, 21, by decide, by decide, by decide⟩)) none =
      .ok "Wednesday 21".toList := by
  have hmake : Compiler.make none {} = .ok (.ofBuiltin false) := by
    rw [Compiler.make, Config.check_default]
    rfl
  have hreachable : Workspace.Reachable .englishOnly none {} ⟨.ofBuiltin false, .fresh⟩ :=
    .start hmake
  have htable : (none : Option SymbolTable).getD (.builtin ({} : Config).caseAliases) =
      .builtin false := rfl
  have hfunction : ∀ c ∈ ({} : Config).functionName, c.toNat < 0x80 :=
    List.all_iff_forall_prop.mp (by decide)
  have hparameter : ∀ c ∈ ({} : Config).parameter, c.toNat < 0x80 :=
    List.all_iff_forall_prop.mp (by decide)
  have hfree : ({} : Config).parameter ∉ (SymbolTable.builtin false).names := by decide +kernel
  exact call_emit_eq_format LocaleDatabase.isFaithful_englishOnly htable hfunction hparameter hfree
    hreachable hreachable rfl (by decide +kernel)

end Work

end DatePattern
