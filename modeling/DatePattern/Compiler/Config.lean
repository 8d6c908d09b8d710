/-
  Settings of a compiler: the size of its cache, the names in the programs it emits, and whether
  symbols are accepted in the other letter case.

  `check_eq_ok_iff` says which settings are usable, `check_default` that the default ones are.
-/
import DatePattern.Program.Emit

namespace DatePattern

open Text

/-- Settings of a compiler. -/
structure Config where
  /-- How many patterns are kept; no cache is used for zero. -/
  cacheSize : Int := 256
  functionName : Text := defaultFunctionName
  parameter : Text := defaultParameter
  /-- Whether the built-in table has the aliases of the other letter case. -/
  caseAliases : Bool := false
  deriving DecidableEq, Repr

/-- Why settings are unusable. -/
inductive ConfigFault where
  | cacheSize (n : Int)
  | functionName (name : Text)
  | parameter (name : Text)
  deriving DecidableEq, Repr

/-- What is wrong with the name of a function. -/
def functionNameMessage (name : Text) : Text :=
  (Diagnostic.identifierInvalid "function name".toList name).message

/-- What is wrong with the name of a parameter. -/
def parameterMessage (name : Text) : Text :=
  (Diagnostic.identifierInvalid "parameter name".toList name).message

/-- The wording of a fault. -/
def ConfigFault.message : ConfigFault → Text
  | .cacheSize n => "cache_size must be >= 0, got ".toList ++ ofInt n
  | .functionName name => functionNameMessage name
  | .parameter name => parameterMessage name

namespace Config

/-- Check settings; the first unusable one is reported. -/
def check (c : Config) : Except ConfigFault Unit :=
  if c.cacheSize < 0 then .error (.cacheSize c.cacheSize)
  else if !Program.isFunctionName c.functionName then .error (.functionName c.functionName)
  else if !Program.isParameterName c.parameter then .error (.parameter c.parameter)
  else .ok ()

/-- The settings in one line. -/
def summary (c : Config) : Text :=
  "CompilerConfig(cache_size=".toList ++ ofInt c.cacheSize ++ ", function_name=".toList
    ++ quoted c.functionName ++ ", parameter=".toList ++ quoted c.parameter
    ++ ", case_aliases=".toList ++ (if c.caseAliases then "True" else "False").toList ++ [')']

theorem check_eq_ok_iff {c : Config} :
    c.check = .ok () ↔ 0 ≤ c.cacheSize ∧
      Program.isFunctionName c.functionName = true ∧
      Program.isParameterName c.parameter = true := by
  unfold check
  by_cases hsize : c.cacheSize < 0
  · rw [if_pos hsize]
    simp [Int.not_le.mpr hsize]
  · rw [if_neg hsize]
    cases Program.isFunctionName c.functionName <;>
      cases Program.isParameterName c.parameter <;> simp [Int.not_lt.mp hsize]

theorem isBindableName_default :
    isBindableName defaultFunctionName = true ∧ isBindableName defaultParameter = true := by
  have hfunction : defaultFunctionName = ['f', 'o', 'r', 'm', 'a', 't', '_', 'd', 'a', 't', 'e'] :=
    String.toList_ofList
  have hparameter : defaultParameter = ['d', 'a', 't', 'e'] := String.toList_ofList
  have hwords : (∀ w ∈ keywords, defaultFunctionName ≠ w) ∧
      (∀ w ∈ builtinNames, defaultFunctionName ≠ w) ∧
      (∀ w ∈ keywords, defaultParameter ≠ w) ∧ ∀ w ∈ builtinNames, defaultParameter ≠ w := by
    rw [hfunction, hparameter]
    unfold keywords builtinNames
    refine ⟨?_, ?_, ?_, ?_⟩
    all_goals
      repeat refine List.forall_mem_cons.mpr ⟨ne_toList_ofList rfl, ?_⟩
      exact List.forall_mem_nil _
  obtain ⟨hfk, hfb, hpk, hpb⟩ := hwords
  simp only [isBindableName, Bool.and_eq_true, decide_eq_true_eq]
  refine ⟨⟨⟨?_, fun h => hfk _ h rfl⟩, fun h => hfb _ h rfl⟩,
    ⟨?_, fun h => hpk _ h rfl⟩, fun h => hpb _ h rfl⟩
  · rw [hfunction]
    decide
  · rw [hparameter]
    decide

theorem check_default : check {} = .ok () := by
  obtain ⟨hfunction, hparameter⟩ := isBindableName_default
  have hnames : defaultFunctionName ≠ datesModule ∧ defaultParameter ≠ localeParameter ∧
      defaultParameter ≠ datesModule := by decide
  simp [check, Program.isFunctionName, Program.isParameterName, hfunction, hparameter, hnames]

end Config

end DatePattern
