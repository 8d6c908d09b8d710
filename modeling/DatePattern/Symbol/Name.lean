/-
  Names: which texts may be symbol names, and which may be bound in emitted code.

  A symbol becomes a variable of emitted code, so its name must not be a word of the Python
  language, a built-in name or a name that every emitted program binds.

  * `nameProblem?_eq_none_iff`: what a valid symbol name is, in one conjunction.
-/
import DatePattern.Text.Letter

namespace DatePattern

open Text

/-- The keywords of the Python language. -/
def keywords : List Text :=
  ["False".toList, "None".toList, "True".toList, "and".toList, "as".toList, "assert".toList,
   "async".toList, "await".toList, "break".toList, "class".toList, "continue".toList,
   "def".toList, "del".toList, "elif".toList, "else".toList, "except".toList, "finally".toList,
   "for".toList, "from".toList, "global".toList, "if".toList, "import".toList, "in".toList,
   "is".toList, "lambda".toList, "nonlocal".toList, "not".toList, "or".toList, "pass".toList,
   "raise".toList, "return".toList, "try".toList, "while".toList, "with".toList, "yield".toList]

/-- The words of the Python language that are keywords in some places only. -/
def softKeywords : List Text := ["_".toList, "case".toList, "match".toList]

/-- The built-in names of the Python language. -/
def builtinNames : List Text :=
  ["ArithmeticError".toList, "AssertionError".toList, "AttributeError".toList,
   "BaseException".toList, "BaseExceptionGroup".toList, "BlockingIOError".toList,
   "BrokenPipeError".toList, "BufferError".toList, "BytesWarning".toList,
   "ChildProcessError".toList, "ConnectionAbortedError".toList, "ConnectionError".toList,
   "ConnectionRefusedError".toList, "ConnectionResetError".toList, "DeprecationWarning".toList,
   "EOFError".toList, "Ellipsis".toList, "EncodingWarning".toList, "EnvironmentError".toList,
   "Exception".toList, "ExceptionGroup".toList, "False".toList, "FileExistsError".toList,
   "FileNotFoundError".toList, "FloatingPointError".toList, "FutureWarning".toList,
   "GeneratorExit".toList, "IOError".toList, "ImportError".toList, "ImportWarning".toList,
   "IndentationError".toList, "IndexError".toList, "InterruptedError".toList,
   "IsADirectoryError".toList, "KeyError".toList, "KeyboardInterrupt".toList,
   "LookupError".toList, "MemoryError".toList, "ModuleNotFoundError".toList, "NameError".toList,
   "None".toList, "NotADirectoryError".toList, "NotImplemented".toList,
   "NotImplementedError".toList, "OSError".toList, "OverflowError".toList,
   "PendingDeprecationWarning".toList, "PermissionError".toList, "ProcessLookupError".toList,
   "RecursionError".toList, "ReferenceError".toList, "ResourceWarning".toList,
   "RuntimeError".toList, "RuntimeWarning".toList, "StopAsyncIteration".toList,
   "StopIteration".toList, "SyntaxError".toList, "SyntaxWarning".toList, "SystemError".toList,
   "SystemExit".toList, "TabError".toList, "TimeoutError".toList, "True".toList,
   "TypeError".toList, "UnboundLocalError".toList, "UnicodeDecodeError".toList,
   "UnicodeEncodeError".toList, "UnicodeError".toList, "UnicodeTranslateError".toList,
   "UnicodeWarning".toList, "UserWarning".toList, "ValueError".toList, "Warning".toList,
   "ZeroDivisionError".toList, "__build_class__".toList, "__debug__".toList, "__doc__".toList,
   "__import__".toList, "__loader__".toList, "__name__".toList, "__package__".toList,
   "__spec__".toList, "abs".toList, "aiter".toList, "all".toList, "anext".toList, "any".toList,
   "ascii".toList, "bin".toList, "bool".toList, "breakpoint".toList, "bytearray".toList,
   "bytes".toList, "callable".toList, "chr".toList, "classmethod".toList, "compile".toList,
   "complex".toList, "copyright".toList, "credits".toList, "delattr".toList, "dict".toList,
   "dir".toList, "divmod".toList, "enumerate".toList, "eval".toList, "exec".toList, "exit".toList,
   "filter".toList, "float".toList, "format".toList, "frozenset".toList, "getattr".toList,
   "globals".toList, "hasattr".toList, "hash".toList, "help".toList, "hex".toList, "id".toList,
   "input".toList, "int".toList, "isinstance".toList, "issubclass".toList, "iter".toList,
   "len".toList, "license".toList, "list".toList, "locals".toList, "map".toList, "max".toList,
   "memoryview".toList, "min".toList, "next".toList, "object".toList, "oct".toList, "open".toList,
   "ord".toList, "pow".toList, "print".toList, "property".toList, "quit".toList, "range".toList,
   "repr".toList, "reversed".toList, "round".toList, "set".toList, "setattr".toList,
   "slice".toList, "sorted".toList, "staticmethod".toList, "str".toList, "sum".toList,
   "super".toList, "tuple".toList, "type".toList, "vars".toList, "zip".toList]

/-- The name of the locale parameter of emitted functions. -/
def localeParameter : Text := "locale".toList

/-- The name of the module of calendar names in emitted code. -/
def datesModule : Text := "dates".toList

/-- The names that emitted programs bind by themselves. -/
def reservedNames : List Text := ["date".toList, datesModule, localeParameter]

/-- Why a text is no symbol name. -/
inductive NameProblem where
  | empty
  | notLetters
  | keyword
  | reserved
  | builtin
  deriving DecidableEq, Repr

/-- The wording of a problem. -/
def NameProblem.message : NameProblem → Text
  | .empty => "name is empty".toList
  | .notLetters => "name must contain only ASCII letters".toList
  | .keyword => "name is a Python keyword".toList
  | .reserved => "name is reserved for emitted code".toList
  | .builtin => "name shadows a Python builtin".toList

/-- The first reason why a text is no symbol name. -/
def nameProblem? (name : Text) : Option NameProblem :=
  if name = [] then some .empty
  else if !name.all isAsciiLetter then some .notLetters
  else if name ∈ keywords ∨ name ∈ softKeywords then some .keyword
  else if name ∈ reservedNames then some .reserved
  else if name ∈ builtinNames then some .builtin
  else none

/-- Whether a text may be a symbol name. -/
def isSymbolName (name : Text) : Bool := (nameProblem? name).isNone

/-- Whether a text may be the name of a function or parameter of emitted code. -/
def isBindableName (name : Text) : Bool :=
  isIdentifier name && decide (name ∉ keywords) && decide (name ∉ builtinNames)

theorem nameProblem?_eq_none_iff {name : Text} :
    nameProblem? name = none ↔
      name ≠ [] ∧ (∀ c ∈ name, isAsciiLetter c = true) ∧ name ∉ keywords ∧ name ∉ softKeywords ∧
        name ∉ reservedNames ∧ name ∉ builtinNames := by
  rw [← List.all_eq_true]
  unfold nameProblem?
  by_cases h₁ : name = []
  · simp [h₁]
  cases h₂ : name.all isAsciiLetter with
  | false => simp [h₁]
  | true =>
    by_cases h₃ : name ∈ keywords ∨ name ∈ softKeywords
    · simp only [h₁, h₃, if_true, if_false, Bool.not_true, Bool.false_eq_true, reduceCtorEq,
        false_iff]
      exact fun g => h₃.elim g.2.2.1 g.2.2.2.1
    · have h := not_or.mp h₃
      by_cases h₄ : name ∈ reservedNames <;> by_cases h₅ : name ∈ builtinNames <;>
        simp [h₁, h.1, h.2, h₄, h₅, -List.all_eq_true]

-- A word of the lists above differs from a name letter by letter.
theorem ne_toList_ofList {t name : Text} (h : (t == name) = false) :
    name ≠ (String.ofList t).toList := by
  rw [String.toList_ofList]
  rintro rfl
  simp at h

end DatePattern
