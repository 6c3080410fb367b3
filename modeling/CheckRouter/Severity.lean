import CheckRouter.Text.Blank

/-!
# Severities

A diagnostic is an error, a warning or a note.
-/

namespace CheckRouter

inductive Severity
  | error
  | warning
  | note
  deriving DecidableEq, Repr, Inhabited

namespace Severity

/-- All severities, the gravest first. -/
def all : List Severity := [.error, .warning, .note]

theorem mem_all (severity : Severity) : severity ∈ all := by
  cases severity <;> decide

def word : Severity → String
  | .error => "error"
  | .warning => "warning"
  | .note => "note"

def colour : Severity → String
  | .error => "red"
  | .warning => "yellow"
  | .note => "cyan"

def ofWord? (word : String) : Option Severity :=
  all.find? (·.word == word)

/-- Upper case, as far as it can yield one of the letters of a severity: those of ASCII, and I for
the dotless i. -/
def upperCase (c : Char) : Char :=
  if c = 'ı' then 'I' else c.toUpper

/-- The name of a severity, its word in capitals. -/
def name : Severity → String
  | .error => "ERROR"
  | .warning => "WARNING"
  | .note => "NOTE"

/-- The severity that a token names in any letter case, blanks around it aside. -/
def ofToken? (token : String) : Option Severity :=
  let name := (Text.trim token.toList).map upperCase
  all.find? (·.name.toList == name)

@[simp] theorem ofWord?_word (severity : Severity) : ofWord? severity.word = some severity := by
  cases severity <;> decide

@[simp] theorem ofToken?_word (severity : Severity) : ofToken? severity.word = some severity := by
  cases severity <;> decide

end Severity

end CheckRouter
