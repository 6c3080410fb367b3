import CheckRouter.Field

/-!
# Issues

An issue is a diagnostic of a checker: a place in a source file, a severity and a message. Lines are
counted from one and columns from zero.
-/

namespace CheckRouter

structure Issue where
  path : String
  line : Int
  column : Int
  severity : Severity
  message : String
  line_pos : 1 ≤ line
  column_nonneg : 0 ≤ column
  deriving DecidableEq, Repr

namespace Issue

/-- An issue at a place that may be out of range. -/
def at? (path : String) (line column : Int) (severity : Severity) (message : String) :
    Option Issue :=
  if range : 1 ≤ line ∧ 0 ≤ column then
    some ⟨path, line, column, severity, message, range.1, range.2⟩
  else none

/-- Reads an issue from named fields. Other names are ignored. -/
def ofEntries (entries : Entries) : Except (List Fault) Issue :=
  let field {α : Type} (name : String) (reader : Value → Except Complaint α) :=
    Field.read entries name (.error .missing) reader
  let path := field "path" Field.text
  let line := field "line" (Field.integer 1)
  let column := field "column" (Field.integer 0)
  let severity := field "severity" Field.severity
  let message := field "message" Field.text
  match path, line, column, severity, message with
  | .ok path, .ok line, .ok column, .ok severity, .ok message =>
    .ok ⟨path, line, column, severity, message, line.2, column.2⟩
  | _, _, _, _, _ =>
    .error (Field.faults path ++ Field.faults line ++ Field.faults column ++
      Field.faults severity ++ Field.faults message)

/-- The place of an issue, with the column counted from one. -/
def location (issue : Issue) : String :=
  issue.path ++ ":" ++ toString issue.line ++ ":" ++ toString (issue.column + 1)

/-- The issue as one line of a checker's output. -/
def toLine (issue : Issue) : String :=
  issue.location ++ ": " ++ issue.severity.word ++ ": " ++ issue.message

end Issue

end CheckRouter
