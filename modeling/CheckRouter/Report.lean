import CheckRouter.Console.Table
import CheckRouter.Issue.Summary

/-!
# Reports

A report shows issues on a console, one on a line or in a table, and ends with a summary.
-/

namespace CheckRouter.Report

inductive Mode
  | concise
  | table
  deriving DecidableEq, Repr

def Mode.word : Mode → String
  | .concise => "concise"
  | .table => "table"

def Mode.ofWord (word : String) : Except Failure Mode :=
  match [Mode.concise, Mode.table].find? (·.word == word) with
  | some mode => .ok mode
  | none => .error (.unknownMode word)

/-- The cells of a table, which are markup, as the texts that they show. Without room for text they
are not read. -/
def shown (pictures : Console.Pictures) (room : Bool) (cells : List String) :
    Except MarkupFault (List (List Char)) :=
  cells.mapM fun cell =>
    if room then (Console.Markup.render pictures cell).map Console.dropControls else .ok []

/-- The severity of an issue, in its colour. -/
def severityCell (issue : Issue) : String :=
  "[" ++ issue.severity.colour ++ "]" ++ issue.severity.word ++ "[/]"

def columns (pictures : Console.Pictures) (room : Bool) (issues : List Issue) :
    Except MarkupFault (List Console.Table.Column) := do
  let locations ← shown pictures room ("Location" :: issues.map Issue.location)
  let severities ← shown pictures room ("Severity" :: issues.map severityCell)
  let messages ← shown pictures room ("Message" :: issues.map (·.message))
  return [⟨locations, .fold⟩, ⟨severities, .ellipsis⟩, ⟨messages, .fold⟩]

/-- The lines of a report on a console of some width. -/
def lines (mode : Mode) (width : Nat) (issues : List Issue)
    (pictures : Console.Pictures := .numbers) : Except MarkupFault (List String) := do
  let body ←
    if mode = .table && !issues.isEmpty then
      (columns pictures (Console.Table.hasRoom width) issues).map (Console.Table.lines width)
    else pure (issues.flatMap fun issue => Console.paragraphs width issue.toLine)
  return body ++ Console.paragraphs width (Issue.summary issues)

def success (symbols : Bool) (width : Nat) (message : String) : List String :=
  Console.paragraphs width ((if symbols then "✅ " else "") ++ message)

def failure (symbols : Bool) (width : Nat) (message : String) : List String :=
  Console.paragraphs width ((if symbols then "❌ " else "") ++ message)

end CheckRouter.Report
