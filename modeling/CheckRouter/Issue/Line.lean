import CheckRouter.Failure
import CheckRouter.Issue
import CheckRouter.Text.Digit
import CheckRouter.Text.Lines

/-!
# Issues in the output of a checker

A checker writes one diagnostic on a line: `path:line:column: severity: message`, where the column,
or both numbers, may be missing. `Issue.ofLine?` reads one line, `Issue.Source` reads lines as they
are asked for, and `Issue.ofOutput` reads a whole output.
-/

namespace CheckRouter

/-- The parts of a line in the form of a diagnostic. The numbers are runs of digits. -/
structure Diagnostic where
  path : List Char
  line : Option (List Char)
  column : Option (List Char)
  word : List Char
  message : List Char
  deriving DecidableEq, Repr

namespace Diagnostic

/-- A run of characters of a class that ends in a colon, and what stands behind the colon. -/
def field? (p : Char → Bool) (text : List Char) : Option (List Char × List Char) :=
  match text.takeWhile p, text.dropWhile p with
  | c :: run, ':' :: rest => some (c :: run, rest)
  | _, _ => none

def number (text : List Char) : Option (List Char) × List Char :=
  match field? Text.isDigit text with
  | some (digits, rest) => (some digits, rest)
  | none => (none, text)

def isPathChar (c : Char) : Bool := !Text.isBlank c && c != ':'

/-- Cuts a line into the parts of a diagnostic. -/
def ofLine? (text : List Char) : Option Diagnostic := do
  let (path, rest) ← field? isPathChar text
  let (line, rest) := number rest
  let (column, rest) := number rest
  match rest with
  | ' ' :: rest =>
    let (word, message) ← field? Char.isAlpha rest
    if message.contains '\n' then none else some ⟨path, line, column, word, message⟩
  | _ => none

/-- Whether the word is that of a severity, in any letter case. -/
def isKnown (diagnostic : Diagnostic) : Bool :=
  (Severity.ofWord? (.ofList (diagnostic.word.map Char.toLower))).isSome

/-- Whether a line of this form counts as a diagnostic: it names a severity or has a line number. -/
def qualifies (diagnostic : Diagnostic) : Bool :=
  diagnostic.isKnown || diagnostic.line.isSome

def value (digits : List Char) : Except Failure Int :=
  if 4300 < digits.length then .error (.oversizedNumeral digits.length)
  else .ok (Text.numeral digits)

def valueOr (default : Int) : Option (List Char) → Except Failure Int
  | some digits => value digits
  | none => .ok default

end Diagnostic

def Severity.ofToken (token : String) : Except Failure Severity :=
  match Severity.ofToken? token with
  | some severity => .ok severity
  | none =>
    .error (.unreadableLine ("unrecognized severity " ++ Text.quoted (Text.strip token)) none)

namespace Issue

/-- The issue of a diagnostic found on a line. A missing line number is one, and so is a missing
column, counted from zero. -/
def ofDiagnostic (line : String) (diagnostic : Diagnostic) : Except Failure Issue := do
  let word : String := .ofList diagnostic.word
  let some severity := Severity.ofToken? word
    | throw (.unreadableLine ("unrecognized severity " ++ Text.quoted word) (some line))
  let row ← Diagnostic.valueOr 1 diagnostic.line
  let column ← Diagnostic.valueOr 2 diagnostic.column
  let some issue := Issue.at? (.ofList diagnostic.path) row (column - 1) severity
      (Text.strip (.ofList diagnostic.message))
    | throw (.unreadableLine "invalid diagnostic position" (some line))
  return issue

def isLineEnd (c : Char) : Bool := c = '\n' || c = '\r'

def ofLine? (text : String) : Except Failure (Option Issue) :=
  let line := Text.dropEndWhile isLineEnd text.toList
  match Diagnostic.ofLine? line with
  | none => .ok none
  | some diagnostic =>
    if diagnostic.qualifies then (ofDiagnostic (.ofList line) diagnostic).map some else .ok none

/-- A source of lines that is read as issues are asked for. -/
structure Source where
  lines : List String
  consumed : Nat := 0
  /-- Whether reading is over, at the end or after a line that could not be read. -/
  finished : Bool := false
  deriving Repr

namespace Source

/-- Reads on from `consumed` lines to the next issue. -/
def nextFrom (consumed : Nat) : List String → Except Failure (Option Issue) × Source
  | [] => (.ok none, ⟨[], consumed, true⟩)
  | line :: rest =>
    match ofLine? line with
    | .ok none => nextFrom (consumed + 1) rest
    | .ok (some issue) => (.ok (some issue), ⟨rest, consumed + 1, false⟩)
    | .error failure => (.error failure, ⟨rest, consumed + 1, true⟩)

def next (source : Source) : Except Failure (Option Issue) × Source :=
  if source.finished then (.ok none, source) else nextFrom source.consumed source.lines

end Source

/-- The issues on some lines, or the failure on the first line that has one. -/
def ofLines : List String → Except Failure (List Issue)
  | [] => .ok []
  | line :: rest => do
    match ← ofLine? line with
    | none => ofLines rest
    | some issue => return issue :: (← ofLines rest)

def ofOutput (output : String) : Except Failure (List Issue) :=
  ofLines (Text.lines output)

end Issue

end CheckRouter
