import CheckRouter.CommandLine.Request
import CheckRouter.Scan
import CheckRouter.Settings.ProjectFile

/-!
# Runs of the command line

A run answers a request with lines on the output and the error output, and an exit status: zero when
there is nothing to report, one when issues were found or a checker does not work, two when the
request failed and 130 when it was stopped.
-/

namespace CheckRouter.CommandLine

/-- How a run ends: with a status, or with a failure that nobody was prepared for. -/
inductive Ending
  | exit (status : Nat)
  | crash (failure : Failure)
  deriving DecidableEq, Repr

structure Outcome where
  ending : Ending
  output : List String := []
  errors : List String := []
  started : List Started := []

def consoleWidth (machine : Machine) : Nat :=
  match machine.environment.get? "COLUMNS" with
  | some columns =>
    let digits := columns.toList
    if !digits.isEmpty && digits.all Text.isDigit then Text.numeral digits else 80
  | none => 80

def isReported : Failure → Bool
  | .rejectedSettings _ | .malformedProjectFile .. | .sectionNotTable _ | .missingConfigFile _
  | .badArguments .. | .noSources | .invalidSource _ | .checkerFailed .. | .unreadableLine ..
  | .stopped _ => true
  | _ => false

def isShown (verbose : Bool) (record : Record) : Bool :=
  verbose || record.level = .warning

/-- The lines that show a journal, given the notices that came before it. -/
def journalLines (verbose : Bool) (width : Nat) (earlier : List Notice) :
    List JournalEntry → List String
  | [] => []
  | .record r :: rest =>
    (if isShown verbose r then [r.text] else []) ++ journalLines verbose width earlier rest
  | .notice n :: rest =>
    (if n.isNew earlier then Console.paragraphs width (n.text true) else []) ++
      journalLines verbose width (earlier ++ [n]) rest

def report (failure : Failure) : Nat × String :=
  if failure.isStop then (130, "Scan cancelled: " ++ failure.message) else (2, failure.message)

def scanIssues (machine : Machine) (request : ScanRequest) : Action (List Issue) := do
  let settings ← ProjectFile.load machine (Path.ofString request.root) request.overrides
  let files ← request.files.mapM fun file => machine.resolve (Path.ofString file)
  Scan.run machine settings true none (files.map Path.toString)

def runScan (machine : Machine) (request : ScanRequest) : Outcome :=
  let width := consoleWidth machine
  let (result, world) := (scanIssues machine request).run (World.initial false)
  let errors := journalLines request.verbose width [] world.journal
  let outcome (ending : Ending) (output more : List String) : Outcome :=
    ⟨ending, output, errors ++ more, world.started⟩
  match result with
  | .ok issues =>
    match Report.lines request.mode width issues machine.pictures with
    | .ok lines => outcome (.exit (if issues.isEmpty then 0 else 1)) lines []
    | .error fault => outcome (.crash (.markup fault)) [] []
  | .error failure =>
    if isReported failure then
      let (status, message) := report failure
      outcome (.exit status) [] (Report.failure true width message)
    else outcome (.crash failure) [] []

def checkExecutable (machine : Machine) (settings : Settings) (executable : String) : Action Bool :=
  Checker.validate ⟨settings, false, none⟩ machine executable

def runCheckPath (machine : Machine) (executable root : String) (verbose : Bool) : Outcome :=
  let width := consoleWidth machine
  match ProjectFile.load machine (Path.ofString root) [] with
  | .error failure =>
    if isReported failure then ⟨.exit 2, Report.failure true width failure.message, [], []⟩
    else ⟨.crash failure, [], [], []⟩
  | .ok settings =>
    let (result, world) :=
      (checkExecutable machine settings executable).run (World.initial false)
    let errors := journalLines verbose width [] world.journal
    match result with
    | .ok true =>
      let lines := Report.success true width (executable ++ " is a valid mypy executable")
      ⟨.exit 0, lines, errors, world.started⟩
    | .ok false =>
      let lines := Report.failure true width (executable ++ " is not a valid mypy executable")
      ⟨.exit 1, lines, errors, world.started⟩
    | .error failure => ⟨.crash failure, [], errors, world.started⟩

def run (machine : Machine) : Request → Outcome
  | .scan request => runScan machine request
  | .checkPath executable root verbose => runCheckPath machine executable root verbose
  | .help => { ending := .exit 0 }

end CheckRouter.CommandLine
