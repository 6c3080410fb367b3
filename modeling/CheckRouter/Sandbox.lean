import CheckRouter.Command

/-!
# Sandboxes

A sandbox manager is asked which virtual environment and which project govern a directory. Whatever
goes wrong while it is asked one thing, the answer to that one thing is missing. Answers are kept,
so that each directory is asked about once.
-/

namespace CheckRouter.Sandbox

structure Findings where
  environment : Option Path := none
  project : Option Path := none
  deriving DecidableEq, Repr

structure Manager where
  command : String := "pipenv"
  maxDepth : Int := 100
  limit : Option Binary64 := none

abbrev Memo := List (Path × Findings)

inductive Question
  | environment
  | project
  deriving DecidableEq, Repr

def Question.option : Question → String
  | .environment => "--venv"
  | .project => "--where"

def Question.label : Question → String
  | .environment => "virtualenv"
  | .project => "Pipfile directory"

/-- The directory that the first line with text names, if it exists. -/
def reported? (machine : Machine) (output : String) : Except Failure (Option Path) := do
  match ((Text.lines output).map Text.strip).find? (· != "") with
  | none => return none
  | some line =>
    let path ← machine.expandHome (Path.ofString line)
    return if ← machine.isDirectory path then some path else none

def located (machine : Machine) (directory : Path) (question : Question) (output : String) :
    Action (Option Path) := do
  match ← reported? machine output with
  | none =>
    Action.record .info .environment
      (question.label ++ " lookup reported no usable path: " ++
        Text.quoted (Text.strip output))
    return none
  | some path =>
    Action.record .debug .environment
      (question.label ++ " for " ++ directory.toString ++ ": " ++ path.toString)
    return some path

def interpret (machine : Machine) (directory : Path) (question : Question) (completed : Completed) :
    Action (Option Path) := do
  let label := question.label
  let note (text : String) := Action.record .info .environment text
  let errors := Text.strip completed.errors
  if errors != "" then
    note (label ++ "-locating cmd: " ++ Text.ShellWords.join completed.arguments ++ " in " ++
      directory.toString)
    note ("Error while locating " ++ label ++ ": " ++ errors)
  if !completed.ok then
    note (label ++ " lookup exited with " ++ toString completed.status ++
      "; using project defaults")
    return none
  located machine directory question completed.output

def ask (machine : Machine) (manager : Manager) (token : Option Token) (directory : Path)
    (question : Question) : Action (Option Path) := do
  let environment :=
    Variables.set "PIPENV_MAX_DEPTH" (toString manager.maxDepth) machine.environment
  let options : Command.Options := ⟨some directory, some environment, manager.limit⟩
  let label := question.label
  match ← Action.attempt
      (Command.run machine token options [manager.command, question.option]) with
  | .ok completed => interpret machine directory question completed
  | .error failure =>
    if failure.isNotFound then
      Action.record .debug .environment
        ("Skipping " ++ label ++ " lookup: " ++ failure.message)
      return none
    else if failure.isRefusal then
      Action.record .warning .environment
        ("Error while locating " ++ label ++ " in " ++ directory.toString ++ ": " ++
          failure.message)
      return none
    else throw failure

/-- What the manager says about a directory, from the memo if it was asked before. -/
def probe (machine : Machine) (manager : Manager) (token : Option Token) (memo : Memo)
    (directory : Path) : Action (Findings × Memo) := do
  let directory ← machine.resolve directory
  match memo.lookup directory with
  | some findings => return (findings, memo)
  | none =>
    let environment ← ask machine manager token directory .environment
    let project ← ask machine manager token directory .project
    let findings : Findings := ⟨environment, project⟩
    return (findings, (directory, findings) :: memo)

end CheckRouter.Sandbox
