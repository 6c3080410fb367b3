import CheckRouter.Command
import CheckRouter.Issue.Line
import CheckRouter.Routing
import CheckRouter.Settings

/-!
# Checkers

A checker is asked for its version to see whether it works, and is run over the files of a bucket to
find issues. It always runs in the project root, with its virtual environment active. A checker that
finds issues ends with status one; any other status than zero and one is a failure unless issues
were found.
-/

namespace CheckRouter

/-- How checkers are run: the settings, who is told of failures, and what cancels a run. -/
structure Checker where
  settings : Settings
  notifies : Bool := false
  token : Option Token := none

namespace Checker

def environmentFor (machine : Machine) (program : Path) : Except Failure Variables :=
  (Virtualenv.findRoot machine program).map (Virtualenv.activate machine machine.environment)

/-- The command that starts an executable: through the interpreter beside it, if there is one. -/
def launcher (checker : Checker) (machine : Machine) (executable : String) :
    Except Failure (List String) := do
  let path ← checker.settings.resolve machine executable
  let interpreter := path.parent / Virtualenv.fileName machine "python"
  if path.suffix.map Char.toLower = ".exe" then return [path.toString]
  if (← machine.isRegularFile interpreter) && interpreter != path then
    return [interpreter.toString, path.toString]
  return [path.toString]

/-- Records what the version query printed and tells whether it succeeded. -/
def judge (completed : Completed) : Action Bool := do
  let errors := Text.strip completed.errors
  let output := Text.strip completed.output
  if errors != "" then
    Action.record .info .runner
      ("Command Line string: " ++ Text.ShellWords.join completed.arguments)
    Action.record .warning .runner ("Error while checking mypy path: " ++ errors)
  if output != "" then
    Action.record .debug .runner ("mypy path check output: " ++ output)
  if !completed.ok then
    Action.record .warning .runner
      ("mypy path check exited with " ++ toString completed.status)
  return completed.ok

/-- Whether an executable exists and answers a version query. -/
def validate (checker : Checker) (machine : Machine) (executable : String) : Action Bool := do
  if executable = "" then return false
  let path ← checker.settings.resolve machine executable
  if !(← machine.holdsFile path) then
    Action.record .warning .runner
      ("Error while checking mypy path " ++ path.toString ++ ": not exists or not a file path")
    return false
  let command := (← checker.launcher machine executable) ++ ["-V"]
  let environment ← environmentFor machine path
  let options : Command.Options := ⟨some checker.settings.projectRoot, some environment, none⟩
  match ← Action.attempt (Command.run machine checker.token options command) with
  | .ok completed => judge completed
  | .error failure =>
    if !failure.isRefusal then throw failure
    Action.record .info .runner ("Command Line string: " ++ Text.ShellWords.join command)
    Action.record .warning .runner ("Error while checking mypy path: " ++ failure.message)
    return false

def command (checker : Checker) (machine : Machine) (bucket : Bucket) (extra : List String) :
    Except Failure (List String) := do
  let path ← checker.settings.resolve machine bucket.executable
  let config := if bucket.configFile = "" then [] else ["--config-file", bucket.configFile]
  return [path.toString, "--show-column-numbers", "--follow-imports", "silent"] ++ config ++
    extra ++ bucket.files

def environment (checker : Checker) (machine : Machine) (executable : String) :
    Except Failure Variables := do
  environmentFor machine (← checker.settings.resolve machine executable)

def prepare (checker : Checker) (machine : Machine) (bucket : Bucket) :
    Except Failure (List String × Command.Options) := do
  let extra ← checker.settings.arguments
  let command ← checker.command machine bucket extra
  let environment ← checker.environment machine bucket.executable
  return (command,
    ⟨some checker.settings.projectRoot, some environment, checker.settings.timeout⟩)

def begin (checker : Checker) (machine : Machine) (bucket : Bucket) : Action Command.Process := do
  let (command, options) ← checker.prepare machine bucket
  Action.record .info .runner ("Running command: " ++ Text.ShellWords.join command)
  match ← Action.attempt (Command.launch machine checker.token options command) with
  | .ok process => return process
  | .error failure =>
    if !failure.isRefusal then throw failure
    Action.record .info .runner ("Command Line string: " ++ Text.ShellWords.join command)
    throw (.checkerFailed 127 failure.message command)

def run (checker : Checker) (machine : Machine) (bucket : Bucket) : Action Completed := do
  let process ← checker.begin machine bucket
  Command.wait machine checker.token checker.settings.timeout process (Command.enoughPolls process)

def isNormal (status : Int) : Bool := status = 0 || status = 1

def conclude (checker : Checker) (completed : Completed) (issues : List Issue) :
    Action (List Issue) := do
  if isNormal completed.status then return issues
  if issues.isEmpty then
    if checker.notifies then Action.notify (.abnormalExit completed.errors)
    throw (.checkerFailed completed.status completed.errors completed.arguments)
  Action.record .info .runner
    ("mypy returned " ++ toString completed.status ++ ", but also reported issues")
  return issues

def issuesOf (checker : Checker) (bucket : Bucket) (completed : Completed) :
    Action (List Issue) := do
  let issues ← Issue.ofOutput completed.output
  Action.record .info .runner
    (bucket.executable ++ " took Nms to run on " ++ toString bucket.files.length ++
      " files and found " ++ toString issues.length ++ " issues")
  checker.conclude completed issues

def execute (checker : Checker) (machine : Machine) (bucket : Bucket) : Action (List Issue) := do
  checker.issuesOf bucket (← checker.run machine bucket)

end Checker

end CheckRouter
