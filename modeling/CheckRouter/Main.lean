import CheckRouter.CommandLine.Run
import CheckRouter.Machine.Description

/-!
# The program

The words of the command line are answered for the machine whose description stands on the standard
input. Output and errors of the run go to the two streams of the program, and its status becomes the
status of the program.
-/

namespace CheckRouter.Program

partial def readToEnd (input : IO.FS.Stream) (before : String) : IO String := do
  let line ← input.getLine
  if line.isEmpty then return before else readToEnd input (before ++ line)

/-- Answers a request on the machine of a description. -/
def answer (description : String) (request : CommandLine.Request) :
    Except String CommandLine.Outcome := do
  let entries ← (Toml.parse usualNesting description).mapError fun
    | .malformed reason left => (Toml.mistake description reason left).message
    | .oversized digits => Failure.message (.oversizedNumeral digits)
    | .nested => Failure.message .tooDeep
  let machine ← (Description.machine entries).mapError fun fault =>
    fault.field ++ ": " ++ fault.complaint.message
  return CommandLine.run machine request

/-- Prints an outcome and gives the status. -/
def present (outcome : CommandLine.Outcome) : IO UInt32 := do
  let errors ← IO.getStderr
  outcome.output.forM IO.println
  outcome.errors.forM errors.putStrLn
  match outcome.ending with
  | .exit status => return status.toUInt32
  | .crash failure =>
    errors.putStrLn failure.message
    return 1

/-- Prints what is wrong with the words or the description and gives the status for it. -/
def refuse (message : String) : IO UInt32 := do
  (← IO.getStderr).putStrLn message
  return 2

def run (words : List String) : IO UInt32 := do
  match CommandLine.Request.ofWords words with
  | .error fault => refuse fault.message
  | .ok request =>
    match answer (← readToEnd (← IO.getStdin) "") request with
    | .error message => refuse message
    | .ok outcome => present outcome

end CheckRouter.Program

def main (words : List String) : IO UInt32 := CheckRouter.Program.run words
