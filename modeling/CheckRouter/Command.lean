import CheckRouter.Action

/-!
# Commands

`Command.run` starts a program and waits for it in short slices. Before each slice it looks whether
its token has been cancelled and whether the time limit has passed; either way the program is
killed. A program that runs out of time counts as ended with status 124 and a note among its errors.
-/

namespace CheckRouter

structure Completed where
  arguments : List String
  status : Int
  output : String
  errors : String
  deriving DecidableEq, Repr

def Completed.ok (completed : Completed) : Bool := completed.status == 0

namespace Command

structure Options where
  directory : Option Path := none
  environment : Option Variables := none
  limit : Option Binary64 := none

def Options.toLaunch (options : Options) (arguments : List String) : Launch :=
  ⟨arguments, options.directory.map Path.toString, options.environment⟩

/-- The program that a command means: an absolute path as it is, any other name by search. -/
def lookup (machine : Machine) : List String → Except Failure (List String)
  | [] => .error .emptyCommand
  | head :: rest =>
    let path := Path.ofString head
    if path.isAbsolute then .ok (path.toString :: rest)
    else
      match machine.which head with
      | some program => .ok (program :: rest)
      | none => .error (.notOnSearchPath head)

/-- The steps to the directory in which a program is started: the one it is given or, without one,
the working directory. -/
def enter (machine : Machine) : Option String → Except Failure (List String)
  | none => .ok (FileTree.steps machine.directory)
  | some directory =>
    if Machine.holdsNull directory then .error .embeddedNull
    else
      match machine.find (FileTree.steps machine.directory) directory with
      | .error error => .error (.system error directory)
      | .ok (place, .directory) => .ok place
      | .ok _ => .error (.system .notDirectory directory)

/-- The names under which the system looks for the program of a launch: its own if that has a slash,
else its name in the directories of the search path of its environment. -/
def programNames (machine : Machine) (launch : Launch) : List String :=
  let program := launch.arguments.headD ""
  if program.toList.contains '/' then [program]
  else
    (machine.startPath (launch.environment.getD machine.environment)).map
      (Machine.programIn · program)

/-- What keeps the system from executing the file of a name, seen from where some steps lead. -/
def obstacle? (machine : Machine) (base : List String) (name : String) : Option SystemError :=
  if Machine.holdsNull name then some .noEntry
  else
    match machine.find base name with
    | .error error => some error
    | .ok (_, .file file) => if file.executable then none else some .accessDenied
    | .ok _ => some .accessDenied

/-- The obstacle that is told of several: the last, unless an earlier one is more than a file that is
not there. -/
def reportedObstacle (obstacles : List SystemError) : SystemError :=
  (obstacles.find? fun error => error != .noEntry && error != .notDirectory).getD
    (obstacles.getLastD .noEntry)

def permitProgram (machine : Machine) (base : List String) (launch : Launch) :
    Except Failure Unit :=
  let obstacles := (programNames machine launch).map (obstacle? machine base)
  if obstacles.contains none then .ok ()
  else
    .error (.system (reportedObstacle (obstacles.filterMap id)) (launch.arguments.headD ""))

/-- Whether the system would start a program at all. -/
def permit (machine : Machine) (launch : Launch) : Except Failure Unit :=
  if launch.arguments.any Machine.holdsNull then .error .embeddedNull
  else do permitProgram machine (← enter machine launch.directory) launch

structure Process where
  number : Nat
  arguments : List String
  behaviour : Behaviour
  startedAt : Rat

namespace Process

def program (process : Process) : String := process.arguments.headD ""

/-- The text of some output: ill-formed bytes replaced, every line ended by a line feed. -/
def textOf (bytes : List UInt8) : String :=
  .ofList (Text.unifyNewlines (Text.Utf8.decodeReplacing bytes).toList)

def output (process : Process) : String := textOf process.behaviour.output

def errors (process : Process) : String := textOf process.behaviour.errors

def endsAt (process : Process) : Rat :=
  process.startedAt + Behaviour.fromZero process.behaviour.duration

/-- The time at which the wait for the process is interrupted, if it lasts so long. -/
def interruptedAt (process : Process) : Option Rat :=
  process.behaviour.interruptedAfter.map (process.startedAt + Behaviour.fromZero ·)

def completed (process : Process) : Completed :=
  ⟨process.arguments, process.behaviour.status, process.output, process.errors⟩

def timeoutNote (limit : Binary64) : String :=
  "Command timed out after " ++ limit.oneDecimal ++ "s"

/-- The process after it was killed for running out of time. -/
def timedOut (process : Process) (limit : Binary64) : Completed :=
  let note := timeoutNote limit
  let errors := process.errors
  ⟨process.arguments, 124, process.output, if errors = "" then note else errors ++ "\n" ++ note⟩

end Process

def start (machine : Machine) (launch : Launch) : Action Process := do
  permit machine launch
  let number ← Action.noteStart launch
  match machine.respond launch with
  | .error error => throw (.system error (launch.arguments.headD ""))
  | .ok behaviour => return ⟨number, launch.arguments, behaviour, (← get).clock⟩

/-- The time at which a program started at `start` runs out of time. A limit that is not a number is
never reached. -/
def deadline (start : Rat) : Option Binary64 → Option Rat
  | none | some (.notNumber _) | some (.infinite false) => none
  | some (.infinite true) => some start
  | some limit => limit.toRat?.map (start + ·)

def slice : Rat := 1 / 10

def sliceEnd (now : Rat) : Option Rat → Rat
  | none => now + slice
  | some deadline => if deadline < now + slice then deadline else now + slice

inductive Event
  | interrupted (time : Rat)
  | running (time : Rat)
  | ended (time : Rat)
  deriving DecidableEq, Repr

def Event.time : Event → Rat
  | .interrupted time => time
  | .running time => time
  | .ended time => time

/-- The first event up to a time: an interrupt, the end of the process, or that time itself. -/
def Process.eventBy (process : Process) (time : Rat) : Event :=
  match process.interruptedAt.filter (· ≤ time) with
  | some interrupt => .interrupted interrupt
  | none => if time < process.endsAt then .running time else .ended process.endsAt

/-- Looks whether a process is to be killed. One that may run on does so up to an event. -/
def look (token : Option Token) (limit : Option Binary64) (process : Process) :
    Action (Completed ⊕ Event) := do
  if ← Action.isCancelled token then
    Action.kill process.number
    Action.halt (.cancelledRunning process.program)
  let now := (← get).clock
  let deadline := deadline process.startedAt limit
  match limit, deadline.any (· ≤ now) with
  | some limit, true =>
    Action.kill process.number
    Action.record .warning .process
      (Process.timeoutNote limit ++ ": " ++ Text.ShellWords.join process.arguments)
    return .inl (process.timedOut limit)
  | _, _ => return .inr (process.eventBy (sliceEnd now deadline))

/-- What becomes of a process at an event. Nothing is returned while it goes on running. -/
def meet (machine : Machine) (process : Process) : Event → Action (Option Completed)
  | .interrupted time => do
    Action.moveClock machine time
    Action.kill process.number
    Action.halt (.interruptedRunning process.program)
  | .running time => do
    Action.moveClock machine time
    return none
  | .ended time => do
    Action.moveClock machine time
    return some process.completed

def poll (machine : Machine) (token : Option Token) (limit : Option Binary64) (process : Process) :
    Action (Option Completed) := do
  match ← look token limit process with
  | .inl completed => return some completed
  | .inr event => meet machine process event

/-- Waits for a process, for at most `polls` slices before its own end. -/
def wait (machine : Machine) (token : Option Token) (limit : Option Binary64) (process : Process) :
    Nat → Action Completed
  | 0 => do
    Action.moveClock machine process.endsAt
    return process.completed
  | polls + 1 => do
    match ← poll machine token limit process with
    | some completed => return completed
    | none => wait machine token limit process polls

/-- A number of slices in which a process surely ends. -/
def enoughPolls (process : Process) : Nat :=
  (process.behaviour.duration * 10).ceil.toNat + 3

def launch (machine : Machine) (token : Option Token) (options : Options) (command : List String) :
    Action Process := do
  let arguments ← lookup machine command
  Action.proceed token
  start machine (options.toLaunch arguments)

def run (machine : Machine) (token : Option Token) (options : Options) (command : List String) :
    Action Completed := do
  let process ← launch machine token options command
  wait machine token options.limit process (enoughPolls process)

end Command

end CheckRouter
