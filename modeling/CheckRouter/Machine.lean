import CheckRouter.Console.Picture
import CheckRouter.Failure
import CheckRouter.FileTree.Canonical
import CheckRouter.Path

/-!
# Machines

A `Machine` is all that a run can ask its surroundings: files, the working directory, environment
variables, and what each program does when it is started. Questions do not change a machine.
-/

namespace CheckRouter

abbrev Variables := List (String × String)

namespace Variables

def get? (environment : Variables) (name : String) : Option String := environment.lookup name

/-- Sets a variable. One that is already there keeps its place. -/
def set (name value : String) : Variables → Variables
  | [] => [(name, value)]
  | (key, old) :: rest =>
    if key = name then (key, value) :: rest else (key, old) :: set name value rest

def erase (name : String) (environment : Variables) : Variables :=
  environment.filter (·.1 != name)

end Variables

structure Launch where
  arguments : List String
  directory : Option String := none
  environment : Option Variables := none
  deriving DecidableEq, Repr

/-- How a started program behaves. Times are in seconds; one below zero counts as zero. -/
structure Behaviour where
  output : List UInt8 := []
  errors : List UInt8 := []
  status : Int := 0
  duration : Rat := 0
  /-- The time after which the waiting run is interrupted. -/
  interruptedAfter : Option Rat := none
  deriving Repr

def Behaviour.fromZero (time : Rat) : Rat := if time < 0 then 0 else time

/-- A move in a pool of workers. -/
inductive Turn
  /-- The worker of the task of a number goes on. -/
  | worker (number : Nat)
  | owner
  | cancel
  /-- The owner is interrupted while it waits. -/
  | interrupt
  deriving DecidableEq, Repr

/-- How deep links, or the values of a document, may usually stand inside each other. -/
def usualNesting : Nat := 970

structure Machine where
  files : FileTree
  /-- The working directory, an absolute name without links. -/
  directory : String
  environment : Variables
  /-- The home directory of the account, for when no variable names it. -/
  accountHome : String
  windows : Bool
  /-- What a program does once it is started, or why the system does not start it. -/
  respond : Launch → Except SystemError Behaviour
  cancelledAt : Option Rat
  /-- The order in which a pool finishes its tasks when no turns are given. -/
  finishOrder : List Nat
  /-- The wait for a pool that is interrupted, counted from one. -/
  interruptedWait : Option Nat
  /-- Whether a pool that is left after an interrupt gives up the tasks that nobody has taken. -/
  abandons : Bool := true
  /-- The turns that are taken in a pool, one after the other. A turn that is not possible when it
  comes is passed over. -/
  turns : List Turn := []
  /-- The places that the system refuses to look up. -/
  refuses : Place → Option SystemError := FileTree.tooLong?
  /-- How many bytes a name may have that the system looks up. -/
  nameLimit : Nat := 4095
  /-- The home directories of the users by their names. -/
  homes : List (String × String) := []
  /-- What stands between the directories of a search path. -/
  pathSeparator : Char := ':'
  /-- How deep links, or the values of a document, may stand inside each other. -/
  nesting : Nat := usualNesting
  /-- The pictures that its consoles draw. -/
  pictures : Console.Pictures := .numbers

namespace Machine

def holdsNull (text : String) : Bool := text.toList.contains '\x00'

def disk (machine : Machine) : Disk := ⟨machine.files, machine.refuses⟩

/-- The place and the node that a name stands for, seen from where some steps lead, unless the whole
name is too long. -/
def find (machine : Machine) (base : List String) (name : String) :
    Except SystemError (Place × Node) :=
  if machine.nameLimit < FileTree.byteLength name then .error .nameTooLong
  else machine.disk.findFrom true base name

/-- The node that a name stands for, if there is one. No name with a null character stands for one.
A refusal to look the name up is a failure. -/
def look (machine : Machine) (name : String) : Except Failure (Option Node) :=
  if holdsNull name then .ok none
  else
    match machine.find (FileTree.steps machine.directory) name with
    | .ok (_, node) => .ok (some node)
    | .error error => if error.isAbsence then .ok none else .error (.system error name)

def pathExists (machine : Machine) (path : Path) : Except Failure Bool :=
  (machine.look path.toString).map (·.isSome)

def isDirectory (machine : Machine) (path : Path) : Except Failure Bool :=
  (machine.look path.toString).map (· == some .directory)

def isRegularFile (machine : Machine) (path : Path) : Except Failure Bool :=
  (machine.look path.toString).map fun
    | some (.file _) => true
    | _ => false

/-- Whether a path stands for something that is no directory. -/
def holdsFile (machine : Machine) (path : Path) : Except Failure Bool := do
  return (← machine.pathExists path) && !(← machine.isDirectory path)

/-- Whether a name stands for a program. One that may not be looked up does not. -/
def isProgram (machine : Machine) (name : String) : Bool :=
  match machine.look name with
  | .ok (some (.file file)) => file.executable
  | _ => false

def home (machine : Machine) : String :=
  (machine.environment.get? "HOME").getD machine.accountHome

/-- The home directory of a user; without a name, that of the account. -/
def homeOf? (machine : Machine) (user : String) : Option String :=
  if user = "" then some machine.home else machine.homes.lookup user

/-- The path with a tilde, and the name of a user behind it, at its front replaced by the home
directory. -/
def expandHome (machine : Machine) (path : Path) : Except Failure Path :=
  match path.anchor, (path.parts.head?.getD "").toList with
  | .relative, '~' :: user =>
    if user.contains '\x00' then .error .embeddedNull
    else
      match (machine.homeOf? (.ofList user)).map fun home =>
          Text.dropEndWhile (· = '/') home.toList with
      | none | some ('~' :: _) => .error .noHome
      | some home =>
        let base := Path.ofString (if home.isEmpty then "/" else .ofList home)
        .ok ⟨base.anchor, base.parts ++ path.parts.tail, by
          have := List.all_eq_true.mp path.valid
          rw [List.all_append, base.valid, Bool.true_and]
          exact List.all_eq_true.mpr fun part member => this part (List.mem_of_mem_tail member)⟩
  | _, _ => .ok path

def resolve (machine : Machine) (path : Path) : Except Failure Path :=
  let name := path.toString
  if holdsNull name then .error .embeddedNull
  else
    match machine.disk.canonical? machine.nesting machine.directory name with
    | none => .error .tooDeep
    | some canonical =>
      let resolved := Path.ofString canonical
      if holdsNull resolved.toString then .error .embeddedNull
      else
        match machine.disk.find true machine.directory resolved.toString with
        | .error .linkLoop => .error (.linkLoop resolved.toString)
        | _ => .ok resolved

/-- The directories in which the system looks for a program that is to be started. -/
def startPath (machine : Machine) (environment : Variables) : List String :=
  match environment.get? "PATH" with
  | none => ["/bin", "/usr/bin"]
  | some entries => Text.splitAt machine.pathSeparator entries

/-- The directories in which the caller looks for a program: none if the search path is empty. -/
def searchPath (machine : Machine) : List String :=
  if machine.environment.get? "PATH" = some "" then [] else machine.startPath machine.environment

def programIn (directory name : String) : String :=
  if directory = "" then name
  else if directory.toList.getLast? = some '/' then directory ++ name
  else directory ++ "/" ++ name

/-- The first program of a name on the search path. A name with a slash is taken as it is. -/
def which (machine : Machine) (name : String) : Option String :=
  if name.toList.contains '/' then if machine.isProgram name then some name else none
  else (machine.searchPath.map (programIn · name)).find? machine.isProgram

end Machine

end CheckRouter
