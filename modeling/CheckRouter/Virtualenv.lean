import CheckRouter.Machine

/-!
# Virtual environments

A virtual environment keeps its programs in one directory, beside a script that activates it.
Running one of them means running it with that environment active.
-/

namespace CheckRouter.Virtualenv

def programDirectory (machine : Machine) : String :=
  if machine.windows then "Scripts" else "bin"

def fileName (machine : Machine) (program : String) : String :=
  if machine.windows then program ++ ".exe" else program

def activationScript (machine : Machine) : String :=
  if machine.windows then "activate.bat" else "activate"

def checkerName : String := "mypy"

def checkerIn (machine : Machine) (root : Path) : Path :=
  root / programDirectory machine / fileName machine checkerName

/-- The environment to which a program belongs: the one whose activation script stands beside it. -/
def findRoot (machine : Machine) (program : Path) : Except Failure (Option Path) := do
  let marked ← machine.isRegularFile (program.parent / activationScript machine)
  return if marked then some program.parent.parent else none

/-- The environment variables for running a program with an environment, if one is given, active. -/
def activate (machine : Machine) (ambient : Variables) : Option Path → Variables
  | none => ambient
  | some root =>
    let programs := (root / programDirectory machine).toString
    let rest := (ambient.get? "PATH").getD ""
    let search :=
      if rest = "" then programs else programs ++ machine.pathSeparator.toString ++ rest
    Variables.erase "PYTHONHOME"
      (Variables.set "PATH" search (Variables.set "VIRTUAL_ENV" root.toString ambient))

/-- The environment that is known to be that of a program. -/
def rootOf? (machine : Machine) (program : Path) : Option Path :=
  match findRoot machine program with
  | .ok root => root
  | .error _ => none

/-- The environment variables for running a program with its environment, if one is known, active. -/
def environment (machine : Machine) (program : Path) (ambient : Variables) : Variables :=
  activate machine ambient (rootOf? machine program)

end CheckRouter.Virtualenv
