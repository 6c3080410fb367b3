import CheckRouter.Checker

/-!
# Preflight

Before a scan the checker of the project is found and asked for its version. When it cannot be used
the user is told to set an interpreter, or to install the checker for the one that is set.
-/

namespace CheckRouter

structure Availability where
  executable : String
  available : Bool
  deriving DecidableEq, Repr

namespace Preflight

/-- The interpreter that the settings name, if it exists. -/
def interpreter? (machine : Machine) (settings : Settings) : Except Failure (Option Path) := do
  if settings.interpreterPath = "" then return none
  let path ← settings.resolve machine settings.interpreterPath
  return if ← machine.isRegularFile path then some path else none

def searched (machine : Machine) : Action String := do
  match machine.which Virtualenv.checkerName with
  | none =>
    Action.record .info .availability
      ("No " ++ Virtualenv.checkerName ++ " executable found on PATH")
    return ""
  | some program =>
    Action.record .info .availability ("Detected mypy path: " ++ program)
    return program

/-- The checker of a project, or the empty text. One that the settings name is taken as it is; the
interpreter of a virtual environment stands for the checker beside it. -/
def executable (machine : Machine) (settings : Settings) : Action String := do
  if settings.executablePath != "" then return settings.executablePath
  match ← interpreter? machine settings with
  | none => searched machine
  | some interpreter =>
    match ← Virtualenv.findRoot machine interpreter with
    | none => searched machine
    | some _ =>
      let candidate :=
        interpreter.parent / Virtualenv.fileName machine Virtualenv.checkerName
      return if ← machine.isRegularFile candidate then candidate.toString else ""

/-- Tells the user what to do about a checker that cannot be used. -/
def advise (machine : Machine) (settings : Settings) : Action Unit := do
  match ← interpreter? machine settings with
  | none => Action.notify .noInterpreter
  | some _ => Action.notify .installChecker

/-- Finds the checker of a project and asks whether it works. -/
def check (machine : Machine) (checker : Checker) (notifies : Bool) : Action Availability := do
  let found ← executable machine checker.settings
  if found != "" then
    if ← checker.validate machine found then return ⟨found, true⟩
  if notifies then advise machine checker.settings
  return ⟨found, false⟩

end Preflight

end CheckRouter
