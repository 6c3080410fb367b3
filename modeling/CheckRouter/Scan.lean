import CheckRouter.Pool.Run
import CheckRouter.Preflight

/-!
# Scans

A scan checks source files, each with the toolchain of its directory, and gives the issues in the
order of the buckets and, within a bucket, as the checker printed them.
-/

namespace CheckRouter.Scan

def inTurn (machine : Machine) (checker : Checker) (token : Token) :
    List Bucket → Action (List Issue)
  | [] => return []
  | bucket :: rest => do
    Action.checkpoint (some token)
    let issues ← checker.execute machine bucket
    return issues ++ (← inTurn machine checker token rest)

/-- Checks buckets, several at a time if the settings allow it. -/
def execute (machine : Machine) (checker : Checker) (token : Token) (buckets : List Bucket) :
    Action (List Issue) :=
  if min checker.settings.jobs buckets.length ≤ 1 then inTurn machine checker token buckets
  else Pool.run machine checker token buckets

def router (settings : Settings) (token : Token) : Routing.Router :=
  { manager := ⟨settings.sandboxCommand, settings.sandboxMaxDepth, settings.probeTimeout⟩
    token := some token
    autodetect := settings.autodetect }

def check (machine : Machine) (checker : Checker) (token : Token) (executable : String)
    (files : List String) : Action (List Issue) := do
  let settings := checker.settings
  let configFile ← settings.configFile machine
  let buckets ← Routing.partition machine (router settings token) ⟨executable, configFile⟩ files
  let issues ← execute machine checker token buckets
  Action.record .info .scanner
    ("Running mypy" ++ (if settings.autodetect then " (w/ environments)" else "") ++
      " took Nms on " ++ toString files.length ++ " files and found " ++
      toString issues.length ++ " issues")
  return issues

/-- The token of a scan: the one of the caller or, without one, a new one. -/
def tokenFor : Option Token → Action Token
  | some token => return token
  | none => Action.newToken []

/-- The issues of some files; none when no checker can be used. -/
def run (machine : Machine) (settings : Settings) (notifies : Bool) (token : Option Token)
    (files : List String) : Action (List Issue) := do
  if files.isEmpty then throw .noSources
  let token ← tokenFor token
  let checker : Checker := ⟨settings, notifies, some token⟩
  let availability ← Preflight.check machine checker notifies
  if availability.available then
    check machine checker token availability.executable files
  else
    Action.record .info .scanner
      ("mypy is not available; skipping scan of " ++ toString files.length ++ " files")
    return []

def isAvailable (machine : Machine) (settings : Settings) (notifies : Bool)
    (token : Option Token) : Action Bool := do
  let checker : Checker := ⟨settings, notifies, token⟩
  return (← Preflight.check machine checker false).available

end CheckRouter.Scan
