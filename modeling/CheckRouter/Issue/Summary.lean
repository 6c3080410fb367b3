import CheckRouter.Issue

/-!
# Summary of issues

One sentence tells how many issues of each severity there are and in how many files.
-/

namespace CheckRouter.Issue

/-- A count with its noun, in the plural unless the count is one. -/
def counted (n : Nat) (noun : String) : String :=
  toString n ++ " " ++ noun ++ if n = 1 then "" else "s"

def count (severity : Severity) (issues : List Issue) : Nat :=
  issues.countP (·.severity = severity)

def paths (issues : List Issue) : List String :=
  (issues.map (·.path)).eraseDups

/-- The counts of the severities that occur, the gravest first. -/
def counts (issues : List Issue) : List (Severity × Nat) :=
  (Severity.all.map fun severity => (severity, count severity issues)).filter (0 < ·.2)

def summary (issues : List Issue) : String :=
  if issues.isEmpty then "Success: no issues found"
  else
    "Found " ++
      ", ".intercalate ((counts issues).map fun (severity, n) => counted n severity.word) ++
      " in " ++ counted (paths issues).length "file"

theorem counts_nil : counts [] = [] := by decide

end CheckRouter.Issue
