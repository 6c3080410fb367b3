import CheckRouter.Proofs.Grouping
import CheckRouter.Proofs.Stages

/-!
# Sources seen from the project root

Sources are looked for from the working directory, as paths. Checkers read them from the project
root, under the names that were given. An absolute name means one file to both; a relative one does
so where the working directory is the project root.
-/

namespace CheckRouter

/-! ## Names of files -/

namespace FileTree

def isIdle (step : String) : Bool := step = "" || step = "."

/-- Drops the steps that lead nowhere. The last one stays, for it asks for a directory. -/
def condense : List String → List String
  | [] => []
  | [step] => [step]
  | step :: next :: rest =>
    if isIdle step then condense (next :: rest) else step :: condense (next :: rest)

end FileTree

namespace Disk

open FileTree

def Walk.condense : Walk → Walk
  | .atLink directory target rest => .atLink directory target (FileTree.condense rest)
  | walk => walk

variable (disk : Disk) (followLast : Bool)

theorem walk_of_ne_directory {place : Place} {node : Node} (other : node ≠ .directory)
    {steps : List String} (more : steps ≠ []) :
    disk.walk followLast place node steps = .refused .notDirectory := by
  cases steps with
  | nil => exact absurd rfl more
  | cons step rest => rw [walk, if_pos other]

end Disk

/-! ## Names as paths -/

namespace Path

open FileTree

end Path

namespace Disk

open FileTree

end Disk

namespace Scan

end Scan

end CheckRouter
