import CheckRouter.Settings
import CheckRouter.Toml.Document

/-!
# Settings from a project file

The project file at the root of a project may hold a section with settings. What the caller sets
goes before the file, and the root itself is never taken from either.
-/

namespace CheckRouter.ProjectFile

def fileName : String := "pyproject.toml"

def sectionName : String := "mypy-runner"

/-- A key of the section with underscores for hyphens. -/
def settingName (key : String) : String := key.map fun c => if c = '-' then '_' else c

/-- A section with its keys as names of settings. Of two keys with the same name the later wins. -/
def normalise (entries : Entries) : Entries :=
  Entries.update [] (entries.map fun entry => (settingName entry.1, entry.2))

/-- The section of a document; nothing where there is none. -/
def sectionOf (path : String) (document : Entries) : Except Failure Entries :=
  match document.get? "tool" with
  | some (.table tools) =>
    match Entries.get? tools sectionName with
    | none => .ok []
    | some (.table entries) => .ok (normalise entries)
    | some _ => .error (.sectionNotTable path)
  | _ => .ok []

def document (machine : Machine) (path : String) (content : List UInt8) :
    Except Failure Entries := do
  let source ← (Text.Utf8.decode content).mapError Failure.undecodable
  (Toml.parse machine.nesting source).mapError fun
    | .malformed reason left => .malformedProjectFile path (Toml.mistake source reason left)
    | .oversized digits => .oversizedNumeral digits
    | .nested => .tooDeep

def readSection (machine : Machine) (root : Path) : Except Failure Entries := do
  let path := (root / fileName).toString
  match ← machine.look path with
  | some (.file file) =>
    if file.unreadable then throw (.system .accessDenied path)
    sectionOf path (← document machine path file.content)
  | _ => return []

def isGiven : Value → Bool
  | .null => false
  | _ => true

def merge (file overrides : Entries) : Entries :=
  (file.update (overrides.filter fun entry => isGiven entry.2)).filter fun entry =>
    entry.1 != "project_root"

def load (machine : Machine) (root : Path) (overrides : Entries) : Except Failure Settings := do
  let root ← machine.resolve root
  let file ← readSection machine root
  (Settings.ofEntries root (merge file overrides)).mapError .rejectedSettings

end CheckRouter.ProjectFile
