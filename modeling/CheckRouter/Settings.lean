import CheckRouter.Machine

/-!
# Settings

The settings of a project say which checker to use, how to run it, and how sandboxes are asked. A
path among them is seen from the project root.
-/

namespace CheckRouter

structure Settings where
  projectRoot : Path
  executablePath : String := ""
  configFilePath : String := ""
  extraArguments : String := ""
  autodetect : Bool := false
  interpreterPath : String := ""
  sandboxCommand : String := "pipenv"
  sandboxMaxDepth : Int := 100
  timeout : Option Binary64 := none
  probeTimeout : Option Binary64 := none
  jobs : Int := 1
  sandboxMaxDepth_pos : 1 ≤ sandboxMaxDepth := by decide
  timeout_pos : ∀ limit ∈ timeout, limit.isPositive = true := by simp
  probeTimeout_pos : ∀ limit ∈ probeTimeout, limit.isPositive = true := by simp
  jobs_pos : 1 ≤ jobs := by decide

namespace Settings

def names : List String :=
  ["project_root", "executable_path", "config_file_path", "extra_arguments",
    "autodetect_isolated_environments", "interpreter_path", "sandbox_command", "sandbox_max_depth",
    "timeout", "probe_timeout", "jobs"]

def pathField : Value → Except Complaint Path
  | .text s => .ok (Path.ofString s)
  | _ => .error .notPath

def limitField (value : Value) :
    Except Complaint { limit : Option Binary64 // ∀ x ∈ limit, x.isPositive = true } :=
  match value with
  | .null => .ok ⟨none, by simp⟩
  | value => (Field.positive value).map fun x => ⟨some x.1, by simpa using x.2⟩

/-- Reads settings from entries; `root` is the project root where they name none. Other names than
those of settings are faults. -/
def ofEntries (root : Path) (entries : Entries) : Except (List Fault) Settings :=
  let text (name default : String) := Field.read entries name (.ok default) Field.text
  let limit (name : String) := Field.read entries name (.ok ⟨none, by simp⟩) limitField
  let projectRoot := Field.read entries "project_root" (.ok root) pathField
  let executablePath := text "executable_path" ""
  let configFilePath := text "config_file_path" ""
  let extraArguments := text "extra_arguments" ""
  let autodetect :=
    Field.read entries "autodetect_isolated_environments" (.ok false) Field.flag
  let interpreterPath := text "interpreter_path" ""
  let sandboxCommand := text "sandbox_command" "pipenv"
  let sandboxMaxDepth :=
    Field.read entries "sandbox_max_depth" (.ok ⟨100, by decide⟩) (Field.integer 1)
  let timeout := limit "timeout"
  let probeTimeout := limit "probe_timeout"
  let jobs := Field.read entries "jobs" (.ok ⟨1, by decide⟩) (Field.integer 1)
  let others := (entries.filter fun entry => !names.contains entry.1).map
    fun entry => (⟨entry.1, .unexpected, entry.2.shown⟩ : Fault)
  match others, projectRoot, executablePath, configFilePath, extraArguments, autodetect,
    interpreterPath, sandboxCommand, sandboxMaxDepth, timeout, probeTimeout, jobs with
  | [], .ok projectRoot, .ok executablePath, .ok configFilePath, .ok extraArguments, .ok autodetect,
    .ok interpreterPath, .ok sandboxCommand, .ok ⟨sandboxMaxDepth, sandboxMaxDepth_pos⟩,
    .ok ⟨timeout, timeout_pos⟩, .ok ⟨probeTimeout, probeTimeout_pos⟩, .ok ⟨jobs, jobs_pos⟩ =>
    .ok {
      projectRoot, executablePath, configFilePath, extraArguments, autodetect, interpreterPath
      sandboxCommand, sandboxMaxDepth, timeout, probeTimeout, jobs, sandboxMaxDepth_pos
      timeout_pos, probeTimeout_pos, jobs_pos }
  | _, _, _, _, _, _, _, _, _, _, _, _ =>
    .error (Field.faults projectRoot ++ Field.faults executablePath ++
      Field.faults configFilePath ++ Field.faults extraArguments ++ Field.faults autodetect ++
      Field.faults interpreterPath ++ Field.faults sandboxCommand ++
      Field.faults sandboxMaxDepth ++ Field.faults timeout ++ Field.faults probeTimeout ++
      Field.faults jobs ++ others)

/-- The path that a text among the settings means. -/
def resolve (settings : Settings) (machine : Machine) (text : String) : Except Failure Path :=
  (machine.expandHome (Path.ofString text)).map settings.projectRoot.join

def arguments (settings : Settings) : Except Failure (List String) :=
  (Text.ShellWords.split settings.extraArguments).mapError (.badArguments settings.extraArguments)

/-- The configuration file of the project; no file is the empty text. -/
def configFile (settings : Settings) (machine : Machine) : Except Failure String := do
  if settings.configFilePath = "" then return ""
  let path ← settings.resolve machine settings.configFilePath
  if ← machine.isRegularFile path then return path.toString
  throw (.missingConfigFile path.toString)

end Settings

end CheckRouter
