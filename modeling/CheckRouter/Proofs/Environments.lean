import CheckRouter.Proofs.Stages
import CheckRouter.Proofs.Starts

/-!
# Environments of started programs

A scan starts version queries, questions to the sandbox manager and checks. Which environment one of
them gets is read off the machine and the path of that one program: no program that was started
before it, or is running beside it, has a part in it.
-/

namespace CheckRouter

open CheckRouter.Action

namespace Variables

theorem get?_set (environment : Variables) (name other value : String) :
    (set name value environment).get? other =
      if other = name then some value else environment.get? other := by
  induction environment with
  | nil =>
    by_cases same : other = name
    · simp [set, get?, same]
    · simp [set, get?, same, List.lookup_cons, beq_eq_false_iff_ne.mpr same]
  | cons entry rest ih =>
    obtain ⟨key, old⟩ := entry
    simp only [get?] at ih ⊢
    by_cases here : key = name
    · subst here
      by_cases same : other = key <;> simp [set, List.lookup_cons, same, beq_eq_false_iff_ne.mpr]
    · simp only [set, here, ↓reduceIte, List.lookup_cons]
      by_cases same : other = key
      · subst same
        simp [here]
      · simp [beq_eq_false_iff_ne.mpr same, ih]

theorem get?_erase (environment : Variables) (name other : String) :
    (erase name environment).get? other =
      if other = name then none else environment.get? other := by
  induction environment with
  | nil => simp [erase, get?]
  | cons entry rest ih =>
    obtain ⟨key, value⟩ := entry
    simp only [erase, get?, List.filter_cons, List.lookup_cons] at ih ⊢
    by_cases here : key = name
    · subst here
      by_cases same : other = key
      · simpa [same] using ih
      · simp [ih, same, beq_eq_false_iff_ne.mpr]
    · by_cases same : other = key
      · simp [same, here]
      · simp [List.lookup_cons, ih, here, beq_eq_false_iff_ne.mpr same]

end Variables

namespace Virtualenv

/-- A search path with a directory before the entries that are there, if any. -/
def searchFrom (machine : Machine) (directory : String) : Option String → String
  | none | some "" => directory
  | some entries => directory ++ machine.pathSeparator.toString ++ entries

/-- An environment to run a program in: the one of the machine, with the virtual environment of the
program active if an activation script stands beside it. -/
structure Suits (machine : Machine) (program : Path) (environment : Variables) : Prop where
  others : ∀ name, name ≠ "VIRTUAL_ENV" → name ≠ "PATH" → name ≠ "PYTHONHOME" →
    environment.get? name = machine.environment.get? name
  inactive : machine.isRegularFile (program.parent / activationScript machine) = .ok false →
    environment = machine.environment
  root : machine.isRegularFile (program.parent / activationScript machine) = .ok true →
    environment.get? "VIRTUAL_ENV" = some program.parent.parent.toString
  search : machine.isRegularFile (program.parent / activationScript machine) = .ok true →
    environment.get? "PATH" =
      some (searchFrom machine (program.parent.parent / programDirectory machine).toString
        (machine.environment.get? "PATH"))
  home : machine.isRegularFile (program.parent / activationScript machine) = .ok true →
    environment.get? "PYTHONHOME" = none

theorem searchFrom_eq (machine : Machine) (directory : String) (entries : Option String) :
    searchFrom machine directory entries =
      if entries.getD "" = "" then directory
      else directory ++ machine.pathSeparator.toString ++ entries.getD "" := by
  unfold searchFrom
  split
  · rfl
  · rfl
  · next entries filled => exact (if_neg filled).symm

theorem get?_activate (machine : Machine) (ambient : Variables) (root : Path) (name : String) :
    (activate machine ambient (some root)).get? name =
      if name = "PYTHONHOME" then none
      else if name = "PATH" then
        some (searchFrom machine (root / programDirectory machine).toString (ambient.get? "PATH"))
      else if name = "VIRTUAL_ENV" then some root.toString
      else ambient.get? name := by
  simp only [activate, Variables.get?_erase, Variables.get?_set, searchFrom_eq]

end Virtualenv

namespace Checker

open Virtualenv

/-- An environment for a program is made only once it is known whether its virtual environment is
to be active in it, and then suits it. -/
theorem suits_environmentFor {machine : Machine} {program : Path} {environment : Variables}
    (made : environmentFor machine program = .ok environment) :
    Suits machine program environment := by
  unfold environmentFor findRoot at made
  cases active : machine.isRegularFile (program.parent / activationScript machine) with
  | error failure =>
    rw [active] at made
    cases made
  | ok marked =>
    rw [active] at made
    cases marked with
    | false =>
      cases made
      have lacking : machine.isRegularFile (program.parent / activationScript machine) ≠ .ok true :=
        by simp [active]
      exact ⟨fun _ _ _ _ => rfl, fun _ => rfl, (absurd · lacking), (absurd · lacking),
        (absurd · lacking)⟩
    | true =>
      cases made
      constructor
      · intro name root search home
        exact (get?_activate machine _ _ name).trans (by rw [if_neg home, if_neg search, if_neg root])
      · intro lacking
        rw [active] at lacking
        cases lacking
      · intro _
        exact (get?_activate machine _ _ _).trans (by simp)
      · intro _
        exact (get?_activate machine _ _ _).trans (by simp)
      · intro _
        exact (get?_activate machine _ _ _).trans (by simp)

end Checker

/-! ## Actions that start programs -/

variable {α β : Type} {kind : Launch → Prop}

def Starts (kind : Launch → Prop) (action : Action α) : Prop :=
  ∀ world, ∃ more, (action.run world).2.launches = world.launches ++ more ∧
    ∀ launch ∈ more, kind launch

namespace Starts

theorem of_keeps {action : Action α} (keeps : Keeps World.launches action) : Starts kind action :=
  fun world => ⟨[], by rw [keeps world, List.append_nil], by simp⟩

theorem bind {action : Action α} {next : α → Action β} (first : Starts kind action)
    (second : ∀ value, Starts kind (next value)) : Starts kind (action >>= next) := by
  intro world
  obtain ⟨more, started, kinds⟩ := first world
  rw [run_bind]
  cases ran : action.run world with
  | mk outcome after =>
    rw [ran] at started
    cases outcome with
    | error failure => exact ⟨more, started, kinds⟩
    | ok value =>
      obtain ⟨others, later, also⟩ := second value after
      refine ⟨more ++ others, ?_, fun launch member => ?_⟩
      · rw [later, started, List.append_assoc]
      · exact (List.mem_append.mp member).elim (kinds launch) (also launch)

theorem lift_bind {outcome : Except Failure α} {next : α → Action β}
    (second : ∀ value, outcome = .ok value → Starts kind (next value)) :
    Starts kind ((liftM outcome : Action α) >>= next) := by
  cases outcome with
  | error failure => exact .of_keeps (keeps_throw failure)
  | ok value => exact second value rfl

theorem ite {condition : Prop} [Decidable condition] {action other : Action α}
    (one : Starts kind action) (two : Starts kind other) :
    Starts kind (if condition then action else other) := by
  split
  · exact one
  · exact two

theorem of_option {action : Action α}
    (starts : ∀ world, ∃ part : Option Launch,
      (action.run world).2.launches = world.launches ++ part.toList ∧
        ∀ launch ∈ part, kind launch) :
    Starts kind action := by
  intro world
  obtain ⟨part, started, kinds⟩ := starts world
  exact ⟨part.toList, started, fun launch member => kinds launch (Option.mem_toList.mp member)⟩

end Starts

/-! ## Programs of a scan -/

/-- A checker is run in the project root, in an environment that suits its path. -/
structure Launch.Homed (launch : Launch) (machine : Machine) (settings : Settings)
    (program : Path) : Prop where
  directory : launch.directory = some settings.projectRoot.toString
  environment : ∃ environment, launch.environment = some environment ∧
    Checker.environmentFor machine program = .ok environment ∧
      Virtualenv.Suits machine program environment

/-- The sandbox manager is run in a directory, in the environment of the machine with a depth. -/
structure Launch.Lodged (launch : Launch) (machine : Machine) (settings : Settings)
    (directory : Path) : Prop where
  directory : launch.directory = some directory.toString
  environment : ∃ environment : Variables, launch.environment = some environment ∧
    environment.get? "PIPENV_MAX_DEPTH" = some (toString settings.sandboxMaxDepth) ∧
      ∀ name, name ≠ "PIPENV_MAX_DEPTH" → environment.get? name = machine.environment.get? name

/-- A program that a scan of some files may start, and where it is run. -/
inductive Equipped (machine : Machine) (settings : Settings) (files : List String)
    (launch : Launch) : Prop
  | query (executable : String) (path : Path)
      (resolved : settings.resolve machine executable = .ok path)
      (asks : Checker.IsQuery { settings } machine executable launch)
      (homed : launch.Homed machine settings path)
  | question (file : String) (directory : Path) (question : Sandbox.Question)
      (given : file ∈ files)
      (resolved : machine.resolve (Path.ofString file).parent = .ok directory)
      (asks : Command.lookup machine [settings.sandboxCommand, question.option] =
        .ok launch.arguments)
      (lodged : launch.Lodged machine settings directory)
  | check (bucket : Bucket) (path : Path)
      (resolved : settings.resolve machine bucket.executable = .ok path)
      (checks : Checker.checkOf { settings } machine bucket = .ok launch)
      (homed : launch.Homed machine settings path)

variable {machine : Machine} {checker : Checker} {files : List String}

namespace Checker

theorem homed {path : Path} {launch : Launch} {environment : Variables}
    (directory : launch.directory = some checker.settings.projectRoot.toString)
    (surroundings : launch.environment = some environment)
    (made : environmentFor machine path = .ok environment) :
    launch.Homed machine checker.settings path :=
  ⟨directory, environment, surroundings, made, suits_environmentFor made⟩

theorem equipped_of_isQuery {executable : String} {launch : Launch}
    (asks : checker.IsQuery machine executable launch) :
    Equipped machine checker.settings files launch := by
  have query := asks
  obtain ⟨path, words, arguments, environment, resolved, worded, found, made, rfl⟩ := asks
  exact .query executable path resolved query (homed rfl rfl made)

theorem equipped_of_checkOf {bucket : Bucket} {launch : Launch}
    (checks : checker.checkOf machine bucket = .ok launch) :
    Equipped machine checker.settings files launch := by
  obtain ⟨command, options, arguments, prepared, found, rfl⟩ := checkOf_eq_ok.mp checks
  obtain ⟨path, extra, environment, resolved, -, made, -, rfl⟩ := prepare_eq_ok.mp prepared
  exact .check bucket path resolved checks (homed rfl rfl made)

end Checker

variable (machine : Machine) (checker : Checker) (files : List String) (token : Token)

theorem Preflight.starts_check (notifies : Bool) :
    Starts (Equipped machine checker.settings files) (check machine checker notifies) := by
  have asks (name : String) :
      Starts (Equipped machine checker.settings files) (checker.validate machine name) := by
    refine .of_option fun world => ?_
    obtain ⟨query, started, queries⟩ := checker.validate_launches machine name world
    exact ⟨query, started, fun launch member => Checker.equipped_of_isQuery (queries launch member)⟩
  refine (Starts.of_keeps (keeps_executable machine silent_launches.toUnnoting _)).bind
    fun name => ?_
  have ends : Starts (Equipped machine checker.settings files) (do
      if notifies then advise machine checker.settings
      return ⟨name, false⟩ : Action Availability) :=
    .of_keeps (.ite ((keeps_advise machine silent_launches.toUnnoting _).bind fun _ => keeps_pure _)
      (keeps_pure _))
  exact .ite ((asks name).bind fun works => .ite (.of_keeps (keeps_pure _)) ends) ends

namespace Sandbox

variable {machine} in
theorem lodged_manner {settings : Settings} {manager : Manager} {directory : Path}
    (depth : manager.maxDepth = settings.sandboxMaxDepth) (arguments : List String) :
    ((manner machine manager directory).toLaunch arguments).Lodged machine settings directory := by
  refine ⟨rfl, _, rfl, ?_, fun name other => ?_⟩
  · rw [Variables.get?_set, if_pos rfl, depth]
  · rw [Variables.get?_set, if_neg other]

theorem starts_probe (memo : Memo) {file : String} (given : file ∈ files) :
    Starts (Equipped machine checker.settings files)
      (probe machine (Scan.router checker.settings token).manager (some token) memo
        (Path.ofString file).parent) := by
  refine .lift_bind fun directory resolved => ?_
  have asks (question : Question) :
      Starts (Equipped machine checker.settings files)
        (ask machine (Scan.router checker.settings token).manager (some token) directory
          question) := by
    refine .of_option fun world => ?_
    rw [ask_eq]
    obtain ⟨part, started, each⟩ := Command.attempt_run_launches
      (keeps_heard machine silent_launches.toUnnoting directory question) machine (some token)
      (manner machine (Scan.router checker.settings token).manager directory)
      [checker.settings.sandboxCommand, question.option] world
    refine ⟨part, started, fun launch member => ?_⟩
    obtain ⟨arguments, found, rfl⟩ := each launch member
    exact .question file directory question given resolved found (lodged_manner rfl arguments)
  split
  · exact .of_keeps (keeps_pure _)
  · exact (asks .environment).bind fun _ => (asks .project).bind fun _ => .of_keeps (keeps_pure _)

end Sandbox

namespace Routing

variable (project : Toolchain)

theorem starts_resolve (memory : Memory) {file : String} (given : file ∈ files) :
    Starts (Equipped machine checker.settings files)
      (resolve machine (Scan.router checker.settings token) memory (Path.ofString file).parent
        project) := by
  refine .ite (.of_keeps (keeps_pure _)) ?_
  split
  · exact .of_keeps (keeps_pure _)
  · refine (Sandbox.starts_probe machine checker files token _ given).bind fun found => .of_keeps ?_
    exact (keeps_executableFor machine silent_launches.toUnnoting _ _).bind fun _ =>
      (keeps_lift _).bind fun _ => keeps_pure _

theorem starts_distribute (memory : Memory) (buckets : List Bucket) {rest : List String}
    (given : ∀ file ∈ rest, file ∈ files) :
    Starts (Equipped machine checker.settings files)
      (distribute machine (Scan.router checker.settings token) project memory buckets rest) := by
  induction rest generalizing memory buckets with
  | nil => exact .of_keeps (keeps_pure _)
  | cons file rest ih =>
    obtain ⟨here, there⟩ := List.forall_mem_cons.mp given
    have goesOn :=
      (starts_resolve machine checker files token project memory here).bind fun found =>
        ih found.2 (insert found.1 file buckets) there
    refine .lift_bind fun there _ => ?_
    exact .ite (.bind (.of_keeps (keeps_throw _)) fun _ => goesOn) goesOn

theorem starts_partition :
    Starts (Equipped machine checker.settings files)
      (partition machine (Scan.router checker.settings token) project files) := by
  refine (starts_distribute machine checker files token project _ _ fun _ member => member).bind
    fun buckets => .of_keeps ?_
  exact .ite ((silent_launches.keeps_record _ _ _).bind fun _ => keeps_pure _) (keeps_pure _)

end Routing

namespace Scan

theorem starts_execute (buckets : List Bucket) :
    Starts (Equipped machine checker.settings files) (execute machine checker token buckets) := by
  intro world
  obtain ⟨more, started, each⟩ :=
    (checksIn_execute buckets world : checker.ChecksIn machine buckets world
      ((execute machine checker token buckets).run world).2).exists_bucket
  refine ⟨more, started, fun launch member => ?_⟩
  obtain ⟨bucket, -, checks⟩ := each launch member
  exact Checker.equipped_of_checkOf checks

theorem starts_check (executable : String) :
    Starts (Equipped machine checker.settings files)
      (check machine checker token executable files) := by
  refine .lift_bind fun configFile _ => ?_
  refine (Routing.starts_partition machine checker files token _).bind fun buckets => ?_
  refine (starts_execute machine checker files token buckets).bind fun issues => .of_keeps ?_
  exact (silent_launches.keeps_record _ _ _).bind fun _ => keeps_pure _

/-- Whatever a scan has started before, the next program is run in the place that its own path or
question gives it, and the environment of the machine is that of the whole scan. -/
theorem run_equipped (machine : Machine) (settings : Settings) (notifies : Bool)
    (given : Option Token) (files : List String) (world : World) :
    ∃ more, ((run machine settings notifies given files).run world).2.launches =
        world.launches ++ more ∧
      ∀ launch ∈ more, Equipped machine settings files launch := by
  suffices starts : Starts (Equipped machine settings files)
      (run machine settings notifies given files) from starts world
  -- A scan that is given no token makes one of its own; no program is started for it.
  have opens : Starts (Equipped machine settings files) (tokenFor given) := by
    cases given with
    | none => exact .of_keeps fun _ => rfl
    | some token => exact .of_keeps (keeps_pure token)
  unfold run
  split
  · exact .of_keeps fun _ => rfl
  · refine opens.bind fun token => ?_
    let checker : Checker := ⟨settings, notifies, some token⟩
    refine (Preflight.starts_check machine checker files notifies).bind fun found => .ite ?_ ?_
    · exact starts_check machine checker files token found.executable
    · exact .of_keeps ((silent_launches.keeps_record _ _ _).bind fun _ => keeps_pure _)

end Scan

end CheckRouter
