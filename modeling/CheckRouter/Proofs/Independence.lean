import CheckRouter.Proofs.Answers
import CheckRouter.Proofs.Launches

/-!
# Toolchains and the answers they come from

The executable of a directory depends on one answer of the sandbox manager and the configuration
file on the other. Each is the artifact in the place that its answer names, or that of the project.
-/

namespace CheckRouter.Routing

open CheckRouter.Action
open CheckRouter.Sandbox (Findings Question Reports)

variable {machine : Machine} {router : Router} {directory : Path} {project toolchain : Toolchain}
  {reports : Path → Prop} {artifact : Path → Path} {fallback : String}

/-- The text that is chosen is that of an artifact in a place that is reported, or the fallback if
no such place holds one. -/
def Chosen (machine : Machine) (reports : Path → Prop) (artifact : Path → Path)
    (fallback text : String) : Prop :=
  (∃ root, reports root ∧ machine.isRegularFile (artifact root) = .ok true ∧
      text = (artifact root).toString) ∨
    (∀ root, reports root → machine.isRegularFile (artifact root) = .ok false) ∧ text = fallback

theorem Chosen.unique {one two : String} (chosen : Chosen machine reports artifact fallback one)
    (also : Chosen machine reports artifact fallback two)
    (same : ∀ root other, reports root → reports other → root = other) : one = two := by
  rcases chosen with ⟨root, reported, held, rfl⟩ | ⟨lacking, rfl⟩ <;>
    rcases also with ⟨other, again, holds, rfl⟩ | ⟨lacks, rfl⟩
  · rw [same root other reported again]
  · rw [lacks root reported] at held
    cases held
  · rw [lacking other again] at holds
    cases holds
  · rfl

/-- What is chosen for a place that was found or not. -/
def pick (machine : Machine) (artifact : Path → Path) (fallback : String) :
    Option Path → Except Failure String
  | none => .ok fallback
  | some root => do
    return if ← machine.isRegularFile (artifact root) then (artifact root).toString else fallback

theorem chosen_pick {found : Option Path} {text : String}
    (answers : ∀ root, found = some root ↔ reports root)
    (picked : pick machine artifact fallback found = .ok text) :
    Chosen machine reports artifact fallback text := by
  cases found with
  | none =>
    cases picked
    refine .inr ⟨fun root reported => ?_, rfl⟩
    cases (answers root).mpr reported
  | some root =>
    obtain ⟨there, held, picked⟩ := bind_eq_ok.mp picked
    cases there with
    | true =>
      cases picked
      exact .inl ⟨root, (answers root).mp rfl, held, rfl⟩
    | false =>
      cases picked
      refine .inr ⟨fun other reported => ?_, rfl⟩
      cases (answers other).mpr reported
      exact held

theorem configFor_eq (machine : Machine) (findings : Findings) (fallback : String) :
    configFor machine findings fallback =
      pick machine (· / "mypy.ini") fallback findings.project := by
  unfold configFor
  cases findings.project <;> rfl

theorem executableFor_outcome (machine : Machine) (findings : Findings) (fallback : String)
    (world : World) :
    ((executableFor machine findings fallback).run world).1 =
      pick machine (Virtualenv.checkerIn machine) fallback findings.environment := by
  unfold executableFor
  cases findings.environment with
  | none => rfl
  | some root =>
    dsimp only [pick]
    rw [run_bind, run_lift]
    cases machine.isRegularFile (Virtualenv.checkerIn machine root) with
    | error failure => rfl
    | ok there => cases there <;> rfl

/-- A router may find a toolchain for a directory whose toolchain it has not kept. -/
def Finds (machine : Machine) (router : Router) (project : Toolchain) (directory : Path)
    (toolchain : Toolchain) : Prop :=
  ∃ memory after world last, memory.memo.Learnt machine router.manager ∧
    memory.cache.bind (Cache.get? · directory) = none ∧
      (resolve machine router memory directory project).run world = (.ok (toolchain, after), last)

theorem finds_of_unlearnt (world : World)
    (ran : ((resolve machine router {} directory project).run world).1.map Prod.fst =
      .ok toolchain) :
    Finds machine router project directory toolchain := by
  cases found : (resolve machine router {} directory project).run world with
  | mk outcome last =>
    rw [found] at ran
    cases outcome with
    | error failure => cases ran
    | ok result =>
      cases ran
      exact ⟨{}, _, _, _, .nil, rfl, found⟩

theorem Finds.chosen (auto : router.autodetect = true)
    (finds : Finds machine router project directory toolchain) :
    ∃ key, machine.resolve directory = .ok key ∧
      Chosen machine (Reports machine router.manager key .environment)
        (Virtualenv.checkerIn machine) project.executable toolchain.executable ∧
      Chosen machine (Reports machine router.manager key .project) (· / "mypy.ini")
        project.configFile toolchain.configFile := by
  obtain ⟨memory, after, world, last, learnt, uncached, ran⟩ := finds
  rw [resolve_uncached auto uncached] at ran
  obtain ⟨⟨findings, memo⟩, between, probed, ran⟩ := (run_bind_eq_ok _).mp ran
  obtain ⟨executable, before, named, ran⟩ := (run_bind_eq_ok _).mp ran
  obtain ⟨configFile, also, set, ran⟩ := (run_bind_eq_ok _).mp ran
  cases ran
  obtain ⟨key, resolved, faithful⟩ := learnt.faithful_of_probe probed
  refine ⟨key, resolved, ?_, ?_⟩
  · have found := executableFor_outcome machine findings project.executable between
    rw [named] at found
    exact chosen_pick (faithful .environment) found.symm
  · rw [run_lift, configFor_eq] at set
    exact chosen_pick (faithful .project) (congrArg Prod.fst set)

/-! ## Machines that answer one question alike -/

/-- The programs of two machines behave alike, but for those that answer a question. -/
def AlikeBut (question : Question) (respond others : Launch → Except SystemError Behaviour) :
    Prop :=
  ∀ launch, launch.arguments.tail ≠ [question.option] → respond launch = others launch

variable {question asked : Question} {others : Launch → Except SystemError Behaviour}

theorem AlikeBut.opening_iff (alike : AlikeBut question machine.respond others)
    (different : asked ≠ question) (manager : Sandbox.Manager) (key : Path)
    (arguments : List String) (behaviour : Behaviour) :
    Sandbox.opening { machine with respond := others } manager key asked =
        .ok (arguments, behaviour) ↔
      Sandbox.opening machine manager key asked = .ok (arguments, behaviour) := by
  rw [Sandbox.opening, Sandbox.opening, Command.opening_eq_ok, Command.opening_eq_ok]
  refine and_congr_right fun found => and_congr_right fun _ => ?_
  have tail : arguments.tail = [asked.option] := Command.tail_lookup found
  have other : arguments.tail ≠ [question.option] := by
    rw [tail]
    cases asked <;> cases question <;> first | exact absurd rfl different | decide
  rw [alike ((Sandbox.manner machine manager key).toLaunch arguments) other]
  exact Iff.rfl

theorem AlikeBut.reports_iff (alike : AlikeBut question machine.respond others)
    (different : asked ≠ question) (manager : Sandbox.Manager) (key root : Path) :
    Reports { machine with respond := others } manager key asked root ↔
      Reports machine manager key asked root := by
  unfold Reports Sandbox.Prints
  simp only [alike.opening_iff different]
  exact Iff.rfl

theorem chosen_respond_iff {text : String} :
    Chosen { machine with respond := others } reports artifact fallback text ↔
      Chosen machine reports artifact fallback text :=
  Iff.rfl

/-- The executable and the configuration file of a directory are those in the places that the manager
reports, or those of the project. What the manager does when it is asked for the one has no bearing
on the other. -/
theorem resolve_independent (auto : router.autodetect = true)
    (finds : Finds machine router project directory toolchain) :
    (∃ key, machine.resolve directory = .ok key ∧
      Chosen machine (Reports machine router.manager key .environment)
        (Virtualenv.checkerIn machine) project.executable toolchain.executable ∧
      Chosen machine (Reports machine router.manager key .project) (· / "mypy.ini")
        project.configFile toolchain.configFile) ∧
    ∀ question others found, AlikeBut question machine.respond others →
      Finds { machine with respond := others } router project directory found →
        match question with
        | .environment => found.configFile = toolchain.configFile
        | .project => found.executable = toolchain.executable := by
  have chosen := finds.chosen auto
  refine ⟨chosen, fun question others found alike also => ?_⟩
  obtain ⟨key, resolved, executable, config⟩ := chosen
  obtain ⟨same, again, otherExecutable, otherConfig⟩ := also.chosen auto
  cases resolved.symm.trans again
  have unique (asked : Question) (root other : Path)
      (reported : Reports machine router.manager key asked root)
      (too : Reports machine router.manager key asked other) : root = other :=
    reported.unique too
  have reports (asked : Question) (different : asked ≠ question) :
      Reports { machine with respond := others } router.manager key asked =
        Reports machine router.manager key asked :=
    funext fun root => propext (alike.reports_iff different router.manager key root)
  cases question with
  | environment =>
    rw [reports .project (by decide), chosen_respond_iff] at otherConfig
    exact Chosen.unique otherConfig config (unique .project)
  | project =>
    have places : Virtualenv.checkerIn { machine with respond := others } =
        Virtualenv.checkerIn machine := rfl
    rw [reports .environment (by decide), places, chosen_respond_iff] at otherExecutable
    exact Chosen.unique otherExecutable executable (unique .environment)

theorem resolve_independent_managed :
    let machine := Sandbox.managed "/v\n" "/p\n"
    let others (launch : Launch) : Except SystemError Behaviour :=
      if launch.arguments.tail = ["--venv"] then .ok { status := 1 } else machine.respond launch
    let project : Toolchain := ⟨"mypy", ""⟩
    Finds machine {} project (Path.ofString "/p") ⟨"/v/bin/mypy", "/p/mypy.ini"⟩ ∧
      ∃ found, Finds { machine with respond := others } {} project (Path.ofString "/p") found ∧
        found.executable = "mypy" ∧ found.configFile = "/p/mypy.ini" := by
  intro machine others project
  have one : Finds machine {} project (Path.ofString "/p") ⟨"/v/bin/mypy", "/p/mypy.ini"⟩ :=
    finds_of_unlearnt (.initial false) (by decide +kernel)
  have other : Finds { machine with respond := others } {} project (Path.ofString "/p")
      ⟨"mypy", "/p/mypy.ini"⟩ := finds_of_unlearnt (.initial false) (by decide +kernel)
  have alike : AlikeBut .environment machine.respond others :=
    fun launch different => (if_neg different).symm
  exact ⟨one, _, other, rfl, (resolve_independent rfl one).2 .environment others _ alike other⟩

end CheckRouter.Routing
