import CheckRouter.Proofs.Ends
import CheckRouter.Proofs.Grouping
import CheckRouter.Proofs.Probing
import CheckRouter.Proofs.Scan
import CheckRouter.Proofs.Starts

/-!
# Scans that are cancelled before they begin

A token is looked at when a program is about to be started. The first program of a scan is the one
that is asked for its version, so a scan whose token has been cancelled ends there, before anything
is started or told to the user. Where there is no such program the scan has no checker, and ends as
any other scan without one.
-/

namespace CheckRouter

open CheckRouter.Action

variable {machine : Machine} {checker : Checker} {settings : Settings} {notifies : Bool}
  {token : Option Token} {world : World}

theorem World.notices_note (world : World) (level : Level) (component : Component) (text : String) :
    (world.note level component text).notices = world.notices := by
  simp [notices, note, JournalEntry.notice?]

theorem Command.run_of_cancelled {options : Options} {command : List String}
    (cancelled : token.any world.tokens.isCancelled = true) :
    (run machine token options command).run world =
      match lookup machine command with
      | .error failure => (.error failure, world)
      | .ok _ => (.error (.stopped .byCaller), world.withHalt .byCaller) := by
  simp only [run, launch, run_bind, run_lift]
  cases lookup machine command with
  | error failure => rfl
  | ok arguments => simp only [run_proceed, cancelled, if_true]

namespace Checker

/-- An executable that can be asked for its version: it names an existing file, and there is a
program to run. -/
def Answers (checker : Checker) (machine : Machine) (executable : String) : Prop :=
  executable ≠ "" ∧ ∃ path launch, checker.settings.resolve machine executable = .ok path ∧
    machine.pathExists path = .ok true ∧ machine.isDirectory path = .ok false ∧
      checker.IsQuery machine executable launch

/-- How an executable is validated for somebody who has cancelled. -/
inductive Validated (checker : Checker) (machine : Machine) (executable : String) (world : World) :
    Except Failure Bool × World → Prop
  | stopped (answers : checker.Answers machine executable) :
      Validated checker machine executable world
        (.error (.stopped .byCaller), world.withHalt .byCaller)
  | failed (failure : Failure) (mute : ¬checker.Answers machine executable)
      (ordinary : failure.isStop = false) :
      Validated checker machine executable world (.error failure, world)
  | unusable (after : World) (mute : ¬checker.Answers machine executable)
      (same : after.started = world.started) (silent : after.notices = world.notices) :
      Validated checker machine executable world (.ok false, after)

theorem launcher_ne_nil {executable : String} {words : List String}
    (worded : checker.launcher machine executable = .ok words) : words ≠ [] := by
  obtain ⟨path, resolved, -⟩ := bind_eq_ok.mp worded
  obtain ⟨failure, -, fails⟩ | ⟨before, -, launches⟩ := launcher_of_resolve resolved
  · cases worded.symm.trans fails
  · cases worded.symm.trans launches
    simp

/-- Who can be asked for its version is examined so. -/
theorem Answers.examined {executable : String} (answers : checker.Answers machine executable) :
    executable ≠ "" ∧ ∃ command options arguments,
      checker.examine machine executable = .ok (.file command options) ∧
        Command.lookup machine command = .ok arguments := by
  obtain ⟨named, path, launch, resolved, there, file, query⟩ := answers
  obtain ⟨other, words, arguments, environment, found, worded, looked, surrounded, -⟩ := query
  cases resolved.symm.trans found
  have held := Machine.holdsFile_of_exists there file
  exact ⟨named, _, _, arguments,
    examine_eq_file.mpr ⟨path, words, environment, resolved, held, worded, surrounded, rfl, rfl⟩,
    looked⟩

theorem validated (machine : Machine) (cancelled : checker.token.any world.tokens.isCancelled = true)
    (executable : String) :
    Validated checker machine executable world
      ((checker.validate machine executable).run world) := by
  rw [validate_eq]
  split
  · next unnamed => exact .unusable world (fun answers => answers.1 unnamed) rfl rfl
  · next named =>
    rw [run_bind, run_lift]
    have ordinary := checker.ordinary_examine machine executable
    cases examined : checker.examine machine executable with
    | error failure =>
      refine .failed failure (fun answers => ?_) (ordinary failure examined).1
      obtain ⟨-, _, _, _, found, -⟩ := answers.examined
      cases examined.symm.trans found
    | ok found =>
      cases found with
      | noFile path =>
        refine .unusable _ (fun answers => ?_) rfl (world.notices_note _ _ _)
        obtain ⟨-, _, _, _, found, -⟩ := answers.examined
        cases examined.symm.trans found
      | file command options =>
        obtain ⟨path, words, environment, resolved, held, worded, surrounded, rfl, rfl⟩ :=
          examine_eq_file.mp examined
        dsimp only [inquire]
        rw [run_bind, run_attempt, Command.run_of_cancelled cancelled]
        cases found : Command.lookup machine (words ++ ["-V"]) with
        | ok arguments =>
          have place := Machine.exists_of_holdsFile held
          exact .stopped ⟨named, path, _, resolved, place.1, place.2, path, words, arguments,
            environment, resolved, worded, found, surrounded, rfl⟩
        | error failure =>
          obtain ⟨head, rest, same⟩ := List.exists_cons_of_ne_nil (launcher_ne_nil worded)
          have refusal : failure.isRefusal = true := by
            rw [same] at found
            exact Command.refused_lookup machine head (rest ++ ["-V"]) failure found
          have records : (!failure.isRefusal) = false := by rw [refusal, Bool.not_true]
          simp only [weigh, records, Bool.false_eq_true, if_false]
          refine .unusable _ (fun answers => ?_) rfl
            ((World.notices_note _ _ _ _).trans (world.notices_note _ _ _))
          obtain ⟨-, _, _, _, again, looked⟩ := answers.examined
          cases examined.symm.trans again
          cases found.symm.trans looked

end Checker

namespace Preflight

/-- The checker that is found for a project can be asked for its version. -/
def Reaches (machine : Machine) (checker : Checker) : Prop :=
  ∃ found, (executable machine checker.settings).outcome = .ok found ∧
    checker.Answers machine found

theorem unstopped_interpreter (machine : Machine) (settings : Settings) :
    Unstopped (interpreter? machine settings) := by
  unfold interpreter?
  split
  · exact failsOnly_ok none
  · have ordinary := (settings.ordinary_resolve machine settings.interpreterPath).bind fun path _ =>
      (machine.ordinary_isRegularFile path).bind fun there _ =>
        (failsOnly_ok (if there then some path else none))
    exact ordinary.mono fun _ => And.left

theorem searched_run (machine : Machine) :
    ∃ found text, ∀ world,
      (searched machine).run world = (.ok found, world.note .info .availability text) := by
  unfold searched
  cases machine.which Virtualenv.checkerName with
  | none => exact ⟨_, _, fun _ => rfl⟩
  | some program => exact ⟨_, _, fun _ => rfl⟩

/-- The checker of a project is found without a trace but for a record. -/
theorem executable_run (machine : Machine) (settings : Settings) :
    ∃ found, Unstopped found ∧ ((∀ world, (executable machine settings).run world = (found, world)) ∨
      ∃ text, ∀ world, (executable machine settings).run world =
        (found, world.note .info .availability text)) := by
  obtain ⟨program, text, searches⟩ := searched_run machine
  unfold executable
  split
  · exact ⟨_, failsOnly_ok _, .inl fun _ => rfl⟩
  · simp only [run_bind, run_lift]
    cases found : interpreter? machine settings with
    | error failure =>
      have ordinary := unstopped_interpreter machine settings failure found
      exact ⟨_, failsOnly_error ordinary, .inl fun _ => rfl⟩
    | ok interpreter =>
      cases interpreter with
      | none => exact ⟨_, failsOnly_ok program, .inr ⟨text, searches⟩⟩
      | some interpreter =>
        simp only [run_bind, run_lift]
        cases rooted : Virtualenv.findRoot machine interpreter with
        | error failure =>
          have ordinary := Virtualenv.ordinary_findRoot machine interpreter failure rooted
          exact ⟨_, failsOnly_error ordinary.1, .inl fun _ => rfl⟩
        | ok root =>
          cases root with
          | none => exact ⟨_, failsOnly_ok program, .inr ⟨text, searches⟩⟩
          | some root =>
            simp only [run_bind, run_lift]
            cases beside : machine.isRegularFile (interpreter.parent /
                Virtualenv.fileName machine Virtualenv.checkerName) with
            | error failure =>
              have ordinary := machine.ordinary_isRegularFile _ failure beside
              exact ⟨_, failsOnly_error ordinary.1, .inl fun _ => rfl⟩
            | ok there => exact ⟨_, failsOnly_ok _, .inl fun _ => rfl⟩

theorem executable_leaves (machine : Machine) (settings : Settings) (world : World) :
    ∃ between, (executable machine settings).run world =
        ((executable machine settings).outcome, between) ∧
      between.started = world.started ∧ between.tokens = world.tokens ∧
        between.notices = world.notices ∧ Unstopped (executable machine settings).outcome := by
  obtain ⟨found, unstopped, runs | ⟨text, runs⟩⟩ := executable_run machine settings
  · rw [outcome, runs, runs]
    exact ⟨world, rfl, rfl, rfl, rfl, unstopped⟩
  · rw [outcome, runs, runs]
    exact ⟨_, rfl, rfl, rfl, world.notices_note _ _ _, unstopped⟩

/-- What the user is told if there is no checker, depending on the interpreter that there is. -/
def advice : Option Path → Notice
  | none => .noInterpreter
  | some _ => .installChecker

/-- How the checker of a project is looked for on behalf of somebody who has cancelled. -/
inductive Checked (machine : Machine) (checker : Checker) (notifies : Bool) (world : World) :
    Except Failure Availability → World → Prop
  | stopped (after : World) (reaches : Reaches machine checker)
      (silent : after.notices = world.notices) :
      Checked machine checker notifies world (.error (.stopped .byCaller)) after
  | failed (failure : Failure) (after : World) (unreached : ¬Reaches machine checker)
      (ordinary : failure.isStop = false) :
      Checked machine checker notifies world (.error failure) after
  | unavailable (found : String) (after : World) (unreached : ¬Reaches machine checker)
      (told : notifies = true → ∃ interpreter,
        interpreter? machine checker.settings = .ok interpreter ∧
          after.notices = world.notices ++ [advice interpreter]) :
      Checked machine checker notifies world (.ok ⟨found, false⟩) after

theorem checked_advise (unreached : ¬Reaches machine checker) (found : String)
    {between : World} (silent : between.notices = world.notices) :
    let ended := (do
      if notifies then advise machine checker.settings
      return ⟨found, false⟩ : Action Availability).run between
    Checked machine checker notifies world ended.1 ended.2 ∧
      ended.2.started = between.started := by
  cases notifies with
  | false => exact ⟨.unavailable found between unreached (by simp), rfl⟩
  | true =>
    simp only [advise, if_true, run_bind, run_lift]
    cases interpreted : interpreter? machine checker.settings with
    | error failure =>
      have ordinary := unstopped_interpreter machine checker.settings failure interpreted
      exact ⟨.failed failure between unreached ordinary, rfl⟩
    | ok interpreter =>
      have told (notice : Notice) : (World.notices { between with
          journal := between.journal ++ [.notice notice] }) = world.notices ++ [notice] := by
        rw [← silent, World.notices, List.filterMap_append]
        rfl
      cases interpreter with
      | none => exact ⟨.unavailable found _ unreached fun _ => ⟨none, interpreted, told _⟩, rfl⟩
      | some path =>
        exact ⟨.unavailable found _ unreached fun _ => ⟨some path, interpreted, told _⟩, rfl⟩

theorem checked (machine : Machine)
    (cancelled : checker.token.any world.tokens.isCancelled = true) (notifies : Bool) :
    let result := (check machine checker notifies).run world
    Checked machine checker notifies world result.1 result.2 ∧ result.2.started = world.started := by
  obtain ⟨between, ran, started, tokens, notices, unstopped⟩ :=
    executable_leaves machine checker.settings world
  dsimp only
  rw [check, run_bind, ran]
  cases outcome : (executable machine checker.settings).outcome with
  | error failure =>
    refine ⟨.failed failure between ?_ (unstopped failure outcome), started⟩
    rintro ⟨found, other, -⟩
    cases outcome.symm.trans other
  | ok found =>
    have reaches_iff : Reaches machine checker ↔ checker.Answers machine found := by
      constructor
      · rintro ⟨other, same, answers⟩
        cases outcome.symm.trans same
        exact answers
      · exact fun answers => ⟨found, outcome, answers⟩
    dsimp only
    by_cases named : (found != "") = true
    · rw [if_pos named, run_bind]
      have asked := checker.validated machine (tokens.symm ▸ cancelled) found
      generalize (checker.validate machine found).run between = validated at asked ⊢
      cases asked with
      | stopped answers => exact ⟨.stopped _ (reaches_iff.mpr answers) notices, started⟩
      | failed failure mute ordinary =>
        exact ⟨.failed failure between (mt reaches_iff.mp mute) ordinary, started⟩
      | unusable after mute same silent =>
        obtain ⟨ends, kept⟩ :=
          checked_advise (mt reaches_iff.mp mute) found (silent.trans notices)
        exact ⟨ends, kept.trans (same.trans started)⟩
    · rw [if_neg named]
      have unnamed : ¬Reaches machine checker :=
        fun reaches => (reaches_iff.mp reaches).1 (by simpa using named)
      obtain ⟨ends, kept⟩ := checked_advise unnamed found notices
      exact ⟨ends, kept.trans started⟩

end Preflight

namespace Scan

/-- A scan whose token was cancelled before starts nothing. If there is a checker that can be asked
for its version the scan is stopped and the user told nothing. Else it is not stopped: it finds
nothing, and the user is told that there is no checker. -/
theorem run_precancelled {caller : Token} {files : List String} (filled : files ≠ [])
    (cancelled : world.tokens.isCancelled caller = true) :
    let result := (run machine settings notifies (some caller) files).run world
    result.2.started = world.started ∧
      (Preflight.Reaches machine ⟨settings, notifies, some caller⟩ →
        result.1 = .error (.stopped .byCaller) ∧ result.2.notices = world.notices) ∧
      (¬Preflight.Reaches machine ⟨settings, notifies, some caller⟩ → Unstopped result.1) ∧
      ∀ issues, result.1 = .ok issues → issues = [] ∧ (notifies = true → ∃ interpreter,
        Preflight.interpreter? machine settings = .ok interpreter ∧
          result.2.notices = world.notices ++ [Preflight.advice interpreter]) := by
  obtain ⟨token, entered, opened, -, -, ran⟩ :=
    run_of_filled machine settings notifies (some caller) world filled
  cases opened
  let checker : Checker := ⟨settings, notifies, some caller⟩
  have watched : checker.token.any world.tokens.isCancelled = true := cancelled
  have ends := Preflight.checked machine watched notifies
  dsimp only [checker] at ends ⊢
  rw [ran, run_bind]
  generalize (Preflight.check machine ⟨settings, notifies, some caller⟩ notifies).run world =
    found at ends ⊢
  obtain ⟨outcome, after⟩ := found
  obtain ⟨ends, started⟩ := ends
  dsimp only at ends started ⊢
  cases ends with
  | stopped _ reaches silent =>
    exact ⟨started, fun _ => ⟨rfl, silent⟩, fun unreached => absurd reaches unreached, by simp⟩
  | failed failure _ unreached ordinary =>
    exact ⟨started, fun reaches => absurd reaches unreached, fun _ => failsOnly_error ordinary,
      by simp⟩
  | unavailable name _ unreached told =>
    refine ⟨started, fun reaches => absurd reaches unreached, fun _ => failsOnly_ok _, ?_⟩
    rintro _ ⟨⟩
    refine ⟨rfl, fun notified => ?_⟩
    obtain ⟨interpreter, interpreted, notices⟩ := told notified
    exact ⟨interpreter, interpreted, (World.notices_note _ _ _ _).trans notices⟩

theorem run_precancelled_twoDirectories :
    let settings : Settings :=
      { projectRoot := Path.ofString "/p", executablePath := "/v/bin/mypy" }
    let result := (run Routing.twoDirectories settings true (some callerToken) ["/p/a.py"]).run
      (World.initial true)
    result.1 = .error (.stopped .byCaller) ∧ result.2.started = [] ∧ result.2.notices = [] := by
  intro settings result
  have reaches : Preflight.Reaches Routing.twoDirectories ⟨settings, true, some callerToken⟩ :=
    ⟨"/v/bin/mypy", rfl, by decide, Path.ofString "/v/bin/mypy", _, by decide +kernel,
      by decide +kernel, by decide +kernel, Path.ofString "/v/bin/mypy", ["/v/bin/mypy"],
      ["/v/bin/mypy", "-V"], [], by decide +kernel, by decide +kernel, by decide +kernel,
      by decide +kernel, rfl⟩
  have cancelled : (World.initial true).tokens.isCancelled callerToken = true := by decide
  have filled : ["/p/a.py"] ≠ [] := by simp
  obtain ⟨started, stops, -⟩ := run_precancelled filled cancelled
  obtain ⟨stopped, silent⟩ := stops reaches
  exact ⟨stopped, started, silent⟩

/-- Without a checker the user is told so, and the scan finds nothing though its token was cancelled
before it began. -/
theorem run_precancelled_unavailable :
    let settings : Settings := { projectRoot := Path.ofString "/p" }
    let result := (run Routing.twoDirectories settings true (some callerToken) ["/p/a.py"]).run
      (World.initial true)
    (World.initial true).tokens.isCancelled callerToken = true ∧
      result.1 = .ok [] ∧ result.2.notices = [.noInterpreter] := by
  decide +kernel

end Scan

end CheckRouter
