import CheckRouter.Preflight
import CheckRouter.Proofs.Issue.Lines
import CheckRouter.Proofs.Launches

/-!
# Programs that are left to end by themselves

A check that finds no issues and does not fail has started its program once, has not killed it, and
has read no diagnostic in what it printed. A version query starts at most one program.
-/

namespace CheckRouter

open CheckRouter.Action

namespace Checker

open Command (Process)

variable {checker : Checker} {machine : Machine} {bucket : Bucket} {world after : World}

/-- The program that checks a bucket ended like a checker that works, and no line of its output is
a diagnostic. -/
structure FoundNothing (checker : Checker) (machine : Machine) (bucket : Bucket)
    (launch : Launch) : Prop where
  launched : checker.checkOf machine bucket = .ok launch
  ended : ∃ behaviour, machine.respond launch = .ok behaviour ∧
    (behaviour.status = 0 ∨ behaviour.status = 1) ∧
    ∀ line ∈ Text.lines (Process.textOf behaviour.output), Issue.ofLine? line = .ok none

/-- From one world to another the programs that check some buckets were started, each of them once
and in whatever order, found nothing and were left to end by themselves. -/
def FoundNothingIn (checker : Checker) (machine : Machine) (buckets : List Bucket)
    (world after : World) : Prop :=
  ∃ launches starts : List Launch, List.Forall₂ (checker.FoundNothing machine) buckets launches ∧
    starts.Perm launches ∧ after.started = world.started ++ starts.map (⟨·, false⟩)

theorem ofLine_of_ofLines {lines : List String} (found : Issue.ofLines lines = .ok []) :
    ∀ line ∈ lines, Issue.ofLine? line = .ok none := by
  obtain ⟨readable, nothing⟩ := Issue.ofLines_eq_ok_iff.mp found
  intro line member
  obtain ⟨_ | issue, reads⟩ := readable line member
  · exact reads
  · have there := Issue.mem_issuesOn.mpr ⟨line, member, reads⟩
    rw [← nothing] at there
    cases there

theorem reading_nil {completed : Completed} (found : reading completed = .ok []) :
    (completed.status = 0 ∨ completed.status = 1) ∧
      ∀ line ∈ Text.lines completed.output, Issue.ofLine? line = .ok none := by
  unfold reading at found
  cases read : Issue.ofOutput completed.output with
  | error failure =>
    rw [read] at found
    cases found
  | ok issues =>
    rw [read, ok_bind] at found
    split at found
    · cases found
    · next normal =>
      cases found
      refine ⟨?_, ofLine_of_ofLines read⟩
      simpa [isNormal, or_iff_not_imp_left] using normal

theorem started_issuesOf (checker : Checker) (bucket : Bucket) (completed : Completed)
    (world : World) :
    ((checker.issuesOf bucket completed).run world).2.started = world.started := by
  simp only [issuesOf, conclude, run_bind, run_lift]
  cases Issue.ofOutput completed.output with
  | error failure => rfl
  | ok issues =>
    simp only [run_record]
    cases isNormal completed.status <;> cases issues.isEmpty <;> cases checker.notifies <;> rfl

/-- A check that finds nothing has started one program and left it to end by itself. -/
theorem execute_nil (executed : (checker.execute machine bucket).run world = (.ok [], after)) :
    ∃ launch, checker.FoundNothing machine bucket launch ∧
      after.started = world.started ++ [⟨launch, false⟩] := by
  obtain ⟨completed, last, ran, read⟩ := (run_bind_eq_ok _).mp executed
  obtain ⟨process, between, begun, waited⟩ := (run_bind_eq_ok _).mp ran
  obtain ⟨launch, launched, responds, started⟩ := begin_of_ok begun
  have found := issuesOf_outcome checker bucket completed last
  have kept := started_issuesOf checker bucket completed last
  rw [read] at found kept
  obtain ⟨normal, lines⟩ := reading_nil found.symm
  rcases Command.wait_of_ok waited with ⟨bound, rfl⟩ | ⟨rfl, same⟩
  · exact absurd normal (by simp [Process.timedOut])
  · refine ⟨launch, ⟨launched, process.behaviour, responds, normal, lines⟩, ?_⟩
    rw [kept, same, started]

/-- The place of the interpreter beside an executable. -/
def interpreterBeside (machine : Machine) (path : Path) : Path :=
  path.parent / Virtualenv.fileName machine "python"

/-- The words that start an executable: its path, behind the interpreter beside it if there is
one. -/
theorem launcher_of_resolve {executable : String} {path : Path}
    (resolved : checker.settings.resolve machine executable = .ok path) :
    (∃ failure, machine.isRegularFile (interpreterBeside machine path) = .error failure ∧
      checker.launcher machine executable = .error failure) ∨
    ∃ before,
      (before = [] ∨ before = [(interpreterBeside machine path).toString] ∧
        machine.isRegularFile (interpreterBeside machine path) = .ok true) ∧
        checker.launcher machine executable = .ok (before ++ [path.toString]) := by
  rw [launcher, resolved, ok_bind]
  dsimp only
  split
  · exact .inr ⟨[], .inl rfl, rfl⟩
  · rw [← interpreterBeside]
    cases beside : machine.isRegularFile (interpreterBeside machine path) with
    | error failure => exact .inl ⟨failure, rfl, rfl⟩
    | ok regular =>
      rw [ok_bind]
      split
      · next apart =>
        obtain ⟨rfl, -⟩ := Bool.and_eq_true_iff.mp apart
        exact .inr ⟨_, .inr ⟨rfl, rfl⟩, rfl⟩
      · exact .inr ⟨[], .inl rfl, rfl⟩

/-- The program that is asked for its version is the one of an executable. -/
def IsQuery (checker : Checker) (machine : Machine) (executable : String) (launch : Launch) :
    Prop :=
  ∃ path words arguments environment, checker.settings.resolve machine executable = .ok path ∧
    checker.launcher machine executable = .ok words ∧
    Command.lookup machine (words ++ ["-V"]) = .ok arguments ∧
    environmentFor machine path = .ok environment ∧
    launch =
      { arguments
        directory := some checker.settings.projectRoot.toString
        environment := some environment }

/-- An examination finds a file just if there is one and it can be told how to run it. -/
theorem examine_eq_file {executable : String} {command : List String} {options : Command.Options} :
    checker.examine machine executable = .ok (.file command options) ↔
      ∃ path words environment, checker.settings.resolve machine executable = .ok path ∧
        machine.holdsFile path = .ok true ∧ checker.launcher machine executable = .ok words ∧
        environmentFor machine path = .ok environment ∧ command = words ++ ["-V"] ∧
        options = ⟨some checker.settings.projectRoot, some environment, none⟩ := by
  constructor
  · intro examined
    obtain ⟨path, resolved, examined⟩ := bind_eq_ok.mp examined
    obtain ⟨there, held, examined⟩ := bind_eq_ok.mp examined
    cases there with
    | false => cases examined
    | true =>
      obtain ⟨words, worded, examined⟩ := bind_eq_ok.mp examined
      obtain ⟨environment, surrounded, examined⟩ := bind_eq_ok.mp examined
      cases examined
      exact ⟨path, words, environment, resolved, held, worded, surrounded, rfl, rfl⟩
  · rintro ⟨path, words, environment, resolved, held, worded, surrounded, rfl, rfl⟩
    simp only [examine, resolved, held, worded, surrounded, ok_bind]
    rfl

theorem validate_launches (checker : Checker) (machine : Machine) (executable : String)
    (world : World) :
    ∃ query : Option Launch,
      ((checker.validate machine executable).run world).2.launches =
          world.launches ++ query.toList ∧
        ∀ launch ∈ query, checker.IsQuery machine executable launch := by
  have none_started {action : Action Bool} (keeps : Keeps World.launches action) :
      ∃ query : Option Launch,
        (action.run world).2.launches = world.launches ++ query.toList ∧
          ∀ launch ∈ query, checker.IsQuery machine executable launch :=
    ⟨none, by simp [keeps world], by simp⟩
  rw [validate_eq]
  split
  · exact none_started (keeps_pure _)
  · rw [run_bind, run_lift]
    cases examined : checker.examine machine executable with
    | error failure => exact none_started (keeps_throw failure)
    | ok found =>
      cases found with
      | noFile path =>
        exact none_started ((silent_launches.keeps_record _ _ _).bind fun _ => keeps_pure _)
      | file command options =>
        obtain ⟨path, words, environment, resolved, -, worded, surrounded, rfl, rfl⟩ :=
          examine_eq_file.mp examined
        refine (Command.attempt_run_launches (fun outcome => ?_) machine checker.token _ _ world).imp
          fun query launched => ⟨launched.1, fun launch member => ?_⟩
        · exact keeps_weigh silent_launches.toUnnoting (words ++ ["-V"]) outcome
        · obtain ⟨arguments, found, rfl⟩ := launched.2 launch member
          exact ⟨path, words, arguments, environment, resolved, worded, found, surrounded, rfl⟩

end Checker

namespace Preflight

/-- Finding the checker of a project starts no program but the version query. -/
theorem check_launches {machine : Machine} {checker : Checker} {notifies : Bool}
    {found : Availability} {world after : World}
    (checked : (check machine checker notifies).run world = (.ok found, after)) :
    ∃ query : Option Launch, after.launches = world.launches ++ query.toList ∧
      ∀ launch ∈ query, checker.IsQuery machine found.executable launch := by
  obtain ⟨name, located, searched, checked⟩ := (run_bind_eq_ok _).mp checked
  have before := keeps_executable machine silent_launches.toUnnoting checker.settings world
  rw [searched] at before
  have ends {first : World} (ended : (do
        if notifies then advise machine checker.settings
        return ⟨name, false⟩ : Action Availability).run first = (.ok found, after)) :
      after.launches = first.launches ∧ found.executable = name := by
    cases notifies with
    | false =>
      cases ended
      exact ⟨rfl, rfl⟩
    | true =>
      obtain ⟨⟨⟩, advised, told, ended⟩ := (run_bind_eq_ok _).mp ended
      have kept := keeps_advise machine silent_launches.toUnnoting checker.settings first
      rw [told] at kept
      cases ended
      exact ⟨kept, rfl⟩
  by_cases named : (name != "") = true
  · rw [if_pos named] at checked
    obtain ⟨works, validated, ran, checked⟩ := (run_bind_eq_ok _).mp checked
    obtain ⟨query, started, queries⟩ := checker.validate_launches machine name located
    rw [ran, before] at started
    refine ⟨query, ?_⟩
    cases works with
    | true =>
      cases checked
      exact ⟨started, queries⟩
    | false =>
      obtain ⟨kept, rfl⟩ := ends checked
      exact ⟨kept.trans started, queries⟩
  · rw [if_neg named] at checked
    obtain ⟨kept, rfl⟩ := ends checked
    exact ⟨none, by simp [kept, before], by simp⟩

end Preflight

end CheckRouter
