import CheckRouter.Proofs.Checking
import CheckRouter.Proofs.Paths

/-!
# Programs that a checker starts

The check of a bucket starts at most one program, the checker of the bucket over its files, and the
issues that it finds are those in what that program prints.
-/

namespace CheckRouter

open CheckRouter.Action

theorem silent_launches : Silent World.launches where
  note := fun _ _ _ _ => rfl
  notify := fun _ _ => rfl
  kill := fun world number => by
    refine List.ext_getElem? fun position => ?_
    simp only [World.launches, World.withKilled, List.getElem?_map, List.getElem?_modify]
    cases world.started[position]? with
    | none => rfl
    | some started =>
      simp only [Option.map_some]
      split <;> rfl
  halt := fun _ _ => rfl

theorem timeless_launches (machine : Machine) : Timeless machine World.launches := fun _ _ => rfl

theorem World.launches_withStarted (world : World) (launch : Launch) :
    (world.withStarted launch).launches = world.launches ++ [launch] := by
  simp [launches, withStarted]

namespace Command

theorem tail_lookup {machine : Machine} {command arguments : List String}
    (found : lookup machine command = .ok arguments) : arguments.tail = command.tail := by
  cases command with
  | nil => cases found
  | cons head rest =>
    unfold lookup at found
    dsimp only at found
    split at found
    · cases found
      rfl
    · split at found
      · cases found
        rfl
      · cases found

theorem unstopped_lookup {machine : Machine} {command : List String} {failure : Failure}
    (fails : lookup machine command = .error failure) : failure.isStop = false := by
  cases command with
  | nil =>
    cases fails
    rfl
  | cons head rest =>
    unfold lookup at fails
    dsimp only at fails
    repeat' split at fails
    all_goals cases fails
    rfl

theorem unstopped_permit {machine : Machine} {launch : Launch} {failure : Failure}
    (fails : permit machine launch = .error failure) : failure.isStop = false := by
  unfold permit at fails
  split at fails
  · cases fails
    rfl
  · rcases bind_eq_error.mp fails with entering | ⟨_, -, executing⟩
    · unfold enter at entering
      repeat' split at entering
      all_goals cases entering
      all_goals rfl
    · unfold permitProgram at executing
      dsimp only at executing
      split at executing
      · cases executing
      · cases executing
        rfl

/-- What it comes to to start the program of a command: it failed or was stopped before the start, or
a program was started that the system refused to run, or one that runs. -/
inductive Launched (machine : Machine) (token : Option Token) (options : Options)
    (command : List String) (world : World) : Except Failure Process × World → Prop
  | unstarted (failure : Failure) (ordinary : failure.isStop = false) :
      Launched machine token options command world (.error failure, world)
  | stopped (cancelled : token.any world.tokens.isCancelled = true) :
      Launched machine token options command world
        (.error (.stopped .byCaller), world.withHalt .byCaller)
  | refused (arguments : List String) (error : SystemError)
      (uncancelled : token.any world.tokens.isCancelled = false)
      (found : lookup machine command = .ok arguments)
      (responds : machine.respond (options.toLaunch arguments) = .error error) :
      Launched machine token options command world
        (.error (.system error (arguments.headD "")),
          world.withStarted (options.toLaunch arguments))
  | started (arguments : List String) (behaviour : Behaviour)
      (uncancelled : token.any world.tokens.isCancelled = false)
      (found : lookup machine command = .ok arguments)
      (responds : machine.respond (options.toLaunch arguments) = .ok behaviour) :
      Launched machine token options command world
        (.ok (.begun world (arguments, behaviour)),
          world.withStarted (options.toLaunch arguments))

theorem launched (machine : Machine) (token : Option Token) (options : Options)
    (command : List String) (world : World) :
    Launched machine token options command world
      ((launch machine token options command).run world) := by
  simp only [launch, run_bind, run_lift]
  cases found : lookup machine command with
  | error failure => exact .unstarted failure (unstopped_lookup found)
  | ok arguments =>
    simp only [run_proceed]
    cases cancelled : token.any world.tokens.isCancelled with
    | true => exact .stopped cancelled
    | false =>
      simp only [Bool.false_eq_true, if_false, start, run_bind, run_lift]
      cases permitted : permit machine (options.toLaunch arguments) with
      | error failure => exact .unstarted failure (unstopped_permit permitted)
      | ok _ =>
        simp only [run_noteStart]
        cases responds : machine.respond (options.toLaunch arguments) with
        | error error => exact .refused arguments error cancelled found responds
        | ok behaviour => exact .started arguments behaviour cancelled found responds

theorem launch_cases (machine : Machine) (token : Option Token) (options : Options)
    (command : List String) (world : World) :
    let ran := (launch machine token options command).run world
    (∃ failure after, ran = (.error failure, after) ∧ after.started = world.started) ∨
      ∃ arguments, lookup machine command = .ok arguments ∧
        ran.2 = world.withStarted (options.toLaunch arguments) ∧
        ∀ process, ran.1 = .ok process →
          machine.respond (options.toLaunch arguments) = .ok process.behaviour := by
  have begins := launched machine token options command world
  generalize (launch machine token options command).run world = ran at begins ⊢
  cases begins with
  | unstarted failure => exact .inl ⟨failure, world, rfl, rfl⟩
  | stopped cancelled => exact .inl ⟨_, _, rfl, rfl⟩
  | refused arguments error uncancelled found responds =>
    exact .inr ⟨arguments, found, rfl, by simp⟩
  | started arguments behaviour uncancelled found responds =>
    refine .inr ⟨arguments, found, rfl, ?_⟩
    rintro _ ⟨⟩
    exact responds

section Wait

variable {machine : Machine} {token : Option Token} {limit : Option Binary64} {process : Process}
  {world after : World}

theorem look_of_ok {seen : Completed ⊕ Event}
    (looked : (look token limit process).run world = (.ok seen, after)) :
    (∃ bound, seen = .inl (process.timedOut bound)) ∨
      after = world ∧ ∃ event, seen = .inr event := by
  cases cancelled : token.any world.tokens.isCancelled with
  | true => cases (look_of_cancelled cancelled).symm.trans looked
  | false =>
    simp only [look, run_bind, run_isCancelled, cancelled, Bool.false_eq_true, if_false,
      run_get] at looked
    split at looked
    · cases looked
      exact .inl ⟨_, rfl⟩
    · cases looked
      exact .inr ⟨rfl, _, rfl⟩

theorem meet_of_ok {event : Event} {result : Option Completed}
    (met : (meet machine process event).run world = (.ok result, after)) :
    after.started = world.started ∧ ∀ completed ∈ result, completed = process.completed := by
  cases event with
  | interrupted time => cases met
  | running time =>
    cases met
    exact ⟨rfl, by simp⟩
  | ended time =>
    cases met
    refine ⟨rfl, ?_⟩
    rintro _ ⟨⟩
    rfl

/-- A process that was waited for ran out of time, or ended by itself. -/
theorem wait_of_ok {polls : Nat} {completed : Completed}
    (waited : (wait machine token limit process polls).run world = (.ok completed, after)) :
    (∃ bound, completed = process.timedOut bound) ∨
      completed = process.completed ∧ after.started = world.started := by
  induction polls generalizing world with
  | zero =>
    cases waited
    exact .inr ⟨rfl, rfl⟩
  | succ polls ih =>
    obtain ⟨result, between, polled, goesOn⟩ := (run_bind_eq_ok _).mp waited
    obtain ⟨seen, before, looked, met⟩ := (run_bind_eq_ok _).mp polled
    rcases look_of_ok looked with ⟨bound, rfl⟩ | ⟨rfl, event, rfl⟩
    · cases met
      cases goesOn
      exact .inl ⟨bound, rfl⟩
    · obtain ⟨same, ended⟩ := meet_of_ok met
      cases result with
      | none =>
        refine (ih goesOn).imp_right fun left => ?_
        rw [← same]
        exact left
      | some found =>
        cases goesOn
        exact .inr ⟨ended _ rfl, same⟩

theorem wait_output {polls : Nat} {completed : Completed}
    (waited : (wait machine token limit process polls).run world = (.ok completed, after)) :
    completed.output = process.output := by
  rcases wait_of_ok waited with ⟨bound, rfl⟩ | ⟨rfl, -⟩
  · rfl
  · rfl

end Wait

theorem run_launches (machine : Machine) (token : Option Token) (options : Options)
    (command : List String) (world : World) :
    ∃ part : Option Launch,
      ((run machine token options command).run world).2.launches = world.launches ++ part.toList ∧
        ∀ launch ∈ part, ∃ arguments, lookup machine command = .ok arguments ∧
          launch = options.toLaunch arguments := by
  have keeps (process : Process) := keeps_wait machine token options.limit process silent_launches
    (timeless_launches machine) (enoughPolls process)
  rw [run, run_bind]
  rcases launch_cases machine token options command world with
    ⟨failure, after, failed, same⟩ | ⟨arguments, found, started, -⟩
  · rw [failed]
    exact ⟨none, by simp [World.launches, same], by simp⟩
  · cases launched : (launch machine token options command).run world with
    | mk outcome between =>
      rw [launched] at started
      subst started
      refine ⟨some (options.toLaunch arguments), ?_, ?_⟩
      · cases outcome with
        | error failure => exact World.launches_withStarted _ _
        | ok process => exact (keeps process _).trans (World.launches_withStarted _ _)
      · rintro _ ⟨⟩
        exact ⟨arguments, found, rfl⟩

theorem attempt_run_launches {α : Type} {next : Except Failure Completed → Action α}
    (keeps : ∀ outcome, Keeps World.launches (next outcome)) (machine : Machine)
    (token : Option Token) (options : Options) (command : List String) (world : World) :
    ∃ part : Option Launch,
      ((attempt (run machine token options command) >>= next).run world).2.launches =
          world.launches ++ part.toList ∧
        ∀ launch ∈ part, ∃ arguments, lookup machine command = .ok arguments ∧
          launch = options.toLaunch arguments := by
  obtain ⟨part, started, launched⟩ := run_launches machine token options command world
  refine ⟨part, ?_, launched⟩
  rw [run_bind, run_attempt]
  exact (keeps _ _).trans started

end Command

namespace Checker

open Command (Process)

variable {checker : Checker} {machine : Machine} {bucket : Bucket} {world after : World}

/-- The launch of the program that checks a bucket. -/
def IsCheck (settings : Settings) (machine : Machine) (bucket : Bucket) (launch : Launch) : Prop :=
  ∃ path extra environment, settings.resolve machine bucket.executable = .ok path ∧
    settings.arguments = .ok extra ∧ environmentFor machine path = .ok environment ∧
    launch =
      { arguments :=
          [path.toString, "--show-column-numbers", "--follow-imports", "silent"] ++
            (if bucket.configFile = "" then [] else ["--config-file", bucket.configFile]) ++
            extra ++ bucket.files
        directory := some settings.projectRoot.toString
        environment := some environment }

/-- A program that was run to check a bucket, and the issues in what it printed. -/
structure Found (settings : Settings) (machine : Machine) (bucket : Bucket)
    (check : Launch × List Issue) : Prop where
  launched : IsCheck settings machine bucket check.1
  printed : ∃ behaviour, machine.respond check.1 = .ok behaviour ∧
    Issue.ofOutput (Process.textOf behaviour.output) = .ok check.2

/-- The launch of the program that checks a bucket, if there is such a program. -/
def checkOf (checker : Checker) (machine : Machine) (bucket : Bucket) : Except Failure Launch := do
  let (command, options) ← checker.prepare machine bucket
  return options.toLaunch (← Command.lookup machine command)

theorem checkOf_eq_ok {launch : Launch} :
    checker.checkOf machine bucket = .ok launch ↔ ∃ command options arguments,
      checker.prepare machine bucket = .ok (command, options) ∧
        Command.lookup machine command = .ok arguments ∧ launch = options.toLaunch arguments := by
  unfold checkOf
  cases checker.prepare machine bucket with
  | error failure => simp [error_bind]
  | ok prepared =>
    obtain ⟨command, options⟩ := prepared
    rw [ok_bind]
    constructor
    · intro launched
      cases found : Command.lookup machine command with
      | error failure =>
        simp only [found] at launched
        cases launched
      | ok arguments =>
        simp only [found] at launched
        cases launched
        exact ⟨command, options, arguments, rfl, found, rfl⟩
    · rintro ⟨_, _, arguments, ⟨⟩, found, rfl⟩
      simp only [found]
      rfl

/-- Under an absolute project root the command of a bucket names its program by its path. -/
theorem lookup_of_prepare (rooted : checker.settings.projectRoot.isAbsolute = true)
    {command : List String} {options : Command.Options}
    (prepared : checker.prepare machine bucket = .ok (command, options)) :
    Command.lookup machine command = .ok command := by
  obtain ⟨path, extra, environment, resolved, -, -, rfl, -⟩ := prepare_eq_ok.mp prepared
  have absolute := Settings.isAbsolute_of_resolve rooted resolved
  have same := Path.ofString_toString absolute
  rw [← same] at absolute
  simp only [List.cons_append, Command.lookup_of_isAbsolute absolute, same]

theorem isCheck_of_checkOf (rooted : checker.settings.projectRoot.isAbsolute = true)
    {launch : Launch} (launched : checker.checkOf machine bucket = .ok launch) :
    IsCheck checker.settings machine bucket launch := by
  obtain ⟨command, options, arguments, prepared, found, rfl⟩ := checkOf_eq_ok.mp launched
  have same := lookup_of_prepare rooted prepared
  rw [found] at same
  cases same
  obtain ⟨path, extra, environment, resolved, words, active, rfl, rfl⟩ := prepare_eq_ok.mp prepared
  exact ⟨path, extra, environment, resolved, words, active, rfl⟩

theorem begin_cases (checker : Checker) (machine : Machine) (bucket : Bucket) (world : World) :
    let ran := (checker.begin machine bucket).run world
    (∃ failure, ran.1 = .error failure ∧ ran.2.started = world.started) ∨
      ∃ launch, checker.checkOf machine bucket = .ok launch ∧
        ran.2.started = world.started ++ [⟨launch, false⟩] ∧
        ∀ process, ran.1 = .ok process → machine.respond launch = .ok process.behaviour := by
  dsimp only
  simp only [begin, run_bind, run_lift]
  cases prepared : checker.prepare machine bucket with
  | error failure => exact .inl ⟨failure, rfl, rfl⟩
  | ok result =>
    obtain ⟨command, options⟩ := result
    simp only [run_record, run_attempt]
    rcases Command.launch_cases machine checker.token options command
        (world.note .info .runner ("Running command: " ++ Text.ShellWords.join command)) with
      ⟨failure, after, ran, same⟩ | ⟨arguments, found, ran, responds⟩
    · left
      simp only [ran]
      cases failure.isRefusal with
      | false => exact ⟨failure, rfl, same⟩
      | true => exact ⟨_, rfl, same⟩
    · refine .inr ⟨_, checkOf_eq_ok.mpr ⟨command, options, arguments, prepared, found, rfl⟩, ?_⟩
      cases launched : (Command.launch machine checker.token options command).run
          (world.note .info .runner ("Running command: " ++ Text.ShellWords.join command)) with
      | mk outcome after =>
        rw [launched] at ran responds
        simp only at ran responds
        subst ran
        cases outcome with
        | ok process => exact ⟨rfl, responds⟩
        | error failure =>
          simp only
          cases failure.isRefusal with
          | false => exact ⟨rfl, by simp⟩
          | true =>
            refine ⟨rfl, ?_⟩
            intro process fails
            cases fails

theorem begin_launches (rooted : checker.settings.projectRoot.isAbsolute = true)
    (machine : Machine) (bucket : Bucket) (world : World) :
    let ran := (checker.begin machine bucket).run world
    (∃ failure, ran.1 = .error failure ∧ ran.2.launches = world.launches) ∨
      ∃ launch, IsCheck checker.settings machine bucket launch ∧
        ran.2.launches = world.launches ++ [launch] ∧
        ∀ process, ran.1 = .ok process → machine.respond launch = .ok process.behaviour := by
  dsimp only
  rcases checker.begin_cases machine bucket world with
    ⟨failure, fails, same⟩ | ⟨launch, launched, started, responds⟩
  · exact .inl ⟨failure, fails, congrArg (List.map Started.launch) same⟩
  · refine .inr ⟨launch, isCheck_of_checkOf rooted launched, ?_, responds⟩
    rw [World.launches, started, List.map_append]
    rfl

theorem begin_of_ok {process : Process}
    (begun : (checker.begin machine bucket).run world = (.ok process, after)) :
    ∃ launch, checker.checkOf machine bucket = .ok launch ∧
      machine.respond launch = .ok process.behaviour ∧
      after.started = world.started ++ [⟨launch, false⟩] := by
  rcases checker.begin_cases machine bucket world with
    ⟨failure, fails, -⟩ | ⟨launch, launched, started, responds⟩
  · rw [begun] at fails
    cases fails
  · rw [begun] at started responds
    exact ⟨launch, launched, responds process rfl, started⟩

theorem ofOutput_of_issuesOf {completed : Completed} {issues : List Issue}
    (found : ((checker.issuesOf bucket completed).run world).1 = .ok issues) :
    Issue.ofOutput completed.output = .ok issues := by
  rw [issuesOf_outcome, reading] at found
  cases printed : Issue.ofOutput completed.output with
  | error failure => rw [printed] at found; cases found
  | ok read =>
    rw [printed, ok_bind] at found
    split at found
    · cases found
    · cases found
      rfl

def finish (checker : Checker) (machine : Machine) (bucket : Bucket) (process : Process) :
    Action (List Issue) := do
  let completed ← Command.wait machine checker.token checker.settings.timeout process
    (Command.enoughPolls process)
  checker.issuesOf bucket completed

theorem execute_eq (checker : Checker) (machine : Machine) (bucket : Bucket) :
    checker.execute machine bucket =
      checker.begin machine bucket >>= checker.finish machine bucket :=
  bind_assoc _ _ _

theorem keeps_finish (checker : Checker) (machine : Machine) (bucket : Bucket) (process : Process) :
    Keeps World.launches (checker.finish machine bucket process) :=
  (Command.keeps_wait machine _ _ process silent_launches (timeless_launches machine) _).bind
    fun completed => checker.keeps_issuesOf bucket silent_launches.toUnnoting completed

/-- Either issues are found in what one program printed, or at most one was started in vain. -/
theorem execute_launches (rooted : checker.settings.projectRoot.isAbsolute = true)
    (machine : Machine) (bucket : Bucket) (world : World) :
    let ran := (checker.execute machine bucket).run world
    (∃ check, Found checker.settings machine bucket check ∧ ran.1 = .ok check.2 ∧
        ran.2.launches = world.launches ++ [check.1]) ∨
      ∃ failure, ∃ part : Option Launch, ran.1 = .error failure ∧
        (∀ launch ∈ part, IsCheck checker.settings machine bucket launch) ∧
        ran.2.launches = world.launches ++ part.toList := by
  dsimp only
  have begins := checker.begin_launches rooted machine bucket world
  rw [execute_eq, run_bind]
  cases begun : (checker.begin machine bucket).run world with
  | mk outcome between =>
    rw [begun] at begins
    rcases begins with ⟨failure, fails, same⟩ | ⟨launch, isCheck, started, responds⟩
    · cases fails
      exact .inr ⟨failure, none, rfl, by simp, by simpa using same⟩
    · cases outcome with
      | error failure => exact .inr ⟨failure, some launch, rfl, by simpa using isCheck, started⟩
      | ok process =>
        have same := (checker.keeps_finish machine bucket process between).trans started
        cases ran : (checker.finish machine bucket process).run between with
        | mk result last =>
          rw [ran] at same
          simp only [ran]
          cases result with
          | error failure => exact .inr ⟨failure, some launch, rfl, by simpa using isCheck, same⟩
          | ok issues =>
            obtain ⟨completed, later, waited, concluded⟩ := (run_bind_eq_ok _).mp ran
            have printed := ofOutput_of_issuesOf (congrArg Prod.fst concluded)
            rw [Command.wait_output waited] at printed
            exact .inl ⟨(launch, issues),
              ⟨isCheck, process.behaviour, responds process rfl, printed⟩, rfl, same⟩

end Checker

end CheckRouter
