import CheckRouter.Proofs.Ends
import CheckRouter.Proofs.Issue.Lines
import CheckRouter.Proofs.Launches
import CheckRouter.Proofs.Precancelled

/-!
# Exit status of a check

The check of a bucket that nobody stops has one of a few outcomes, and the first cause in their
order decides: the arguments cannot be read, the surroundings of the program cannot be looked at, the
program cannot be started, a line of its output cannot be read, it ended abnormally without an issue.
Only in the last case the user is told.
-/

namespace CheckRouter

open CheckRouter.Action

variable {machine : Machine} {world : World}

theorem World.notices_notify (world : World) (notice : Notice) :
    { world with journal := world.journal ++ [JournalEntry.notice notice] }.notices =
      world.notices ++ [notice] := by
  simp [notices, JournalEntry.notice?]

theorem Settings.arguments_eq_ok {settings : Settings} {extra : List String} :
    settings.arguments = .ok extra ↔
      Text.ShellWords.split settings.extraArguments = .ok extra := by
  unfold arguments
  cases Text.ShellWords.split settings.extraArguments <;> simp [Except.mapError]

namespace Command

variable {token : Option Token} {options : Options} {command : List String}

theorem launch_of_unopened (world : World) {failure : Failure}
    (uncancelled : token.any world.tokens.isCancelled = false)
    (unopened : opening machine options command = .error failure) :
    ∃ after, (launch machine token options command).run world = (.error failure, after) ∧
      after.notices = world.notices ∧ (failure.isRefusal = false → after = world) := by
  have outcome := (launch_outcome machine token options command world).resolve_right
    (by simp [uncancelled])
  have launched := launched machine token options command world
  rw [unopened] at outcome
  generalize (launch machine token options command).run world = ran at outcome launched ⊢
  cases launched with
  | unstarted other ordinary =>
    cases outcome
    exact ⟨world, rfl, rfl, fun _ => rfl⟩
  | stopped cancelled => cases uncancelled.symm.trans cancelled
  | refused arguments error uncancelled found responds =>
    cases outcome
    exact ⟨_, rfl, rfl, fun ordinary => by cases ordinary⟩
  | started arguments behaviour uncancelled found responds => cases outcome

theorem Ends.notices {limit : Option Binary64} {process : Process} {notice : Option Rat}
    {result : Except Failure Completed × World}
    (ends : Ends machine limit process world notice result) :
    result.2.notices = world.notices := by
  cases ends with
  | ended inTime unnoticed => rfl
  | stopped time noticed running => rfl
  | expired bound time given known running unnoticed => exact World.notices_note _ _ _ _

end Command

namespace Checker

open Command (Process)

variable {checker : Checker} {bucket : Bucket} {command : List String} {completed : Completed}
  {options : Command.Options}

/-- The program of a bucket is started in a world, by a command, and comes to its end or to the end
of its time. -/
def Completes (checker : Checker) (machine : Machine) (bucket : Bucket) (world : World)
    (command : List String) (completed : Completed) : Prop :=
  ∃ options behaviour, checker.prepare machine bucket = .ok (command, options) ∧
    Command.opening machine options command = .ok (command, behaviour) ∧
      (Process.begun world (command, behaviour)).fate checker.settings.timeout = completed

/-- The outcomes of the check of a bucket, with what the user is told. -/
inductive Executed (checker : Checker) (machine : Machine) (bucket : Bucket) (world : World) :
    Except Failure (List Issue) × World → Prop
  | misconfigured (fault : Text.ShellWords.Fault) (after : World)
      (unread : Text.ShellWords.split checker.settings.extraArguments = .error fault)
      (unstarted : after.started = world.started) (silent : after.notices = world.notices) :
      Executed checker machine bucket world
        (.error (.badArguments checker.settings.extraArguments fault), after)
  | misplaced (after : World)
      (read : ∃ extra, Text.ShellWords.split checker.settings.extraArguments = .ok extra)
      (place : Machine.holdsNull checker.settings.projectRoot.toString = true)
      (unstarted : after.started = world.started) (silent : after.notices = world.notices) :
      Executed checker machine bucket world (.error .embeddedNull, after)
  | unsearched (path : Path) (failure : Failure) (after : World)
      (read : ∃ extra, Text.ShellWords.split checker.settings.extraArguments = .ok extra)
      (resolved : checker.settings.resolve machine bucket.executable = .ok path)
      (refused : machine.look (path.parent / Virtualenv.activationScript machine).toString =
        .error failure)
      (unstarted : after.started = world.started) (silent : after.notices = world.notices) :
      Executed checker machine bucket world (.error failure, after)
  | refused (command : List String) (options : Command.Options) (failure : Failure)
      (after : World) (prepared : checker.prepare machine bucket = .ok (command, options))
      (place : Machine.holdsNull checker.settings.projectRoot.toString = false)
      (unopened : Command.opening machine options command = .error failure)
      (refusal : failure.isRefusal = true) (silent : after.notices = world.notices) :
      Executed checker machine bucket world
        (.error (.checkerFailed 127 failure.message command), after)
  | unreadable (command : List String) (completed : Completed) (front : List String)
      (line : String) (back : List String) (failure : Failure) (after : World)
      (completes : checker.Completes machine bucket world command completed)
      (lines : Text.lines completed.output = front ++ line :: back)
      (readable : ∀ other ∈ front, ∃ found, Issue.ofLine? other = .ok found)
      (unread : Issue.ofLine? line = .error failure) (silent : after.notices = world.notices) :
      Executed checker machine bucket world (.error failure, after)
  | abnormal (command : List String) (completed : Completed) (after : World)
      (completes : checker.Completes machine bucket world command completed)
      (unfound : Issue.ofOutput completed.output = .ok [])
      (abnormal : completed.status ≠ 0 ∧ completed.status ≠ 1)
      (told : after.notices = world.notices ++
        if checker.notifies then [.abnormalExit completed.errors] else []) :
      Executed checker machine bucket world
        (.error (.checkerFailed completed.status completed.errors command), after)
  | found (command : List String) (completed : Completed) (issues : List Issue) (after : World)
      (completes : checker.Completes machine bucket world command completed)
      (read : Issue.ofOutput completed.output = .ok issues)
      (normal : completed.status = 0 ∨ completed.status = 1 ∨ issues ≠ [])
      (silent : after.notices = world.notices) :
      Executed checker machine bucket world (.ok issues, after)

theorem isNormal_iff (status : Int) : isNormal status = true ↔ status = 0 ∨ status = 1 := by
  simp [isNormal]

theorem conclude_of_found (checker : Checker) {issues : List Issue}
    (found : isNormal completed.status = true ∨ issues ≠ []) :
    ∃ after, (checker.conclude completed issues).run world = (.ok issues, after) ∧
      after.notices = world.notices := by
  unfold conclude
  cases normal : isNormal completed.status with
  | true => exact ⟨world, rfl, rfl⟩
  | false =>
    cases issues with
    | nil => simp [normal] at found
    | cons issue issues => exact ⟨_, rfl, World.notices_note _ _ _ _⟩

theorem conclude_of_unfound (checker : Checker) (abnormal : isNormal completed.status = false) :
    ∃ after, (checker.conclude completed []).run world =
        (.error (.checkerFailed completed.status completed.errors completed.arguments), after) ∧
      after.notices =
        world.notices ++ if checker.notifies then [.abnormalExit completed.errors] else [] := by
  unfold conclude
  rw [abnormal]
  cases checker.notifies with
  | true => exact ⟨_, rfl, World.notices_notify _ _⟩
  | false => exact ⟨world, rfl, (List.append_nil _).symm⟩

theorem executed_issuesOf {first : World} (same : world.notices = first.notices)
    (completes : checker.Completes machine bucket first completed.arguments completed) :
    Executed checker machine bucket first ((checker.issuesOf bucket completed).run world) := by
  simp only [issuesOf, run_bind, run_lift]
  cases read : Issue.ofOutput completed.output with
  | error failure =>
    obtain ⟨front, line, back, lines, readable, unread⟩ := Issue.ofLines_eq_error_iff.mp read
    exact .unreadable _ completed front line back failure world completes lines readable unread same
  | ok issues =>
    simp only [run_record]
    generalize spoken : World.note world .info .runner _ = noted
    have silent : noted.notices = first.notices := by
      rw [← same, ← spoken]
      exact World.notices_note world _ _ _
    by_cases found : isNormal completed.status = true ∨ issues ≠ []
    · obtain ⟨after, ran, kept⟩ := checker.conclude_of_found found
      rw [ran]
      refine .found _ completed issues after completes read ?_ (kept.trans silent)
      rwa [isNormal_iff, or_assoc] at found
    · obtain ⟨abnormal, rfl⟩ := not_or.mp found |>.imp_right not_not.mp
      obtain ⟨after, ran, told⟩ := checker.conclude_of_unfound (Bool.eq_false_iff.mpr abnormal)
      rw [ran]
      rw [isNormal_iff, not_or] at abnormal
      exact .abnormal _ completed after completes read abnormal (silent ▸ told)

theorem arguments_fate (process : Process) (limit : Option Binary64) :
    (process.fate limit).arguments = process.arguments := by
  unfold Process.fate
  cases limit with
  | none => rfl
  | some bound =>
    dsimp only
    split <;> rfl

/-- A project root with a null character is no place to start a program in. -/
theorem opening_of_misplaced (rooted : checker.settings.projectRoot.isAbsolute = true)
    (prepared : checker.prepare machine bucket = .ok (command, options))
    (clean : command.any Machine.holdsNull = false)
    (place : Machine.holdsNull checker.settings.projectRoot.toString = true) :
    Command.opening machine options command = .error .embeddedNull := by
  have found := lookup_of_prepare rooted prepared
  obtain ⟨path, extra, environment, -, -, -, -, rfl⟩ := prepare_eq_ok.mp prepared
  have misplaced : Command.enter machine (some checker.settings.projectRoot.toString) =
      .error .embeddedNull := if_pos place
  rw [Command.opening, found, ok_bind]
  unfold Command.permit
  rw [Command.Options.toLaunch, if_neg (Bool.eq_false_iff.mp clean)]
  show (Command.enter machine (some checker.settings.projectRoot.toString) >>= _) >>= _ = _
  rw [misplaced]
  rfl

theorem begin_of_unopened (prepared : checker.prepare machine bucket = .ok (command, options))
    (uncancelled : checker.token.any world.tokens.isCancelled = false) {failure : Failure}
    (unopened : Command.opening machine options command = .error failure) :
    ∃ after, (checker.begin machine bucket).run world =
        (.error (if failure.isRefusal then .checkerFailed 127 failure.message command else failure),
          after) ∧
      after.notices = world.notices ∧
        (failure.isRefusal = false → after.started = world.started) := by
  let noted := world.note .info .runner ("Running command: " ++ Text.ShellWords.join command)
  have silent : noted.notices = world.notices := world.notices_note _ _ _
  obtain ⟨after, ran, kept, same⟩ := Command.launch_of_unopened noted uncancelled unopened
  unfold begin
  simp only [run_bind, run_lift, prepared, run_record, run_attempt]
  rw [ran]
  dsimp only
  cases refusal : failure.isRefusal with
  | true =>
    refine ⟨_, rfl, ?_, fun ordinary => by cases ordinary⟩
    exact (after.notices_note _ _ _).trans (kept.trans silent)
  | false =>
    obtain rfl := same refusal
    exact ⟨_, rfl, silent, fun _ => rfl⟩

theorem begin_of_opened (prepared : checker.prepare machine bucket = .ok (command, options))
    (uncancelled : checker.token.any world.tokens.isCancelled = false)
    {started : List String × Behaviour}
    (opened : Command.opening machine options command = .ok started) :
    ∃ after, (checker.begin machine bucket).run world = (.ok (.begun world started), after) ∧
      after.notices = world.notices ∧ world.Alike after := by
  let noted := world.note .info .runner ("Running command: " ++ Text.ShellWords.join command)
  have silent : noted.notices = world.notices := world.notices_note _ _ _
  obtain ⟨found, permitted, responds⟩ := Command.opening_eq_ok.mp opened
  have ran : (Command.launch machine checker.token options command).run noted = _ :=
    Command.launch_run found uncancelled permitted responds
  unfold begin
  simp only [run_bind, run_lift, prepared, run_record, run_attempt]
  rw [ran]
  exact ⟨_, rfl, silent, rfl, rfl⟩

theorem executed_of_prepared (calm : machine.Calm)
    (uncancelled : checker.token.any world.tokens.isCancelled = false)
    (rooted : checker.settings.projectRoot.isAbsolute = true)
    (prepared : checker.prepare machine bucket = .ok (command, options))
    (clean : command.any Machine.holdsNull = false) :
    Executed checker machine bucket world ((checker.execute machine bucket).run world) := by
  rw [execute_eq, run_bind]
  have placed := prepare_eq_ok.mp prepared
  cases place : Machine.holdsNull checker.settings.projectRoot.toString with
  | true =>
    obtain ⟨after, begun, silent, same⟩ := begin_of_unopened prepared uncancelled
      (opening_of_misplaced rooted prepared clean place)
    obtain ⟨path, extra, environment, -, read, -⟩ := placed
    rw [begun]
    exact .misplaced after ⟨extra, Settings.arguments_eq_ok.mp read⟩ place (same rfl) silent
  | false =>
    cases opened : Command.opening machine options command with
    | error failure =>
      obtain ⟨after, begun, silent, -⟩ := begin_of_unopened prepared uncancelled opened
      -- Without a null character in the command or the place, only the system can refuse.
      have refusal : failure.isRefusal = true := by
        obtain ⟨path, extra, environment, -, -, -, rfl, rfl⟩ := placed
        apply Command.refused_opening clean _ failure opened
        rintro _ ⟨⟩
        exact place
      rw [begun, if_pos refusal]
      exact .refused command options failure after prepared place opened refusal silent
    | ok started =>
      obtain ⟨arguments, behaviour⟩ := started
      obtain ⟨after, begun, silent, alike⟩ := begin_of_opened prepared uncancelled opened
      rw [begun]
      let process := Process.begun world (arguments, behaviour)
      have found := (Command.opening_eq_ok.mp opened).1
      rw [lookup_of_prepare rooted prepared] at found
      cases found
      have quiet : process.behaviour.interruptedAfter = none :=
        calm.quiet _ _ (Command.opening_eq_ok.mp opened).2.2
      have ends := wait_ends process calm checker.settings.timeout_pos quiet alike.clock
        ((alike.isCancelled checker.token).trans uncancelled)
      dsimp only [finish]
      rw [run_bind]
      have outcome := ends.fate
      have kept := ends.notices
      generalize (Command.wait machine checker.token _ process _).run after = waited
        at outcome kept ⊢
      obtain ⟨_, last⟩ := waited
      cases outcome
      have words : (process.fate checker.settings.timeout).arguments = command :=
        arguments_fate process _
      refine executed_issuesOf (kept.trans silent) ?_
      rw [words]
      exact ⟨options, behaviour, prepared, opened, rfl⟩

theorem environmentFor_eq_error_iff {program : Path} {failure : Failure} :
    environmentFor machine program = .error failure ↔
      machine.look (program.parent / Virtualenv.activationScript machine).toString =
        .error failure := by
  unfold environmentFor Virtualenv.findRoot Machine.isRegularFile
  cases machine.look (program.parent / Virtualenv.activationScript machine).toString with
  | error other => constructor <;> rintro ⟨⟩ <;> rfl
  | ok node => constructor <;> rintro ⟨⟩

/-- The outcome of a check, and when a configuration is blamed. -/
theorem execute_executed (calm : machine.Calm)
    (uncancelled : checker.token.any world.tokens.isCancelled = false)
    (rooted : checker.settings.projectRoot.isAbsolute = true)
    (resolved : ∃ path, checker.settings.resolve machine bucket.executable = .ok path)
    (clean : ∀ command options, checker.prepare machine bucket = .ok (command, options) →
      command.any Machine.holdsNull = false) :
    let ran := (checker.execute machine bucket).run world
    Executed checker machine bucket world ran ∧
      ((∃ failure, ran.1 = .error failure ∧ failure.isConfiguration = true) ↔
        ∃ fault, Text.ShellWords.split checker.settings.extraArguments = .error fault) := by
  obtain ⟨path, resolved⟩ := resolved
  cases read : Text.ShellWords.split checker.settings.extraArguments with
  | error fault =>
    have unread : checker.settings.arguments =
        .error (.badArguments checker.settings.extraArguments fault) := by
      rw [Settings.arguments, read]
      rfl
    have ran : (checker.execute machine bucket).run world =
        (.error (.badArguments checker.settings.extraArguments fault), world) := by
      rw [execute_eq, run_bind]
      simp only [begin, prepare, unread, error_bind, run_bind, run_lift]
    rw [ran]
    exact ⟨.misconfigured fault world read rfl rfl, fun _ => ⟨fault, rfl⟩, fun _ => ⟨_, rfl, rfl⟩⟩
  | ok extra =>
    have words := Settings.arguments_eq_ok.mpr read
    refine ⟨?_, ?_, ?_⟩
    · cases made : environmentFor machine path with
      | error failure =>
        have unprepared : checker.prepare machine bucket = .error failure := by
          simp only [prepare, words, Checker.command, environment, resolved, ok_bind, made]
          rfl
        have ran : (checker.execute machine bucket).run world = (.error failure, world) := by
          rw [execute_eq, run_bind]
          simp only [begin, unprepared, run_bind, run_lift]
        rw [ran]
        exact .unsearched path failure world ⟨extra, read⟩ resolved
          (environmentFor_eq_error_iff.mp made) rfl rfl
      | ok environment =>
        have prepared :=
          prepare_eq_ok.mpr ⟨path, extra, environment, resolved, words, made, rfl, rfl⟩
        exact executed_of_prepared calm uncancelled rooted prepared (clean _ _ prepared)
    · rintro ⟨failure, fails, fault⟩
      rw [execute_outcome calm uncancelled] at fails
      rcases checker.blames_alone machine bucket failure fails with ordinary | unread
      · cases ordinary.2.symm.trans fault
      · cases words.symm.trans unread
    · rintro ⟨fault, ⟨⟩⟩

/-- A checker that is killed by a signal and has said nothing. -/
theorem execute_executed_killed :
    let machine := Command.oneProgram { status := -9 } none
    let checker : Checker := { settings := { projectRoot := Path.ofString "/" }, notifies := true }
    let bucket : Bucket := { executable := "/bin/tool", files := ["a.py"] }
    let ran := (checker.execute machine bucket).run (.initial false)
    Executed checker machine bucket (.initial false) ran ∧
      ran.1 = .error (.checkerFailed (-9) ""
        ["/bin/tool", "--show-column-numbers", "--follow-imports", "silent", "a.py"]) ∧
      ran.2.notices = [.abnormalExit ""] := by
  intro machine checker bucket ran
  have calm : machine.Calm := ⟨rfl, by rintro launch behaviour ⟨⟩; rfl⟩
  have resolved : checker.settings.resolve machine bucket.executable =
      .ok (Path.ofString "/bin/tool") := by decide +kernel
  have clean : ∀ command options, checker.prepare machine bucket = .ok (command, options) →
      command.any Machine.holdsNull = false := by
    intro command options prepared
    have words : (checker.prepare machine bucket).map Prod.fst =
        .ok ["/bin/tool", "--show-column-numbers", "--follow-imports", "silent", "a.py"] := by
      decide +kernel
    rw [prepared] at words
    cases words
    decide +kernel
  obtain ⟨executed, -⟩ := execute_executed calm rfl (by decide +kernel) ⟨_, resolved⟩ clean
  exact ⟨executed, by decide +kernel⟩

/-- A project root with a null character, and a command without one. -/
theorem execute_misplaced :
    let machine := Command.oneProgram {} none
    let checker : Checker := { settings := { projectRoot := Path.ofString "/w\x00" } }
    let bucket : Bucket := { executable := "/bin/tool", files := ["/a.py"] }
    let command :=
      ["/bin/tool", "--show-column-numbers", "--follow-imports", "silent", "/a.py"]
    let ran := (checker.execute machine bucket).run (.initial false)
    machine.Calm ∧ checker.settings.projectRoot.isAbsolute = true ∧
      (checker.prepare machine bucket).map Prod.fst = .ok command ∧
      command.any Machine.holdsNull = false ∧
      ran.1 = .error .embeddedNull ∧ ran.2.launches = [] := by
  intro machine checker bucket command ran
  have calm : machine.Calm := ⟨rfl, by rintro launch behaviour ⟨⟩; rfl⟩
  exact ⟨calm, by decide +kernel⟩

/-- A checker in a directory that may not be searched. -/
theorem execute_unsearched :
    let machine := { Command.oneProgram {} none with
      refuses := fun place => if place.head? = some "bin" ∧ place.length = 2
        then some .accessDenied else none }
    let checker : Checker := { settings := { projectRoot := Path.ofString "/" } }
    let bucket : Bucket := { executable := "/bin/tool", files := ["/a.py"] }
    let ran := (checker.execute machine bucket).run (.initial false)
    ran.1 = .error (.system .accessDenied "/bin/activate") ∧ ran.2.launches = [] := by
  decide +kernel

end Checker

end CheckRouter
