import CheckRouter.Proofs.Grouping
import CheckRouter.Proofs.Stages
import CheckRouter.Proofs.Stops

/-!
# Configuration failures

A configuration failure is all or nothing: when a scan fails because of what it was given, it has
checked nothing. Among the files that it was given, it fails because of the first that is no source:
one that is not there or is a directory is named, and of one that the system refuses to look up
nothing is told but the refusal.
-/

namespace CheckRouter

open CheckRouter.Action

namespace Failure

theorem isStop_of_isConfiguration {failure : Failure} (fault : failure.isConfiguration = true) :
    failure.isStop = false := by
  cases failure with
  | stopped stop => cases fault
  | _ => rfl

end Failure

/-! ## Checks that fail -/

section Blames

variable {machine : Machine} {checker : Checker} {token : Token} {failure : Failure}

/-- A stop, or a failure that says nothing of a configuration unless arguments cannot be read. -/
def Settings.Fails (settings : Settings) (failure : Failure) : Prop :=
  failure.isStop = true ∨ settings.Blames failure

theorem Checker.finish_fails (checker : Checker) (machine : Machine) (bucket : Bucket)
    {process : Command.Process} {world : World} (running : world.clock ≤ process.endsAt)
    (uninterrupted : ∀ due ∈ process.interruptedAt, world.clock ≤ due) :
    FailsOnly checker.settings.Fails ((checker.finish machine bucket process).run world).1 := by
  have reads (completed : Completed) (after : World) :
      FailsOnly checker.settings.Fails ((checker.issuesOf bucket completed).run after).1 := by
    rw [issuesOf_outcome]
    exact (ordinary_reading completed).mono fun _ ordinary => .inr (.inl ordinary)
  have waited : Command.Waited process world ((Command.wait machine checker.token
      checker.settings.timeout process (Command.enoughPolls process)).run world) :=
    Command.waited running uninterrupted
  rw [finish, run_bind]
  generalize (Command.wait machine checker.token _ process _).run world = ran at waited ⊢
  cases waited with
  | collected after passes silent ended => exact reads _ after
  | stopped stop after passes told => exact failsOnly_error (.inl rfl)
  | expired bound after passes silent => exact reads _ after

theorem Checker.execute_fails (checker : Checker) (machine : Machine) (bucket : Bucket)
    (world : World) :
    FailsOnly checker.settings.Fails ((checker.execute machine bucket).run world).1 := by
  have still := checker.still_begin machine bucket world
  have begins := checker.begin_outcome machine bucket world
  rw [execute_eq, run_bind]
  cases ran : (checker.begin machine bucket).run world with
  | mk outcome after =>
    rw [ran] at begins still
    simp only at begins still
    rcases begins with begins | ⟨-, rfl⟩
    · cases opened : checker.opening machine bucket with
      | error failure =>
        rw [opened] at begins
        subst begins
        exact failsOnly_error (.inr (checker.blames_opening machine bucket failure opened))
      | ok started =>
        rw [opened] at begins
        subst begins
        have start : after.clock = (Command.Process.begun world started).startedAt := still.clock
        apply checker.finish_fails machine bucket
        · rw [start]
          exact Command.startedAt_le_endsAt _
        · intro due known
          rw [start]
          exact Command.startedAt_le_interruptedAt known
    · exact failsOnly_error (.inl rfl)

theorem Scan.inTurn_fails (buckets : List Bucket) (world : World) :
    FailsOnly checker.settings.Fails ((inTurn machine checker token buckets).run world).1 := by
  induction buckets generalizing world with
  | nil => exact failsOnly_ok []
  | cons bucket rest ih =>
    rw [inTurn_cons]
    split
    · exact failsOnly_error (.inl rfl)
    · have fails := checker.execute_fails machine bucket world
      split
      · next failure after ran =>
        rw [ran] at fails
        exact fails
      · next issues after ran => exact (ih after).map _

theorem Scan.execute_fails (buckets : List Bucket) (world : World) :
    FailsOnly checker.settings.Fails ((execute machine checker token buckets).run world).1 := by
  unfold execute
  split
  · exact inTurn_fails buckets world
  · obtain ⟨turns, last, outcome, complete, -, ran⟩ :=
      Pool.exists_complete machine checker token buckets world
    rw [ran]
    rintro failure rfl
    rcases complete.blamed with stop | ⟨bucket, -, alone⟩
    · exact .inl stop
    · exact .inr (checker.blames_alone machine bucket failure alone)

/-- Checks that fail because of the configuration have started nothing. -/
theorem Scan.execute_unstarted {buckets : List Bucket} {world after : World}
    (checks : checker.ChecksIn machine buckets world after)
    (fails : checker.settings.Fails failure) (fault : failure.isConfiguration = true) :
    after.launches = world.launches := by
  have unread : checker.settings.arguments = .error failure := by
    rcases fails with stop | ordinary | unread
    · rw [Failure.isStop_of_isConfiguration fault] at stop
      cases stop
    · rw [ordinary.2] at fault
      cases fault
    · exact unread
  obtain ⟨launches, started, each⟩ := checks.exists_bucket
  cases launches with
  | nil => rwa [List.append_nil] at started
  | cons launch others =>
    obtain ⟨bucket, -, launched⟩ := each launch List.mem_cons_self
    obtain ⟨command, options, arguments, prepared, -⟩ := Checker.checkOf_eq_ok.mp launched
    unfold Checker.prepare at prepared
    rw [unread] at prepared
    cases prepared

end Blames

/-! ## Sources -/

namespace Routing

variable {machine : Machine} {router : Router} {project : Toolchain} {files : List String}
  {world : World}

/-- Every directory that is met before the first file that is no source can be resolved. -/
def Resolves (machine : Machine) (router : Router) (project : Toolchain) (files : List String)
    (world : World) : Prop :=
  ∀ file ∈ files.takeWhile (machine.sourceFault? · |>.isNone), ∃ given,
    ((resolve machine router {} (Path.ofString file).parent project).run world).1.map Prod.fst =
      .ok given

theorem toolchain_of_resolves {front rest : List String}
    (sources : ∀ other ∈ front, machine.sourceFault? other = none)
    (resolves : Resolves machine router project (front ++ rest) world) :
    ∀ file ∈ front, toolchain machine router project (Path.ofString file).parent =
      .ok (assigned machine router project (Path.ofString file).parent) := by
  intro file member
  have early : file ∈ (front ++ rest).takeWhile (machine.sourceFault? · |>.isNone) := by
    rw [List.takeWhile_append_of_pos (by simpa using sources)]
    exact List.mem_append_left _ member
  obtain ⟨given, resolved⟩ := resolves file early
  exact toolchain_eq_assigned (toolchain_of_resolve resolved)

theorem firstFault_eq_invalid_iff {path : String} :
    files.findSome? machine.sourceFault? = some (.invalidSource path) ↔
      ∃ front rest, files = front ++ path :: rest ∧
        (∀ other ∈ front, machine.holdsFile (Path.ofString other) = .ok true) ∧
        (machine.pathExists (Path.ofString path) = .ok false ∨
          machine.isDirectory (Path.ofString path) = .ok true) := by
  simp only [List.findSome?_eq_some_iff, sourceFault_eq_none_iff, sourceFault_eq_invalid_iff]
  constructor
  · rintro ⟨front, file, rest, same, ⟨rfl, invalid⟩, sources⟩
    exact ⟨front, rest, same, sources, invalid⟩
  · rintro ⟨front, rest, same, sources, invalid⟩
    exact ⟨front, path, rest, same, ⟨rfl, invalid⟩, sources⟩

/-- A partition fails because of the first file that is no source. -/
theorem comes_partition_fault {failure : Failure}
    (first : files.findSome? machine.sourceFault? = some failure)
    (resolves : Resolves machine router project files world) :
    Comes router.token (partition machine router project files) (.error failure) := by
  obtain ⟨front, file, rest, rfl, faulty, sources⟩ := List.findSome?_eq_some_iff.mp first
  have fresh := toolchain_of_resolves sources resolves
  obtain ⟨after, goesOn⟩ := comes_distribute_append (unlearnt_sound machine router project)
    (fun other member => sourceFault_eq_none_iff.mp (sources other member)) fresh [] (file :: rest)
  have fails := goesOn (.error failure) <| .of_run fun world =>
    congrArg Prod.fst (distribute_of_fault faulty _ _ _ world)
  exact fails.bind_error

theorem exists_partition (sources : ∀ file ∈ files, machine.sourceFault? file = none)
    (resolves : Resolves machine router project files world) :
    ∃ buckets, Comes router.token (partition machine router project files) (.ok buckets) := by
  rw [← List.append_nil files] at resolves
  exact ⟨_, comes_partition (fun file member => sourceFault_eq_none_iff.mp (sources file member))
    (toolchain_of_resolves sources resolves)⟩

end Routing

namespace Scan

variable {machine : Machine} {settings : Settings} {notifies : Bool} {given : Option Token}
  {token : Token} {project : Toolchain} {files : List String} {world checked : World}

/-- Preparations in which nothing goes wrong but that a file is no source: the checker can be used,
the configuration of the project is valid, no probe fails and nobody cancels. -/
structure Smooth (machine : Machine) (settings : Settings) (notifies : Bool) (given : Option Token)
    (files : List String) (world : World) (token : Token) (project : Toolchain)
    (checked : World) : Prop where
  filled : files ≠ []
  available : ∃ entered, (tokenFor given).run world = (.ok token, entered) ∧
    (Preflight.check machine ⟨settings, notifies, some token⟩ notifies).run entered =
      (.ok ⟨project.executable, true⟩, checked)
  configured : settings.configFile machine = .ok project.configFile
  resolves : Routing.Resolves machine (router settings token) project files checked
  uncancelled : ((Routing.partition machine (router settings token) project files).run
    checked).2.tokens.isCancelled token = false

namespace Smooth

theorem run_of_fault {failure : Failure}
    (smooth : Smooth machine settings notifies given files world token project checked)
    (first : files.findSome? machine.sourceFault? = some failure) :
    ((run machine settings notifies given files).run world).1 = .error failure := by
  obtain ⟨entered, opened, available⟩ := smooth.available
  have comes : Comes (some token) _ _ := Routing.comes_partition_fault first smooth.resolves
  have fails := (comes checked).resolve_right fun halted => by
    have cancelled := halted.1.symm.trans smooth.uncancelled
    cases cancelled
  have some_given : files.isEmpty = false := List.isEmpty_eq_false_iff.mpr smooth.filled
  cases partitioned : (Routing.partition machine (router settings token) project files).run
      checked with
  | mk outcome routed =>
    rw [partitioned] at fails
    cases fails
    simp only [run, some_given, Bool.false_eq_true, if_false, run_bind, opened, available, if_true,
      check, run_lift, smooth.configured, partitioned]

theorem run_ne_invalid
    (smooth : Smooth machine settings notifies given files world token project checked)
    (sources : ∀ file ∈ files, machine.sourceFault? file = none) (path : String) :
    ((run machine settings notifies given files).run world).1 ≠ .error (.invalidSource path) := by
  obtain ⟨entered, opened, available⟩ := smooth.available
  obtain ⟨buckets, comes⟩ := Routing.exists_partition sources smooth.resolves
  have found := (comes checked).resolve_right fun halted => by
    have cancelled := halted.1.symm.trans smooth.uncancelled
    cases cancelled
  obtain ⟨outcome, -⟩ := run_of_prepared smooth.filled opened available smooth.configured
    (Prod.ext found rfl)
  intro fails
  rw [outcome] at fails
  rcases execute_fails buckets _ _ fails with stop | ordinary | unread
  · cases stop
  · cases ordinary.2
  · obtain ⟨fault, same⟩ := Settings.arguments_eq_error unread
    cases same

end Smooth

/-- A configuration failure is all or nothing. A scan of no files starts no program, and one that
fails because of what it was given has started no check. If nothing else goes wrong, it fails because
of the first file that is no source: it names that file just if it is told that nothing is there or a
directory, and else fails with the refusal to look the file up. -/
theorem run_configuration (machine : Machine) (settings : Settings) (notifies : Bool)
    (given : Option Token) (files : List String) (world : World) :
    let result := (run machine settings notifies given files).run world
    (files = [] → result = (.error .noSources, world)) ∧
      (∀ failure, result.1 = .error failure → failure.isConfiguration = true →
        ∃ more, result.2.launches = world.launches ++ more ∧ ∀ launch ∈ more, ¬launch.Checks) ∧
      ∀ token project checked,
        Smooth machine settings notifies given files world token project checked →
          (∀ path, result.1 = .error (.invalidSource path) ↔
            ∃ front rest, files = front ++ path :: rest ∧
              (∀ other ∈ front, machine.holdsFile (Path.ofString other) = .ok true) ∧
              (machine.pathExists (Path.ofString path) = .ok false ∨
                machine.isDirectory (Path.ofString path) = .ok true)) ∧
          ∀ front path rest failure, files = front ++ path :: rest →
            (∀ other ∈ front, machine.holdsFile (Path.ofString other) = .ok true) →
            machine.look (Path.ofString path).toString = .error failure →
              result.1 = .error failure := by
  intro result
  refine ⟨?_, fun failure fails fault => ?_, fun token project checked smooth =>
    ⟨fun path => ?_, fun front path rest failure same sources refused => ?_⟩⟩
  · rintro rfl
    rfl
  · rcases run_staged machine settings notifies given files world with
      ⟨-, same⟩ | ⟨token, entered, -, same, staged⟩
    · refine ⟨[], ?_, by simp⟩
      show ((run _ _ _ _ _).run world).2.launches = _
      rw [same, List.append_nil]
    · rw [← same]
      cases staged with
      | prepared more started brief =>
        exact ⟨more, started, fun launch member => (brief launch member).not_checks⟩
      | checked buckets routed more routes started brief outcome checks =>
        have unstarted := execute_unstarted checks
          (execute_fails buckets routed failure (outcome.symm.trans fails)) fault
        exact ⟨more, unstarted.trans started, fun launch member =>
          (brief launch member).not_checks⟩
  · rw [← Routing.firstFault_eq_invalid_iff]
    cases first : files.findSome? machine.sourceFault? with
    | none =>
      have sources := List.findSome?_eq_none_iff.mp first
      exact iff_of_false (smooth.run_ne_invalid sources path) (by simp)
    | some failure =>
      have fails : result.1 = .error failure := smooth.run_of_fault first
      simp [fails]
  · refine smooth.run_of_fault (List.findSome?_eq_some_iff.mpr ?_)
    exact ⟨front, path, rest, same, Routing.sourceFault_of_look refused, fun other member =>
      Routing.sourceFault_eq_none_iff.mpr (sources other member)⟩

/-- A source that is a directory is named, the missing one after it is not. By then the directory
of the first file has been asked about, and nothing has been checked. -/
theorem run_configuration_twoDirectories :
    let settings : Settings :=
      { projectRoot := Path.ofString "/", executablePath := "/v/bin/mypy", autodetect := true }
    let result := (run Routing.twoDirectories settings false (some callerToken)
      ["/p/a.py", "/q", "/missing"]).run (World.initial false)
    result.1 = .error (.invalidSource "/q") ∧ result.2.launches.length = 3 ∧
      ∀ launch ∈ result.2.launches, ¬launch.Checks := by
  intro settings result
  let checker : Checker := ⟨settings, false, some callerToken⟩
  let answered := (Preflight.check Routing.twoDirectories checker false).run (World.initial false)
  have available : answered.1 = .ok ⟨"/v/bin/mypy", true⟩ := by decide +kernel
  have smooth : Smooth Routing.twoDirectories settings false (some callerToken)
      ["/p/a.py", "/q", "/missing"] (World.initial false) callerToken ⟨"/v/bin/mypy", ""⟩
      answered.2 := by
    refine ⟨by simp, ⟨_, rfl, Prod.ext available rfl⟩, rfl, ?_, by decide +kernel⟩
    have early : ["/p/a.py", "/q", "/missing"].takeWhile
        (Routing.twoDirectories.sourceFault? · |>.isNone) = ["/p/a.py"] := by decide +kernel
    intro file member
    rw [early, List.mem_singleton] at member
    subst member
    exact ⟨⟨"/v/bin/mypy", ""⟩, by decide +kernel⟩
  obtain ⟨-, unchecked, named⟩ := run_configuration Routing.twoDirectories settings false
    (some callerToken) ["/p/a.py", "/q", "/missing"] (World.initial false)
  have fails := ((named _ _ _ smooth).1 "/q").mpr
    ⟨["/p/a.py"], ["/missing"], rfl, by decide +kernel, .inr (by decide +kernel)⟩
  obtain ⟨more, started, each⟩ := unchecked _ fails rfl
  have all : result.2.launches = more := started
  exact ⟨fails, by decide +kernel, all ▸ each⟩

/-- Sources that are not there but go unnamed: of one in a directory that may not be searched only the
refusal is told, and one with a slash behind the name of a file is checked as that file. -/
theorem run_unnamed_twoDirectories :
    let machine : Machine := { Routing.twoDirectories with
      files := ⟨(["w"], .directory) :: Routing.twoDirectories.files.nodes⟩
      refuses := fun place => if place = ["w", "c.py"] then some .accessDenied else none }
    let settings : Settings := { projectRoot := Path.ofString "/", executablePath := "/v/bin/mypy" }
    let scan (file : String) :=
      ((run machine settings false (some callerToken) [file]).run (World.initial false)).1
    machine.files.node? ["w", "c.py"] = none ∧
      scan "/w/c.py" = .error (.system .accessDenied "/w/c.py") ∧
      machine.disk.find true machine.directory "/p/a.py/" = .error .notDirectory ∧
      scan "/p/a.py/" = .ok [] := by
  decide +kernel

end Scan

end CheckRouter
