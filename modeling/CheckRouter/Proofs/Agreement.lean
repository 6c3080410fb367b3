import CheckRouter.CommandLine.Run
import CheckRouter.Proofs.Discipline
import CheckRouter.Proofs.Precedence
import CheckRouter.Proofs.Recall
import CheckRouter.Proofs.Resolution

/-!
# An executable that is checked by itself or named for a scan

An executable may be checked by itself, or be named for a scan, which then looks for no other
checker. The two load different settings and run under different tokens. Of the settings only the
project root matters for an executable that is named, and the token of a scan is out of the reach of
the caller, so `run_checkPath_iff` says that both ask the same and come to the same verdict.
-/

namespace CheckRouter

open CheckRouter.Action

variable {machine : Machine} {settings : Settings} {executable : String}

/-! ## What two loads have in common -/

theorem Settings.executablePath_of_ofEntries {entries : Entries} {root : Path}
    (given : entries.get? "executable_path" = some (.text executable))
    (found : ofEntries root entries = .ok settings) : settings.executablePath = executable := by
  have here : Field.read entries "executable_path" (.ok "") Field.text = .ok executable := by
    rw [Field.read, given]
    rfl
  unfold ofEntries at found
  simp only [here] at found
  split at found
  · cases found
    simp_all
  · cases found

namespace ProjectFile

variable {root : Path} {overrides : Entries}

theorem load_eq_ok : load machine root overrides = .ok settings ↔
    ∃ base file, machine.resolve root = .ok base ∧ readSection machine base = .ok file ∧
      Settings.ofEntries base (merge file overrides) = .ok settings := by
  unfold load
  cases machine.resolve root with
  | error failure => simp [error_bind]
  | ok base =>
    rw [ok_bind]
    cases read : readSection machine base with
    | error failure => simp [error_bind, read]
    | ok file =>
      rw [ok_bind]
      cases made : Settings.ofEntries base (merge file overrides) with
      | error faults => simp [Except.mapError, read, made]
      | ok others => simp [Except.mapError, read, made]

theorem resolve_of_load (loaded : load machine root overrides = .ok settings) :
    machine.resolve root = .ok settings.projectRoot := by
  obtain ⟨base, file, resolved, -, made⟩ := load_eq_ok.mp loaded
  rw [Settings.projectRoot_of_ofEntries (get?_merge_root file overrides) made]
  exact resolved

theorem executablePath_of_load (loaded : load machine root overrides = .ok settings)
    (given : given? overrides "executable_path" = some (.text executable)) :
    settings.executablePath = executable := by
  obtain ⟨base, file, -, -, made⟩ := load_eq_ok.mp loaded
  refine Settings.executablePath_of_ofEntries ?_ made
  rw [get?_merge file overrides (by decide), given, Option.some_or]

end ProjectFile

/-! ## Validations with other settings and tokens -/

namespace Checker

variable {token : Option Token} {world : World}

/-- Of the settings a validation reads only the project root. -/
theorem validate_congr {one other : Settings} (rooted : one.projectRoot = other.projectRoot)
    (notifies : Bool) (token : Option Token) (machine : Machine) (executable : String) :
    validate ⟨one, notifies, token⟩ machine executable =
      validate ⟨other, notifies, token⟩ machine executable := by
  simp only [validate, launcher, Settings.resolve, rooted]

theorem isQuery_congr {one other : Settings} (rooted : one.projectRoot = other.projectRoot)
    (launch : Launch) : IsQuery { settings := one } machine executable launch ↔
      IsQuery { settings := other } machine executable launch := by
  simp only [IsQuery, launcher, Settings.resolve, rooted]

theorem uniform_judge (completed : Completed) : Uniform fun _ => judge completed := by
  have same : ∀ token : Option Token, Comes token (judge completed) (.ok completed.ok) := by
    refine fun token => .of_run fun world => ?_
    obtain ⟨after, judged, -⟩ := judge_run completed world
    rw [judged]
  exact .of_comes same

theorem uniform_weigh (command : List String) (outcome : Except Failure Completed) :
    Uniform fun _ => weigh command outcome := by
  cases outcome with
  | ok completed => exact uniform_judge completed
  | error failure =>
    have notes : Uniform fun _ => (do
        record .info .runner ("Command Line string: " ++ Text.ShellWords.join command)
        record .warning .runner ("Error while checking mypy path: " ++ failure.message)
        return false : Action Bool) :=
      (uniform_record _ _ _).bind fun _ => (uniform_record _ _ _).bind fun _ => uniform_pure _
    exact .ite ((uniform_throw _).bind fun _ => notes) notes

/-- Nothing that happens while an executable is validated cancels a token that the caller does not
reach. -/
theorem keeps_uncancelled (unreached : Command.cancelTime machine token = none)
    (checker : Checker) (executable : String) :
    Keeps (fun world => token.any world.tokens.isCancelled)
      (checker.validate machine executable) := by
  refine checker.keeps_validate machine ⟨⟨?_, ?_⟩, ?_, ?_⟩ ?_ ?_ executable
  · exact fun _ _ _ _ => rfl
  · exact fun _ _ => rfl
  · exact fun _ _ => rfl
  · exact fun _ _ => rfl
  · exact fun _ _ => rfl
  · intro world time
    simp [Command.isCancelled_movedTo, unreached]

/-- What an executable comes to is known without a program, or one command asks for its version,
whoever watches over that. -/
theorem validate_cases (settings : Settings) (machine : Machine) (executable : String) :
    (∃ result, ∀ notifies token world, ∃ after,
        (validate ⟨settings, notifies, token⟩ machine executable).run world = (result, after) ∧
          after.launches = world.launches) ∨
      ∃ command options,
        examine { settings } machine executable = .ok (.file command options) ∧
          ∀ notifies token, validate ⟨settings, notifies, token⟩ machine executable =
            attempt (Command.run machine token options command) >>= weigh command := by
  by_cases unnamed : executable = ""
  · refine .inl ⟨.ok false, fun notifies token world => ⟨world, ?_, rfl⟩⟩
    rw [validate_eq, if_pos unnamed]
    rfl
  · have inquires (notifies : Bool) (token : Option Token) :
        validate ⟨settings, notifies, token⟩ machine executable =
          liftM (examine { settings } machine executable) >>=
            inquire ⟨settings, notifies, token⟩ machine :=
      (validate_eq _ _ _).trans (if_neg unnamed)
    cases examined : examine { settings } machine executable with
    | error failure =>
      refine .inl ⟨.error failure, fun notifies token world => ⟨world, ?_, rfl⟩⟩
      rw [inquires, examined]
      rfl
    | ok found =>
      cases found with
      | noFile path =>
        refine .inl ⟨.ok false, fun notifies token world => ?_⟩
        rw [inquires, examined]
        exact ⟨_, rfl, silent_launches.note world _ _ _⟩
      | file command options =>
        refine .inr ⟨command, options, rfl, fun notifies token => ?_⟩
        rw [inquires, examined]
        rfl

/-- What the validation of an executable comes to when nobody stops it. -/
theorem validate_unstopped (settings : Settings) (notifies : Bool) (executable : String)
    (unreached : Command.cancelTime machine token = none)
    (uncancelled : token.any world.tokens.isCancelled = false) :
    ((validate ⟨settings, notifies, token⟩ machine executable).run world).1 =
      (validate { settings } machine executable).outcome := by
  rw [outcome]
  rcases validate_cases settings machine executable with
    ⟨result, settled⟩ | ⟨command, options, -, asks⟩
  · obtain ⟨after, ran, -⟩ := settled notifies token world
    obtain ⟨last, alone, -⟩ := settled false none (.initial false)
    rw [ran, alone]
  · have kept := keeps_uncancelled unreached ⟨settings, notifies, token⟩ executable world
    have uniform : Uniform fun token =>
        attempt (Command.run machine token options command) >>= weigh command :=
      (Command.uniform_run machine _ _).attempt_bind (fun stop => rfl) (uniform_weigh _)
    rw [asks] at kept ⊢
    rw [asks]
    -- a run that halts has its token cancelled at the end, and nobody can have done that
    refine (uniform token world).resolve_right ?_
    rintro ⟨cancelled, -⟩
    cases (kept.trans uncancelled).symm.trans cancelled

/-- The program that is asked for its version, if the system is asked to run it, is the same whoever
watches over the validation of an executable. -/
theorem exists_query (settings : Settings) (machine : Machine) (executable : String) :
    ∃ query : Option Launch,
      (∀ launch ∈ query, IsQuery { settings } machine executable launch) ∧
        ∀ notifies token world, token.any world.tokens.isCancelled = false →
          ((validate ⟨settings, notifies, token⟩ machine executable).run world).2.launches =
            world.launches ++ query.toList := by
  rcases validate_cases settings machine executable with
    ⟨result, settled⟩ | ⟨command, options, examined, asks⟩
  · refine ⟨none, by simp, fun notifies token world _ => ?_⟩
    obtain ⟨after, ran, unstarted⟩ := settled notifies token world
    rw [ran]
    exact unstarted.trans (List.append_nil _).symm
  · refine ⟨Command.admitted? machine options command,
      fun launch admitted => ?_, fun notifies token world uncancelled => ?_⟩
    · obtain ⟨path, words, environment, resolved, -, worded, made, rfl, rfl⟩ :=
        examine_eq_file.mp examined
      obtain ⟨arguments, found, rfl⟩ := Command.of_mem_admitted admitted
      exact ⟨path, words, arguments, environment, resolved, worded, found, made, rfl⟩
    · rw [asks, run_bind, run_attempt]
      refine (keeps_weigh silent_launches.toUnnoting _ _ _).trans ?_
      rcases Command.run_admitted machine token options command world with
        started | ⟨cancelled, -⟩
      · exact started
      · cases uncancelled.symm.trans cancelled

end Checker

/-! ## How a scan begins -/

namespace Preflight

variable {notifies : Bool} {token : Option Token} {world : World}

/-- What a preflight makes of the validation of an executable that is named: one that works is
available. For one that does not it advises the user, which fails if the interpreter is nowhere. -/
inductive Heeds (machine : Machine) (settings : Settings) (executable : String) :
    Except Failure Bool × World → Except Failure Availability × World → Prop
  | works (asked : World) :
      Heeds machine settings executable (.ok true, asked) (.ok ⟨executable, true⟩, asked)
  | unusable (asked after : World) (still : after.launches = asked.launches) :
      Heeds machine settings executable (.ok false, asked) (.ok ⟨executable, false⟩, after)
  | unadvised (failure : Failure) (asked after : World) (still : after.launches = asked.launches)
      (lost : interpreter? machine settings = .error failure) :
      Heeds machine settings executable (.ok false, asked) (.error failure, after)
  | failed (failure : Failure) (asked : World) :
      Heeds machine settings executable (.error failure, asked) (.error failure, asked)

theorem advise_ends (machine : Machine) (settings : Settings) (world : World) :
    (∃ after, (advise machine settings).run world = (.ok (), after)) ∨
      ∃ failure, interpreter? machine settings = .error failure ∧
        (advise machine settings).run world = (.error failure, world) := by
  rw [advise, run_bind, run_lift]
  cases interpreter? machine settings with
  | error failure => exact .inr ⟨failure, rfl, rfl⟩
  | ok found => cases found <;> exact .inl ⟨_, rfl⟩

theorem check_heeds (named : executable ≠ "") (given : settings.executablePath = executable)
    (world : World) :
    Heeds machine settings executable
      ((Checker.validate ⟨settings, notifies, token⟩ machine executable).run world)
      ((check machine ⟨settings, notifies, token⟩ notifies).run world) := by
  have found : executable != "" := by simpa using named
  simp only [check, Preflight.executable, given, found, if_true, pure_bind]
  rw [run_bind]
  rcases (Checker.validate ⟨settings, notifies, token⟩ machine executable).run world with
    ⟨_ | _ | _, asked⟩
  · exact .failed _ _
  · cases notifies with
    | false => exact .unusable _ _ rfl
    | true =>
      have still := keeps_advise machine silent_launches.toUnnoting settings asked
      simp only [if_true, run_bind, Bool.false_eq_true, if_false]
      rcases advise_ends machine settings asked with ⟨after, ran⟩ | ⟨failure, lost, ran⟩
      · rw [ran] at still ⊢
        exact .unusable _ _ still
      · rw [ran] at still ⊢
        exact .unadvised _ _ _ still lost
  · exact .works _

end Preflight

namespace Scan

variable {notifies : Bool} {given : Option Token} {world : World}

/-- A scan until it knows whether it has a checker. -/
def seek (machine : Machine) (settings : Settings) (notifies : Bool) (given : Option Token) :
    Action (Token × Availability) := do
  let token ← tokenFor given
  let availability ← Preflight.check machine ⟨settings, notifies, some token⟩ notifies
  return (token, availability)

theorem run_eq_seek {files : List String} (filled : files ≠ []) :
    run machine settings notifies given files =
      seek machine settings notifies given >>= fun sought =>
        proceed machine ⟨settings, notifies, some sought.1⟩ sought.1 files sought.2 := by
  have some_given : files.isEmpty = false := List.isEmpty_eq_false_iff.mpr filled
  simp only [run, seek, some_given, Bool.false_eq_true, if_false, bind_assoc, pure_bind]
  rfl

theorem seek_of_tokenFor {token : Token} {entered : World}
    (opened : (tokenFor given).run world = (.ok token, entered)) :
    (seek machine settings notifies given).run world =
      let checked :=
        (Preflight.check machine ⟨settings, notifies, some token⟩ notifies).run entered
      (checked.1.map (token, ·), checked.2) := by
  rw [seek, run_bind, opened]
  exact run_map entered (Preflight.check machine ⟨settings, notifies, some token⟩ notifies) _

/-- The token that a scan makes for itself is new and out of the reach of the caller. -/
theorem tokenFor_initial (machine : Machine) :
    ∃ token entered, (tokenFor none).run (.initial false) = (.ok token, entered) ∧
      entered.launches = [] ∧ entered.tokens.isCancelled token = false ∧
      Command.cancelTime machine (some token) = none :=
  ⟨_, _, rfl, rfl, rfl, rfl⟩

/-- A scan for which an executable is named makes of it what its validation by itself comes to, and
starts the same. -/
theorem seek_validates (notifies : Bool) (named : executable ≠ "")
    (given : settings.executablePath = executable) :
    let validated := (Checker.validate { settings } machine executable).run (.initial false)
    let sought := (seek machine settings notifies none).run (.initial false)
    (validated.1 = .ok true ↔ ∃ token, sought.1 = .ok (token, ⟨executable, true⟩)) ∧
      (∀ token found, sought.1 = .ok (token, found) →
        found.executable = executable ∧ validated.1 = .ok found.available) ∧
      ∃ query : Option Launch,
        (∀ launch ∈ query, Checker.IsQuery { settings } machine executable launch) ∧
          validated.2.launches = query.toList ∧ sought.2.launches = query.toList := by
  intro validated sought
  obtain ⟨token, entered, opened, unstarted, uncancelled, unreached⟩ := tokenFor_initial machine
  obtain ⟨query, queries, asks⟩ := Checker.exists_query settings machine executable
  have alone := asks false none (.initial false) rfl
  have asked := asks notifies (some token) entered uncancelled
  have verdict : _ = validated.1 := Checker.validate_unstopped settings notifies executable
    unreached uncancelled
  have heeds : Preflight.Heeds machine settings executable
      ((Checker.validate ⟨settings, notifies, some token⟩ machine executable).run entered) _ :=
    Preflight.check_heeds named given entered
  rw [unstarted] at asked
  have begun : sought = _ := seek_of_tokenFor opened
  rw [begun]
  -- from here on it matters only what the validation with the token of the scan came to
  generalize Action.run (Checker.validate _ _ _) entered = ran at heeds asked verdict
  generalize Action.run (Preflight.check _ _ _) entered = checked at heeds
  rw [← verdict]
  cases heeds with
  | works last =>
    refine ⟨⟨fun _ => ⟨token, rfl⟩, fun _ => rfl⟩, ?_, query, queries, alone, asked⟩
    rintro _ _ ⟨⟩
    exact ⟨rfl, rfl⟩
  | unusable last after still =>
    refine ⟨by simp [Except.map], ?_, query, queries, alone, still.trans asked⟩
    rintro _ _ ⟨⟩
    exact ⟨rfl, rfl⟩
  | unadvised failure last after still lost =>
    refine ⟨by simp [Except.map], ?_, query, queries, alone, still.trans asked⟩
    rintro _ _ ⟨⟩
  | failed failure last =>
    refine ⟨by simp [Except.map], ?_, query, queries, alone, asked⟩
    rintro _ _ ⟨⟩

/-- A scan that knows whether it has a checker leaves what was started, and starts more only if it
has one. -/
theorem run_launches_of_sought {files : List String} (filled : files ≠ []) (world : World) :
    let sought := (seek machine settings notifies given).run world
    ∃ more,
      ((run machine settings notifies given files).run world).2.launches =
          sought.2.launches ++ more ∧
        ((∀ token found, sought.1 = .ok (token, found) → found.available = false) → more = []) := by
  intro sought
  obtain ⟨token, entered, opened, -, -, ran⟩ :=
    run_of_filled machine settings notifies given world filled
  have begun : sought = _ := seek_of_tokenFor opened
  rw [ran, run_bind, begun]
  rcases answers : (Preflight.check machine ⟨settings, notifies, some token⟩ notifies).run entered
    with ⟨failure | ⟨executable, _ | _⟩, checked⟩
  · exact ⟨[], by simp, fun _ => rfl⟩
  · have noted := silent_launches.note checked .info .scanner
      ("mypy is not available; skipping scan of " ++ toString files.length ++ " files")
    exact ⟨[], noted.trans (List.append_nil _).symm, fun _ => rfl⟩
  · have disciplined : Disciplined machine ⟨settings, notifies, some token⟩ token _ checked
        ((check machine ⟨settings, notifies, some token⟩ token executable files).run checked) :=
      disciplined_check answers
    obtain ⟨rest, started⟩ := disciplined.grows.started
    refine ⟨rest.map Started.launch, ?_, fun unavailable => ?_⟩
    · exact (congrArg (List.map Started.launch) started).symm.trans (List.map_append ..)
    · cases unavailable token _ rfl

end Scan

namespace CommandLine

variable {root : String}

theorem checkPath_ends (loads : ProjectFile.load machine (Path.ofString root) [] = .ok settings)
    (executable : String) (verbose : Bool) :
    let validated := (Checker.validate { settings } machine executable).run (.initial false)
    let checked := run machine (.checkPath executable root verbose)
    (checked.ending = .exit 0 ↔ validated.1 = .ok true) ∧
      (checked.ending = .exit 1 ↔ validated.1 = .ok false) ∧
      checked.started = validated.2.started := by
  unfold run runCheckPath
  dsimp only
  rw [loads]
  dsimp only [checkExecutable]
  rcases (Checker.validate { settings } machine executable).run (.initial false) with
    ⟨_ | _ | _, asked⟩ <;> simp

theorem run_mapM_lift {α β : Type} (f : α → Except Failure β) (entries : List α)
    (world : World) : (entries.mapM fun entry => (liftM (f entry) : Action β)).run world =
      (entries.mapM f, world) := by
  induction entries with
  | nil => rfl
  | cons entry rest ih =>
    rw [List.mapM_cons, List.mapM_cons, run_bind, run_lift]
    cases f entry with
    | error failure => rfl
    | ok value =>
      dsimp only
      rw [run_bind, ih, ok_bind]
      cases rest.mapM f <;> rfl

theorem scanIssues_run {request : ScanRequest} {files : List Path}
    (loads : ProjectFile.load machine (Path.ofString request.root) request.overrides = .ok settings)
    (resolved : request.files.mapM (fun file => machine.resolve (Path.ofString file)) = .ok files)
    (world : World) :
    (scanIssues machine request).run world =
      (Scan.run machine settings true none (files.map Path.toString)).run world := by
  rw [scanIssues, run_bind, run_lift, loads]
  dsimp only
  rw [run_bind, run_mapM_lift, resolved]

theorem scan_started (request : ScanRequest) :
    (run machine (.scan request)).started =
      ((scanIssues machine request).run (.initial false)).2.started := by
  unfold run runScan
  dsimp only
  rcases (scanIssues machine request).run (.initial false) with ⟨failure | issues, after⟩
  · dsimp only
    split <;> rfl
  · dsimp only
    split <;> rfl

/-- A scan for which an executable is named goes on to check files just if the check of that
executable by itself ends with zero, whatever else the project file and the request say. Both start
the same program to ask for the version, or none, and a scan without a checker starts nothing
more. -/
theorem run_checkPath_iff {overrides : Entries} {plain scanned : Settings}
    (named : executable ≠ "")
    (loads : ProjectFile.load machine (Path.ofString root) [] = .ok plain)
    (also : ProjectFile.load machine (Path.ofString root) overrides = .ok scanned)
    (given : ProjectFile.given? overrides "executable_path" = some (.text executable))
    (verbose : Bool) :
    let checked := run machine (.checkPath executable root verbose)
    let sought := (Scan.seek machine scanned true none).run (.initial false)
    (checked.ending = .exit 0 ↔ ∃ token, sought.1 = .ok (token, ⟨executable, true⟩)) ∧
      (∀ token found, sought.1 = .ok (token, found) → found.executable = executable ∧
        checked.ending = .exit (if found.available then 0 else 1)) ∧
      ∃ query : Option Launch,
        (∀ launch ∈ query, Checker.IsQuery { settings := plain } machine executable launch) ∧
          checked.started.map Started.launch = query.toList ∧
          sought.2.launches = query.toList ∧
          ∀ (request : ScanRequest) files, request.root = root → request.overrides = overrides →
            request.files.mapM (fun file => machine.resolve (Path.ofString file)) = .ok files →
            files ≠ [] →
              (scanIssues machine request).run (.initial false) =
                  (Scan.seek machine scanned true none >>= fun sought =>
                    Scan.proceed machine ⟨scanned, true, some sought.1⟩ sought.1
                      (files.map Path.toString) sought.2).run (.initial false) ∧
                ∃ more,
                  (run machine (.scan request)).started.map Started.launch = query.toList ++ more ∧
                    (checked.ending ≠ .exit 0 → more = []) := by
  intro checked sought
  have rooted : scanned.projectRoot = plain.projectRoot := Except.ok.inj
    ((ProjectFile.resolve_of_load also).symm.trans (ProjectFile.resolve_of_load loads))
  have same := Checker.validate_congr rooted false none machine executable
  have found := ProjectFile.executablePath_of_load also given
  obtain ⟨works, finds, query, queries, alone, asked⟩ :=
    Scan.seek_validates true named found
  rw [same] at works finds alone
  obtain ⟨zero, one, started⟩ := checkPath_ends loads executable verbose
  have goesOn : checked.ending = .exit 0 ↔ ∃ token, sought.1 = .ok (token, ⟨executable, true⟩) :=
    zero.trans works
  refine ⟨goesOn, fun token found ends => ?_, query, fun launch member => ?_, ?_, asked, ?_⟩
  · obtain ⟨here, validated⟩ := finds token found ends
    refine ⟨here, ?_⟩
    cases available : found.available with
    | true => exact zero.mpr (validated.trans (congrArg Except.ok available))
    | false => exact one.mpr (validated.trans (congrArg Except.ok available))
  · exact (Checker.isQuery_congr rooted launch).mp (queries launch member)
  · exact (congrArg (List.map Started.launch) started).trans alone
  · rintro request files rfl rfl resolved filled
    have filled' : files.map Path.toString ≠ [] := by simpa using filled
    have ran := scanIssues_run also resolved (.initial false)
    refine ⟨ran.trans (by rw [Scan.run_eq_seek filled']), ?_⟩
    obtain ⟨more, launches, silent⟩ := Scan.run_launches_of_sought filled' (.initial false)
    rw [asked] at launches
    refine ⟨more, ?_, fun failed => silent fun token found ends => ?_⟩
    · rw [scan_started, ran]
      exact launches
    · obtain ⟨-, validated⟩ := finds token found ends
      refine Bool.eq_false_iff.mpr fun available => failed (zero.mpr ?_)
      exact validated.trans (congrArg Except.ok available)

/-- A project whose file names a checker that does not exist. -/
def staleProject : Machine where
  files := ⟨[
    (["p", "pyproject.toml"],
      .file ⟨"[tool.mypy-runner]\nexecutable-path = \"/u/mypy\"\n".toUTF8.toList, false, false⟩),
    (["v", "mypy"], .file ⟨[], true, false⟩)]⟩
  directory := "/"
  environment := []
  accountHome := "/"
  windows := false
  respond := fun _ => .ok {}
  cancelledAt := none
  finishOrder := []
  interruptedWait := none

/-- The scan is told of another checker, and goes on with it. -/
theorem run_checkPath_iff_staleProject :
    let overrides : Entries := [("executable_path", .text "/v/mypy")]
    let checked := run staleProject (.checkPath "/v/mypy" "/p" false)
    let scanned := run staleProject (.scan { files := ["/p/a.py"], root := "/p", overrides })
    checked.ending = .exit 0 ∧
      (∃ settings token,
        ProjectFile.load staleProject (Path.ofString "/p") overrides = .ok settings ∧
        ((Scan.seek staleProject settings true none).run (.initial false)).1 =
          .ok (token, ⟨"/v/mypy", true⟩)) ∧
      ∃ query more, query.arguments = ["/v/mypy", "-V"] ∧
        checked.started.map Started.launch = [query] ∧
        scanned.started.map Started.launch = query :: more := by
  intro overrides checked scanned
  obtain ⟨ends, asks⟩ : checked.ending = .exit 0 ∧
      checked.started.map (·.launch.arguments) = [["/v/mypy", "-V"]] := by decide +kernel
  have both : ((ProjectFile.load staleProject (Path.ofString "/p") []).isOk &&
      (ProjectFile.load staleProject (Path.ofString "/p") overrides).isOk) = true := by
    decide +kernel
  cases loads : ProjectFile.load staleProject (Path.ofString "/p") [] with
  | error failure => rw [loads] at both; cases both
  | ok plain =>
    cases also : ProjectFile.load staleProject (Path.ofString "/p") overrides with
    | error failure => rw [loads, also] at both; cases both
    | ok settings =>
      obtain ⟨goesOn, -, query, -, started, -, scans⟩ :=
        run_checkPath_iff (by decide) loads also rfl false
      obtain ⟨token, sought⟩ := goesOn.mp ends
      obtain ⟨-, more, launches, -⟩ := scans { files := ["/p/a.py"], root := "/p", overrides }
        [Path.ofString "/p/a.py"] rfl rfl (by decide +kernel) (by simp)
      have asked : query.toList.map Launch.arguments = [["/v/mypy", "-V"]] := by
        rw [← started, List.map_map]
        exact asks
      refine ⟨ends, ⟨settings, token, rfl, sought⟩, ?_⟩
      cases query with
      | none => cases asked
      | some query => exact ⟨query, more, (List.cons.inj asked).1, started, launches⟩

end CommandLine

end CheckRouter
