import CheckRouter.Proofs.ExitStatus

/-!
# Checkers that can be used

Where nobody cancels, it depends on the settings, the files and one version query whether a scan has
a checker. The user is told at most once that there is none, and then nothing but that query was
started. Only a path that may not be looked up keeps the question from being answered.
-/

namespace CheckRouter

open CheckRouter.Action

variable {machine : Machine} {checker : Checker} {settings : Settings} {world : World}

/-! ## The version query -/

namespace Command

variable {token : Option Token} {options : Options}

/-- A command that nobody stops comes to what is left of its process, if it can be started. -/
theorem run_undisturbed (calm : machine.Calm)
    (positive : ∀ bound ∈ options.limit, bound.isPositive = true)
    (uncancelled : token.any world.tokens.isCancelled = false) (command : List String) :
    ∃ after, (run machine token options command).run world =
        ((opening machine options command).map
          fun started => (Process.begun world started).fate options.limit, after) ∧
      after.notices = world.notices := by
  cases opened : opening machine options command with
  | error failure =>
    obtain ⟨after, refused, silent, -⟩ := launch_of_unopened world uncancelled opened
    refine ⟨after, ?_, silent⟩
    rw [run, run_bind, refused]
    rfl
  | ok started =>
    have outcome := (launch_outcome machine token options command world).resolve_right
      (by simp [uncancelled])
    have clock := keeps_launch machine token options command silent_clock unstarting_clock world
    have tokens := keeps_launch machine token options command silent_tokens unstarting_tokens world
    have begins := launched machine token options command world
    rw [opened] at outcome
    rw [run, run_bind]
    generalize (launch machine token options command).run world = ran at *
    obtain ⟨result, between⟩ := ran
    cases outcome
    have silent : between.notices = world.notices := by
      cases begins
      rfl
    have quiet : started.2.interruptedAfter = none :=
      calm.quiet _ _ (opening_eq_ok.mp opened).2.2
    have still : token.any between.tokens.isCancelled = false := by
      rw [show between.tokens = world.tokens from tokens]
      exact uncancelled
    have ends := Checker.wait_ends (Process.begun world started) calm positive quiet clock still
    exact ⟨_, Prod.ext ends.fate rfl, ends.notices.trans silent⟩

end Command

namespace Checker

open Command (Process)

/-- An executable that can be used: it names a file, and the version query on it can be started and
ends with status zero. -/
def Usable (checker : Checker) (machine : Machine) (executable : String) : Prop :=
  executable ≠ "" ∧ ∃ path launch behaviour,
    checker.settings.resolve machine executable = .ok path ∧
      machine.pathExists path = .ok true ∧ machine.isDirectory path = .ok false ∧
      checker.IsQuery machine executable launch ∧ Command.permit machine launch = .ok () ∧
      machine.respond launch = .ok behaviour ∧ behaviour.status = 0

/-- A path that is looked at before an executable is asked for its version: its own and, if that is
one of a file, the places of an interpreter and an activation script beside it. -/
inductive Looks (machine : Machine) (settings : Settings) (executable : String) : Path → Prop
  | itself (path : Path) (resolved : settings.resolve machine executable = .ok path) :
      Looks machine settings executable path
  | interpreter (path : Path) (resolved : settings.resolve machine executable = .ok path)
      (held : machine.holdsFile path = .ok true) (script : path.suffix.map Char.toLower ≠ ".exe") :
      Looks machine settings executable (interpreterBeside machine path)
  | activation (path : Path) (resolved : settings.resolve machine executable = .ok path)
      (held : machine.holdsFile path = .ok true) :
      Looks machine settings executable (path.parent / Virtualenv.activationScript machine)

theorem judge_run (completed : Completed) (world : World) :
    ∃ after, (judge completed).run world = (.ok completed.ok, after) ∧
      after.notices = world.notices := by
  unfold judge
  dsimp only
  split <;> split <;> split <;> exact ⟨_, rfl, by simp only [World.notices_note]⟩

theorem launcher_eq_error_iff {executable : String} {path : Path} {failure : Failure}
    (resolved : checker.settings.resolve machine executable = .ok path) :
    checker.launcher machine executable = .error failure ↔
      path.suffix.map Char.toLower ≠ ".exe" ∧
        machine.look (interpreterBeside machine path).toString = .error failure := by
  rw [launcher, resolved, ok_bind]
  dsimp only
  split
  · next program => exact iff_of_false (by rintro ⟨⟩) fun refused => refused.1 program
  · next script =>
    have refused_iff : machine.isRegularFile (interpreterBeside machine path) = .error failure ↔
        machine.look (interpreterBeside machine path).toString = .error failure :=
      Machine.map_look_eq_error_iff
    rw [← interpreterBeside, ← refused_iff, and_iff_right script]
    cases machine.isRegularFile (interpreterBeside machine path) with
    | error other => constructor <;> rintro ⟨⟩ <;> rfl
    | ok regular =>
      refine iff_of_false ?_ (by rintro ⟨⟩)
      rw [ok_bind]
      split <;> rintro ⟨⟩

/-- An examination fails with the refusal of a path that it looks at. -/
theorem refused_of_examine {executable : String} {failure : Failure}
    (known : ∃ path, checker.settings.resolve machine executable = .ok path)
    (fails : checker.examine machine executable = .error failure) :
    ∃ path, Looks machine checker.settings executable path ∧
      machine.look path.toString = .error failure := by
  obtain ⟨path, resolved⟩ := known
  rw [examine, resolved, ok_bind] at fails
  rcases bind_eq_error.mp fails with refused | ⟨there, held, fails⟩
  · rw [Machine.holdsFile_eq] at refused
    exact ⟨path, .itself path resolved, Machine.map_look_eq_error_iff.mp refused⟩
  · cases there with
    | false => cases fails
    | true =>
      rcases bind_eq_error.mp fails with refused | ⟨words, -, fails⟩
      · obtain ⟨script, refused⟩ := (launcher_eq_error_iff resolved).mp refused
        exact ⟨_, .interpreter path resolved held script, refused⟩
      · rcases bind_eq_error.mp fails with refused | ⟨environment, -, fails⟩
        · exact ⟨_, .activation path resolved held, environmentFor_eq_error_iff.mp refused⟩
        · cases fails

/-- Where an examination succeeds every path that it looks at was answered. -/
theorem answers_of_examine {executable : String} {found : Examined} {path : Path}
    (examined : checker.examine machine executable = .ok found)
    (looks : Looks machine checker.settings executable path) : machine.Answers path.toString := by
  cases looked : machine.look path.toString with
  | ok node => exact ⟨node, looked⟩
  | error failure =>
    exfalso
    obtain ⟨place, resolved, examined⟩ := bind_eq_ok.mp examined
    obtain ⟨there, held, examined⟩ := bind_eq_ok.mp examined
    cases looks with
    | itself other also =>
      cases resolved.symm.trans also
      rw [Machine.holdsFile_eq, looked] at held
      cases held
    | interpreter other also holds script =>
      cases resolved.symm.trans also
      cases held.symm.trans holds
      obtain ⟨words, worded, -⟩ := bind_eq_ok.mp examined
      cases worded.symm.trans ((launcher_eq_error_iff resolved).mpr ⟨script, looked⟩)
    | activation other also holds =>
      cases resolved.symm.trans also
      cases held.symm.trans holds
      obtain ⟨words, -, examined⟩ := bind_eq_ok.mp examined
      obtain ⟨environment, made, -⟩ := bind_eq_ok.mp examined
      cases made.symm.trans (environmentFor_eq_error_iff.mpr looked)

/-- The command of a version query on an existing file holds no null character. -/
theorem clean_of_examine {executable : String} {command : List String} {options : Command.Options}
    (examined : checker.examine machine executable = .ok (.file command options)) :
    ∃ head rest, command = head :: rest ∧ (head :: rest).any Machine.holdsNull = false := by
  obtain ⟨path, words, environment, resolved, held, worded, -, rfl, -⟩ :=
    examine_eq_file.mp examined
  obtain ⟨node, -, there⟩ := Machine.holdsFile_eq_true_iff.mp held
  have clean := (Machine.exists_of_look there).1
  have option : Machine.holdsNull "-V" = false := by decide
  obtain ⟨failure, -, fails⟩ | ⟨before, beside, launches⟩ := launcher_of_resolve resolved
  · cases worded.symm.trans fails
  · cases worded.symm.trans launches
    rcases beside with rfl | ⟨rfl, regular⟩
    · exact ⟨_, _, rfl, by simp [clean, option]⟩
    · obtain ⟨file, same⟩ := Machine.isRegularFile_eq_true_iff.mp regular
      exact ⟨_, _, rfl, by simp [clean, option, (Machine.exists_of_look same).1]⟩

/-- An executable can be used just if it is examined to be a file on which the version query can be
started and ends with status zero. -/
theorem usable_iff {executable : String} (named : executable ≠ "") :
    checker.Usable machine executable ↔ ∃ command options arguments behaviour,
      checker.examine machine executable = .ok (.file command options) ∧
        Command.opening machine options command = .ok (arguments, behaviour) ∧
          behaviour.status = 0 := by
  constructor
  · rintro ⟨-, path, launch, behaviour, resolved, there, file, query, permitted, responds, ended⟩
    obtain ⟨other, words, arguments, environment, found, worded, looked, made, rfl⟩ := query
    cases resolved.symm.trans found
    have held := Machine.holdsFile_of_exists there file
    exact ⟨_, _, arguments, behaviour,
      examine_eq_file.mpr ⟨path, words, environment, resolved, held, worded, made, rfl, rfl⟩,
      Command.opening_eq_ok.mpr ⟨looked, permitted, responds⟩, ended⟩
  · rintro ⟨command, options, arguments, behaviour, examined, opened, ended⟩
    obtain ⟨path, words, environment, resolved, held, worded, made, rfl, rfl⟩ :=
      examine_eq_file.mp examined
    obtain ⟨looked, permitted, responds⟩ := Command.opening_eq_ok.mp opened
    obtain ⟨there, file⟩ := Machine.exists_of_holdsFile held
    exact ⟨named, path, _, behaviour, resolved, there, file,
      ⟨path, words, arguments, environment, resolved, worded, looked, made, rfl⟩, permitted,
      responds, ended⟩

/-- A version query that nobody stops and the system does not choke on answers whether it ended with
status zero. -/
theorem weigh_undisturbed (calm : machine.Calm)
    (uncancelled : checker.token.any world.tokens.isCancelled = false)
    {options : Command.Options} (unlimited : options.limit = none) {command : List String}
    (refuses : FailsOnly (fun failure => failure.isRefusal = true)
      (Command.opening machine options command)) :
    ∃ works after,
      (attempt (Command.run machine checker.token options command) >>= weigh command).run world =
          (.ok works, after) ∧
        (works = true ↔ ∃ arguments behaviour,
          Command.opening machine options command = .ok (arguments, behaviour) ∧
            behaviour.status = 0) ∧
        after.notices = world.notices := by
  have positive : ∀ bound ∈ options.limit, bound.isPositive = true := by simp [unlimited]
  obtain ⟨after, ran, silent⟩ := Command.run_undisturbed calm positive uncancelled command
  rw [run_bind, run_attempt, ran]
  cases opened : Command.opening machine options command with
  | error failure =>
    have records : (!failure.isRefusal) = false := by rw [refuses failure opened, Bool.not_true]
    simp only [Except.map, weigh, records, Bool.false_eq_true, if_false]
    refine ⟨false, _, rfl, by simp, ?_⟩
    exact (World.notices_note _ _ _ _).trans ((World.notices_note _ _ _ _).trans silent)
  | ok started =>
    obtain ⟨arguments, behaviour⟩ := started
    obtain ⟨last, judged, still⟩ :=
      judge_run (Process.begun world (arguments, behaviour)).completed after
    have fate : (Process.begun world (arguments, behaviour)).fate options.limit =
        (Process.begun world (arguments, behaviour)).completed := by rw [unlimited]; rfl
    rw [Except.map, fate]
    refine ⟨_, last, judged, ?_, still.trans silent⟩
    have ended : (Process.begun world (arguments, behaviour)).completed.ok =
        (behaviour.status == 0) := rfl
    rw [ended, beq_iff_eq]
    constructor
    · exact fun zero => ⟨arguments, behaviour, rfl, zero⟩
    · rintro ⟨_, _, ⟨⟩, zero⟩
      exact zero

/-- Where nobody cancels, an executable is validated just if it can be used, unless its examination
fails. -/
theorem validate_undisturbed (calm : machine.Calm)
    (uncancelled : checker.token.any world.tokens.isCancelled = false)
    (place : Machine.holdsNull checker.settings.projectRoot.toString = false)
    {executable : String} (named : executable ≠ "") :
    (∃ failure, checker.examine machine executable = .error failure ∧
      (checker.validate machine executable).run world = (.error failure, world)) ∨
    (∃ examined, checker.examine machine executable = .ok examined) ∧
      ∃ works after, (checker.validate machine executable).run world = (.ok works, after) ∧
        (works = true ↔ checker.Usable machine executable) ∧ after.notices = world.notices := by
  rw [validate_eq, if_neg named, run_bind, run_lift]
  cases examined : checker.examine machine executable with
  | error failure => exact .inl ⟨failure, rfl, rfl⟩
  | ok found =>
    refine .inr ⟨⟨found, rfl⟩, ?_⟩
    rw [usable_iff named, examined]
    cases found with
    | noFile path => exact ⟨false, _, rfl, by simp, world.notices_note _ _ _⟩
    | file command options =>
      obtain ⟨head, rest, rfl, clean⟩ := clean_of_examine examined
      obtain ⟨path, words, environment, -, -, -, -, -, rfl⟩ := examine_eq_file.mp examined
      have refuses : FailsOnly (fun failure => failure.isRefusal = true) (Command.opening machine
          ⟨some checker.settings.projectRoot, some environment, none⟩ (head :: rest)) :=
        Command.refused_opening clean (by rintro _ ⟨⟩; exact place)
      obtain ⟨works, after, ran, ended, silent⟩ :=
        weigh_undisturbed calm uncancelled rfl refuses
      refine ⟨works, after, ran, ended.trans ?_, silent⟩
      constructor
      · rintro ⟨arguments, behaviour, opened⟩
        exact ⟨_, _, arguments, behaviour, rfl, opened⟩
      · rintro ⟨_, _, arguments, behaviour, ⟨⟩, opened⟩
        exact ⟨arguments, behaviour, opened⟩

end Checker

namespace Settings

/-- The settings name an interpreter that exists. -/
def NamesInterpreter (settings : Settings) (machine : Machine) (path : Path) : Prop :=
  settings.interpreterPath ≠ "" ∧
    settings.resolve machine settings.interpreterPath = .ok path ∧
    machine.isRegularFile path = .ok true

theorem NamesInterpreter.unique {path other : Path} (names : settings.NamesInterpreter machine path)
    (also : settings.NamesInterpreter machine other) : path = other :=
  Except.ok.inj (names.2.1.symm.trans also.2.1)

end Settings

namespace Preflight

/-- What is taken for the checker of a project: what the settings name; else, if they name the
interpreter of a virtual environment, the checker beside it or none; else what a search finds. -/
inductive Discovers (machine : Machine) (settings : Settings) : String → Prop
  | named (given : settings.executablePath ≠ "") :
      Discovers machine settings settings.executablePath
  | beside (interpreter : Path) (ungiven : settings.executablePath = "")
      (known : settings.NamesInterpreter machine interpreter)
      (activated : machine.isRegularFile
        (interpreter.parent / Virtualenv.activationScript machine) = .ok true)
      (there : machine.isRegularFile
        (interpreter.parent / Virtualenv.fileName machine Virtualenv.checkerName) = .ok true) :
      Discovers machine settings
        (interpreter.parent / Virtualenv.fileName machine Virtualenv.checkerName).toString
  | missing (interpreter : Path) (ungiven : settings.executablePath = "")
      (known : settings.NamesInterpreter machine interpreter)
      (activated : machine.isRegularFile
        (interpreter.parent / Virtualenv.activationScript machine) = .ok true)
      (absent : machine.isRegularFile
        (interpreter.parent / Virtualenv.fileName machine Virtualenv.checkerName) = .ok false) :
      Discovers machine settings ""
  | searched (ungiven : settings.executablePath = "")
      (plain : ∀ interpreter, settings.NamesInterpreter machine interpreter →
        machine.isRegularFile (interpreter.parent / Virtualenv.activationScript machine) =
          .ok false) :
      Discovers machine settings ((machine.which Virtualenv.checkerName).getD "")

/-- A path that is looked at to find the checker of a project that the settings do not name: the
interpreter that they name and, if that is one, what stands beside it. -/
inductive Seeks (machine : Machine) (settings : Settings) : Path → Prop
  | interpreter (path : Path) (ungiven : settings.executablePath = "")
      (given : settings.interpreterPath ≠ "")
      (resolved : settings.resolve machine settings.interpreterPath = .ok path) :
      Seeks machine settings path
  | activation (interpreter : Path) (ungiven : settings.executablePath = "")
      (known : settings.NamesInterpreter machine interpreter) :
      Seeks machine settings (interpreter.parent / Virtualenv.activationScript machine)
  | checker (interpreter : Path) (ungiven : settings.executablePath = "")
      (known : settings.NamesInterpreter machine interpreter)
      (activated : machine.isRegularFile
        (interpreter.parent / Virtualenv.activationScript machine) = .ok true) :
      Seeks machine settings
        (interpreter.parent / Virtualenv.fileName machine Virtualenv.checkerName)

theorem isRegularFile_eq_error_iff {path : Path} {failure : Failure} :
    machine.isRegularFile path = .error failure ↔ machine.look path.toString = .error failure :=
  Machine.map_look_eq_error_iff

/-- The interpreter of a project is known, unless the path that the settings name may not be looked
up. -/
theorem interpreter_cases {path : Path}
    (resolved : settings.resolve machine settings.interpreterPath = .ok path) :
    (∃ failure, interpreter? machine settings = .error failure ∧ settings.interpreterPath ≠ "" ∧
      machine.look path.toString = .error failure) ∨
    ∃ found, interpreter? machine settings = .ok found ∧
      ∀ other, other ∈ found ↔ settings.NamesInterpreter machine other := by
  unfold interpreter? Settings.NamesInterpreter
  by_cases unset : settings.interpreterPath = ""
  · rw [if_pos unset]
    exact .inr ⟨none, rfl, fun other => ⟨by simp, fun known => absurd unset known.1⟩⟩
  · rw [if_neg unset, resolved, ok_bind]
    cases file : machine.isRegularFile path with
    | error failure => exact .inl ⟨failure, rfl, unset, isRegularFile_eq_error_iff.mp file⟩
    | ok there =>
      right
      cases there with
      | false =>
        refine ⟨none, rfl, fun other => ⟨by simp, ?_⟩⟩
        rintro ⟨-, ⟨⟩, regular⟩
        cases file.symm.trans regular
      | true =>
        refine ⟨some path, rfl, fun other => ⟨?_, ?_⟩⟩
        · rintro ⟨⟩
          exact ⟨unset, rfl, file⟩
        · rintro ⟨-, ⟨⟩, -⟩
          rfl

theorem outcome_searched (machine : Machine) (world : World) :
    ((searched machine).run world).1 = .ok ((machine.which Virtualenv.checkerName).getD "") := by
  unfold searched
  cases machine.which Virtualenv.checkerName <;> rfl

/-- How the checker of a project is found: a path that is looked at for it may not be looked up, or
every such path was answered and the checker is known. -/
inductive Located (machine : Machine) (settings : Settings) : Except Failure String → Prop
  | refused (path : Path) (failure : Failure) (seeks : Seeks machine settings path)
      (refused : machine.look path.toString = .error failure) :
      Located machine settings (.error failure)
  | known (name : String) (discovers : Discovers machine settings name)
      (answered : ∀ path, Seeks machine settings path → machine.Answers path.toString) :
      Located machine settings (.ok name)

theorem answers_of_file {path : Path} {there : Bool}
    (file : machine.isRegularFile path = .ok there) : machine.Answers path.toString := by
  cases looked : machine.look path.toString with
  | ok node => exact ⟨node, looked⟩
  | error failure => cases file.symm.trans (isRegularFile_eq_error_iff.mpr looked)

theorem answers_of_interpreter {found : Option Path} {path : Path}
    (interpreted : interpreter? machine settings = .ok found)
    (set : settings.interpreterPath ≠ "")
    (resolved : settings.resolve machine settings.interpreterPath = .ok path) :
    machine.Answers path.toString := by
  rw [interpreter?, if_neg set, resolved, ok_bind] at interpreted
  obtain ⟨there, file, -⟩ := bind_eq_ok.mp interpreted
  exact answers_of_file file

theorem answered_of_unnamed (interpreted : interpreter? machine settings = .ok none)
    (nowhere : ∀ interpreter, ¬settings.NamesInterpreter machine interpreter) {path : Path}
    (seeks : Seeks machine settings path) : machine.Answers path.toString := by
  cases seeks with
  | interpreter _ _ set resolved => exact answers_of_interpreter interpreted set resolved
  | activation interpreter _ known => exact absurd known (nowhere interpreter)
  | checker interpreter _ known => exact absurd known (nowhere interpreter)

theorem answered_of_names {interpreter : Path}
    (names : settings.NamesInterpreter machine interpreter) {marked : Bool}
    (activated : machine.isRegularFile
      (interpreter.parent / Virtualenv.activationScript machine) = .ok marked)
    (beside : marked = true → ∃ file, machine.isRegularFile
      (interpreter.parent / Virtualenv.fileName machine Virtualenv.checkerName) = .ok file)
    {path : Path} (seeks : Seeks machine settings path) : machine.Answers path.toString := by
  cases seeks with
  | interpreter _ _ set resolved =>
    cases names.2.1.symm.trans resolved
    exact answers_of_file names.2.2
  | activation other _ also =>
    cases names.unique also
    exact answers_of_file activated
  | checker other _ also holds =>
    cases names.unique also
    obtain ⟨file, there⟩ := beside (Except.ok.inj (activated.symm.trans holds))
    exact answers_of_file there

theorem located_of_interpreter (ungiven : settings.executablePath = "") {interpreter : Path}
    (interpreted : interpreter? machine settings = .ok (some interpreter))
    (names : settings.NamesInterpreter machine interpreter) :
    Located machine settings (executable machine settings).outcome := by
  have unnamed : (settings.executablePath != "") = false := by simp [ungiven]
  unfold executable outcome
  simp only [unnamed, Bool.false_eq_true, if_false, run_bind, run_lift, interpreted,
    Virtualenv.findRoot]
  cases activated : machine.isRegularFile
      (interpreter.parent / Virtualenv.activationScript machine) with
  | error failure =>
    exact .refused _ failure (.activation interpreter ungiven names)
      (isRegularFile_eq_error_iff.mp activated)
  | ok marked =>
    cases marked with
    | false =>
      refine outcome_searched machine _ ▸ .known _ (.searched ungiven fun other also => ?_) ?_
      · exact names.unique also ▸ activated
      · exact fun path seeks => answered_of_names names activated (by simp) seeks
    | true =>
      cases there : machine.isRegularFile
          (interpreter.parent / Virtualenv.fileName machine Virtualenv.checkerName) with
      | error failure =>
        exact .refused _ failure (.checker interpreter ungiven names activated)
          (isRegularFile_eq_error_iff.mp there)
      | ok file =>
        have answered (path : Path) (seeks : Seeks machine settings path) :=
          answered_of_names names activated (fun _ => ⟨file, there⟩) seeks
        cases file with
        | true => exact .known _ (.beside interpreter ungiven names activated there) answered
        | false => exact .known _ (.missing interpreter ungiven names activated there) answered

theorem located_executable (known : settings.executablePath = "" →
      ∃ path, settings.resolve machine settings.interpreterPath = .ok path) :
    Located machine settings (executable machine settings).outcome := by
  by_cases given : settings.executablePath = ""
  · obtain ⟨path, resolved⟩ := known given
    have unnamed : (settings.executablePath != "") = false := by simp [given]
    rcases interpreter_cases resolved with ⟨failure, fails, set, refused⟩ | ⟨found, interpreted, iff⟩
    · unfold executable outcome
      simp only [unnamed, Bool.false_eq_true, if_false, run_bind, run_lift, fails]
      exact .refused path failure (.interpreter path given set resolved) refused
    · cases found with
      | some interpreter => exact located_of_interpreter given interpreted ((iff interpreter).mp rfl)
      | none =>
        have nowhere (interpreter : Path) : ¬settings.NamesInterpreter machine interpreter :=
          fun names => by cases (iff interpreter).mpr names
        unfold executable outcome
        simp only [unnamed, Bool.false_eq_true, if_false, run_bind, run_lift, interpreted]
        rw [outcome_searched machine _]
        refine .known _ (.searched given fun interpreter names => ?_) fun path seeks =>
          answered_of_unnamed interpreted nowhere seeks
        exact absurd names (nowhere interpreter)
  · have named : (settings.executablePath != "") = true := by simpa using given
    unfold executable outcome
    rw [if_pos named]
    refine .known _ (.named given) fun path seeks => ?_
    rcases seeks with ⟨_, ungiven⟩ | ⟨_, ungiven⟩ | ⟨_, ungiven⟩ <;> exact absurd ungiven given

/-- What the user is told about a checker that cannot be used. -/
inductive Advises (machine : Machine) (settings : Settings) : Notice → Prop
  | configure (unknown : ∀ interpreter, ¬settings.NamesInterpreter machine interpreter) :
      Advises machine settings .noInterpreter
  | install (interpreter : Path) (known : settings.NamesInterpreter machine interpreter) :
      Advises machine settings .installChecker

/-- From one world to another the user was told that there is no checker, if there is a notifier. -/
def ToldUnavailable (machine : Machine) (settings : Settings) (notifies : Bool)
    (world after : World) : Prop :=
  if notifies then
    ∃ notice, Advises machine settings notice ∧ after.notices = world.notices ++ [notice]
  else after.notices = world.notices

theorem advise_cases {path : Path}
    (resolved : settings.resolve machine settings.interpreterPath = .ok path) (world : World) :
    (∃ failure, (advise machine settings).run world = (.error failure, world) ∧
      settings.interpreterPath ≠ "" ∧ machine.look path.toString = .error failure) ∨
    ∃ notice after, (advise machine settings).run world = (.ok (), after) ∧
      Advises machine settings notice ∧ after.notices = world.notices ++ [notice] ∧
        (settings.interpreterPath ≠ "" → machine.Answers path.toString) := by
  rcases interpreter_cases resolved with ⟨failure, fails, set, refused⟩ | ⟨found, interpreted, iff⟩
  · refine .inl ⟨failure, ?_, set, refused⟩
    simp only [advise, run_bind, run_lift, fails]
  · right
    have answers (set : settings.interpreterPath ≠ "") : machine.Answers path.toString :=
      answers_of_interpreter interpreted set resolved
    simp only [advise, run_bind, run_lift, interpreted]
    cases found with
    | none =>
      refine ⟨_, _, rfl, .configure fun interpreter names => ?_, world.notices_notify _, answers⟩
      cases (iff interpreter).mpr names
    | some interpreter =>
      exact ⟨_, _, rfl, .install interpreter ((iff interpreter).mp rfl), world.notices_notify _,
        answers⟩

theorem Discovers.unique {name other : String} (discovers : Discovers machine settings name)
    (also : Discovers machine settings other) : name = other := by
  cases discovers with
  | named given =>
    cases also with
    | named => rfl
    | beside _ ungiven | missing _ ungiven | searched ungiven => exact absurd ungiven given
  | beside interpreter ungiven known activated there =>
    cases also with
    | named given => exact absurd ungiven given
    | beside _ _ again => rw [known.unique again]
    | missing _ _ again _ absent =>
      cases known.unique again
      cases there.symm.trans absent
    | searched _ plain => cases activated.symm.trans (plain interpreter known)
  | missing interpreter ungiven known activated absent =>
    cases also with
    | named given => exact absurd ungiven given
    | beside _ _ again _ there =>
      cases known.unique again
      cases there.symm.trans absent
    | missing => rfl
    | searched _ plain => cases activated.symm.trans (plain interpreter known)
  | searched ungiven plain =>
    cases also with
    | named given => exact absurd ungiven given
    | beside interpreter _ known activated => cases activated.symm.trans (plain interpreter known)
    | missing interpreter _ known activated => cases activated.symm.trans (plain interpreter known)
    | searched => rfl

/-- What is left in a world in which a checker was looked for: one version query at most was
started, and the user was told just if there is no checker to be used. -/
structure Sought (machine : Machine) (checker : Checker) (notifies : Bool) (found : Availability)
    (world after : World) : Prop where
  queried : ∃ query : Option Launch, after.launches = world.launches ++ query.toList ∧
    ∀ launch ∈ query, checker.IsQuery machine found.executable launch
  silent : found.available = true → after.notices = world.notices
  told : found.available = false → ToldUnavailable machine checker.settings notifies world after

/-- Every home directory is known that is needed to look for a checker: that in the name of the
checker that is found and, if they are looked at to find it or to advise the user, that in the name
of the interpreter. -/
structure HomesKnown (machine : Machine) (checker : Checker) (notifies : Bool) : Prop where
  found : ∀ name, Discovers machine checker.settings name →
    ∃ path, machine.expandHome (Path.ofString name) = .ok path
  interpreter : checker.settings.executablePath = "" ∨
      notifies = true ∧ ¬checker.Usable machine checker.settings.executablePath →
    ∃ path, machine.expandHome (Path.ofString checker.settings.interpreterPath) = .ok path

theorem exists_resolve {text : String}
    (known : ∃ path, machine.expandHome (Path.ofString text) = .ok path) :
    ∃ path, settings.resolve machine text = .ok path := by
  obtain ⟨path, expanded⟩ := known
  rw [Settings.resolve, expanded]
  exact ⟨_, rfl⟩

theorem Discovers.eq_executablePath {name : String} (discovers : Discovers machine settings name)
    (given : settings.executablePath ≠ "") : name = settings.executablePath :=
  discovers.unique (.named given)

/-- A path that is looked at to find the checker of a project, to ask it for its version, or to
advise the user. -/
inductive Consults (machine : Machine) (settings : Settings) (notifies : Bool) : Path → Prop
  | finding (path : Path) (seeks : Seeks machine settings path) :
      Consults machine settings notifies path
  | asking (name : String) (path : Path) (discovers : Discovers machine settings name)
      (named : name ≠ "") (looks : Checker.Looks machine settings name path) :
      Consults machine settings notifies path
  | advising (name : String) (path : Path) (notified : notifies = true)
      (discovers : Discovers machine settings name)
      (unusable : ¬Checker.Usable { settings } machine name)
      (given : settings.interpreterPath ≠ "")
      (resolved : settings.resolve machine settings.interpreterPath = .ok path) :
      Consults machine settings notifies path

/-- How it ends to look for a usable checker: a path that was looked at may not be looked up, or
every such path was answered and it is known whether there is a checker that can be used. -/
inductive Concluded (machine : Machine) (checker : Checker) (notifies : Bool) (world : World) :
    Except Failure Availability × World → Prop
  | refused (path : Path) (failure : Failure) (after : World)
      (consults : Consults machine checker.settings notifies path)
      (refused : machine.look path.toString = .error failure)
      (silent : after.notices = world.notices) :
      Concluded machine checker notifies world (.error failure, after)
  | known (found : Availability) (after : World)
      (answered : ∀ path, Consults machine checker.settings notifies path →
        machine.Answers path.toString)
      (discovers : Discovers machine checker.settings found.executable)
      (usable : found.available = true ↔ checker.Usable machine found.executable)
      (sought : Sought machine checker notifies found world after) :
      Concluded machine checker notifies world (.ok found, after)

theorem answers_of_consults {notifies : Bool} {name : String}
    (discovers : Discovers machine settings name)
    (found : ∀ path, Seeks machine settings path → machine.Answers path.toString)
    (asked : name ≠ "" → ∀ path, Checker.Looks machine settings name path →
      machine.Answers path.toString)
    (advised : notifies = true → ¬Checker.Usable { settings } machine name →
      settings.interpreterPath ≠ "" → ∀ path,
        settings.resolve machine settings.interpreterPath = .ok path →
          machine.Answers path.toString)
    {path : Path} (consults : Consults machine settings notifies path) :
    machine.Answers path.toString := by
  cases consults with
  | finding _ seeks => exact found path seeks
  | asking other _ also named looks =>
    cases discovers.unique also
    exact asked named path looks
  | advising other _ notified also unusable given resolved =>
    cases discovers.unique also
    exact advised notified unusable given path resolved

/-- Where a checker cannot be used the user is told so, unless the interpreter may not be looked
up. -/
theorem concluded_of_unusable {notifies : Bool} (homes : HomesKnown machine checker notifies)
    {name : String} (discovers : Discovers machine checker.settings name)
    (unusable : ¬checker.Usable machine name)
    (found : ∀ path, Seeks machine checker.settings path → machine.Answers path.toString)
    (asked : name ≠ "" → ∀ path, Checker.Looks machine checker.settings name path →
      machine.Answers path.toString)
    {between : World} (silent : between.notices = world.notices)
    (checked : (check machine checker notifies).run world = (do
        if notifies then advise machine checker.settings
        return ⟨name, false⟩ : Action Availability).run between) :
    Concluded machine checker notifies world ((check machine checker notifies).run world) := by
  have unfit : (false = true) ↔ checker.Usable machine name := by simp [unusable]
  cases notifies with
  | false =>
    have ends : (check machine checker false).run world = (.ok ⟨name, false⟩, between) := checked
    rw [ends]
    refine .known _ between (fun path => answers_of_consults discovers found asked ?_) discovers
      unfit ⟨check_launches ends, by simp, fun _ => silent⟩
    rintro ⟨⟩
  | true =>
    have known : checker.settings.executablePath = "" ∨
        true = true ∧ ¬checker.Usable machine checker.settings.executablePath := by
      refine or_iff_not_imp_left.mpr fun given => ⟨rfl, ?_⟩
      rwa [discovers.eq_executablePath given] at unusable
    obtain ⟨path, resolved⟩ := exists_resolve (homes.interpreter known)
    rw [if_pos rfl, run_bind] at checked
    rcases advise_cases resolved between with
      ⟨failure, fails, set, refused⟩ | ⟨notice, after, ran, advises, told, answers⟩
    · rw [checked, fails]
      exact .refused path failure between
        (.advising name path rfl discovers unusable set resolved) refused silent
    · have ends : (check machine checker true).run world = (.ok ⟨name, false⟩, after) := by
        rw [checked, ran]
        rfl
      rw [ends]
      refine .known _ after (fun path => answers_of_consults discovers found asked ?_) discovers
        unfit ⟨check_launches ends, by simp, fun _ => ⟨notice, advises, silent ▸ told⟩⟩
      rintro - - set other also
      cases resolved.symm.trans also
      exact answers set

/-- Where nobody cancels, the checker that is found is available just if it can be used, unless a
path that was looked at may not be looked up. -/
theorem concluded {notifies : Bool} (calm : machine.Calm)
    (homes : HomesKnown machine checker notifies)
    (place : Machine.holdsNull checker.settings.projectRoot.toString = false)
    (uncancelled : checker.token.any world.tokens.isCancelled = false) :
    Concluded machine checker notifies world ((check machine checker notifies).run world) := by
  obtain ⟨between, ran, -, tokens, silent, -⟩ :=
    executable_leaves machine checker.settings world
  have located := located_executable fun given => exists_resolve (homes.interpreter (.inl given))
  generalize (executable machine checker.settings).outcome = outcome at ran located
  cases located with
  | refused path failure seeks refused =>
    rw [check, run_bind, ran]
    exact .refused path failure between (.finding path seeks) refused silent
  | known name discovers found =>
    by_cases named : name = ""
    · subst named
      refine concluded_of_unusable homes discovers (fun usable => usable.1 rfl) found
        (absurd rfl) silent ?_
      rw [check, run_bind, ran]
      rfl
    · have opened : (check machine checker notifies).run world = (do
          if ← checker.validate machine name then return ⟨name, true⟩
          if notifies then advise machine checker.settings
          return ⟨name, false⟩ : Action Availability).run between := by
        rw [check, run_bind, ran]
        dsimp only
        rw [if_pos (by simpa using named)]
      rw [run_bind] at opened
      rcases checker.validate_undisturbed calm (tokens.symm ▸ uncancelled) place named with
        ⟨failure, examined, fails⟩ | ⟨⟨result, examined⟩, works, after, asked, usable, quiet⟩
      · obtain ⟨path, looks, refused⟩ :=
          Checker.refused_of_examine (exists_resolve (homes.found name discovers)) examined
        rw [opened, fails]
        exact .refused path failure between (.asking name path discovers named looks) refused silent
      · have answers (path : Path) (looks : Checker.Looks machine checker.settings name path) :=
          Checker.answers_of_examine examined looks
        rw [asked] at opened
        cases works with
        | true =>
          have ends : (check machine checker notifies).run world = (.ok ⟨name, true⟩, after) :=
            opened
          have used := usable.mp rfl
          rw [ends]
          refine .known _ after (fun path => answers_of_consults discovers found
            (fun _ => answers) fun _ unusable => absurd used unusable) discovers usable
            ⟨check_launches ends, fun _ => quiet.trans silent, by simp⟩
        | false =>
          exact concluded_of_unusable homes discovers (fun used => by cases usable.mpr used) found
            (fun _ => answers) (quiet.trans silent) opened

end Preflight

namespace Scan

open Preflight

variable {notifies : Bool} {given : Option Token}

theorem tokenFor_run (given : Option Token) (world : World) :
    ∃ token entered, (tokenFor given).run world = (.ok token, entered) ∧
      entered.launches = world.launches ∧ entered.notices = world.notices ∧
      entered.tokens.isCancelled token = given.any world.tokens.isCancelled := by
  cases given with
  | some token => exact ⟨token, world, rfl, rfl, rfl, rfl⟩
  | none =>
    refine ⟨_, _, run_newToken world [], rfl, rfl, ?_⟩
    rw [Tokens.isCancelled_child_snd, Tokens.isCancelled_child]
    rfl

theorem run_of_unavailable {files : List String} {token : Token} {entered checked : World}
    {name : String} (filled : files ≠ [])
    (opened : (tokenFor given).run world = (.ok token, entered))
    (answers : (Preflight.check machine ⟨settings, notifies, some token⟩ notifies).run entered =
      (.ok ⟨name, false⟩, checked)) :
    ∃ after, (run machine settings notifies given files).run world = (.ok [], after) ∧
      after.launches = checked.launches ∧ after.notices = checked.notices := by
  obtain ⟨same, begun, begins, -, -, ran⟩ :=
    run_of_filled machine settings notifies given world filled
  cases opened.symm.trans begins
  rw [ran, run_bind, answers]
  exact ⟨_, rfl, rfl, World.notices_note _ _ _ _⟩

/-- Where nobody cancels, the checker of a project is what the settings, the files and the search
path make it, and it is available just if it can be used. If it is not, the user is told once, a
scan of whatever files finds nothing, and neither starts more than one version query. Only if a path
that is looked at may not be looked up this fails, with that refusal and without a word. -/
theorem available_iff_usable (calm : machine.Calm)
    (homes : HomesKnown machine ⟨settings, notifies, given⟩ notifies)
    (place : Machine.holdsNull settings.projectRoot.toString = false)
    (uncancelled : given.any world.tokens.isCancelled = false) :
    let checker : Checker := ⟨settings, notifies, given⟩
    let checked := (Preflight.check machine checker notifies).run world
    (∀ failure, checked.1 = .error failure → checked.2.notices = world.notices ∧
      ∃ path, Consults machine settings notifies path ∧
        machine.look path.toString = .error failure) ∧
    ∀ found, checked.1 = .ok found →
      (∀ path, Consults machine settings notifies path → machine.Answers path.toString) ∧
      Discovers machine settings found.executable ∧
      (found.available = true ↔ checker.Usable machine found.executable) ∧
      Sought machine checker notifies found world checked.2 ∧
      (found.available = false → ∀ files, files ≠ [] → ∃ after,
        (run machine settings notifies given files).run world = (.ok [], after) ∧
          Sought machine checker notifies found world after) := by
  intro checker checked
  have sought (token : Option Token) (first : World)
      (uncancelled : token.any first.tokens.isCancelled = false) :
      Concluded machine ⟨settings, notifies, token⟩ notifies first
        ((Preflight.check machine ⟨settings, notifies, token⟩ notifies).run first) :=
    Preflight.concluded calm ⟨homes.found, homes.interpreter⟩ place uncancelled
  have ends : Concluded machine checker notifies world checked := sought given world uncancelled
  generalize checked = result at ends
  cases ends with
  | refused path failure after consults refused silent =>
    refine ⟨?_, by rintro _ ⟨⟩⟩
    rintro _ ⟨⟩
    exact ⟨silent, path, consults, refused⟩
  | known found after answered discovers usable left =>
    refine ⟨by rintro _ ⟨⟩, ?_⟩
    rintro _ ⟨⟩
    refine ⟨answered, discovers, usable, left, fun unavailable files filled => ?_⟩
    -- a scan without a token looks for the checker with one of its own
    obtain ⟨token, entered, opened, launches, notices, fresh⟩ := tokenFor_run given world
    have again := sought (some token) entered (fresh.trans uncancelled)
    generalize looked : (Preflight.check machine ⟨settings, notifies, some token⟩ notifies).run
      entered = other at again
    cases again with
    | refused path failure last consults refused =>
      obtain ⟨node, answer⟩ := answered path consults
      cases answer.symm.trans refused
    | known same last _ also usableToo leftToo =>
      obtain ⟨name, available⟩ := same
      obtain rfl : found.executable = name := discovers.unique also
      obtain rfl : available = false := by
        have agree : available = true ↔ found.available = true := usableToo.trans usable.symm
        simpa [unavailable] using agree
      obtain ⟨after, ran, started, told⟩ := run_of_unavailable filled opened looked
      refine ⟨after, ran, ?_, by simp [unavailable], fun _ => ?_⟩
      · rw [started, ← launches]
        exact leftToo.queried
      · have tells := leftToo.told rfl
        simpa only [ToldUnavailable, told, notices] using tells

/-- A machine with a virtual environment that has no checker, and with a checker elsewhere on the
search path. -/
def bareEnvironment : Machine where
  files := ⟨[
    (["v", "bin", "python"], .file ⟨[], true, false⟩),
    (["v", "bin", "activate"], .file ⟨[], false, false⟩),
    (["u", "mypy"], .file ⟨[], true, false⟩)]⟩
  directory := "/"
  environment := [("PATH", "/u")]
  accountHome := "/"
  windows := false
  respond := Rule.respond []
  cancelledAt := none
  finishOrder := []
  interruptedWait := none

/-- The checker on the search path is not taken for that of a virtual environment, and the scan does
not come to the file that does not exist. -/
theorem available_iff_usable_bareEnvironment :
    let settings : Settings :=
      { projectRoot := Path.ofString "/p", interpreterPath := "/v/bin/python" }
    let result := (run bareEnvironment settings true none ["/nowhere.py"]).run (World.initial false)
    bareEnvironment.which "mypy" = some "/u/mypy" ∧
      result.1 = .ok [] ∧ result.2.notices = [.installChecker] := by
  intro settings result
  let python := Path.ofString "/v/bin/python"
  have calm : bareEnvironment.Calm := ⟨rfl, by rintro launch _ ⟨⟩; rfl⟩
  have resolved : settings.resolve bareEnvironment "/v/bin/python" = .ok python := by
    decide +kernel
  have isPython {path : Path} (known : settings.NamesInterpreter bareEnvironment path) :
      path = python := Except.ok.inj (known.2.1.symm.trans resolved)
  have names : settings.NamesInterpreter bareEnvironment python :=
    ⟨by decide, resolved, by decide +kernel⟩
  have activated : bareEnvironment.isRegularFile
      (python.parent / Virtualenv.activationScript bareEnvironment) = .ok true := by
    decide +kernel
  have absent : bareEnvironment.isRegularFile
      (python.parent / Virtualenv.fileName bareEnvironment Virtualenv.checkerName) = .ok false := by
    decide +kernel
  have nothing {name : String} (discovers : Discovers bareEnvironment settings name) :
      name = "" := by
    cases discovers with
    | named given => exact absurd rfl given
    | beside interpreter _ known _ there =>
      cases isPython known
      cases absent.symm.trans there
    | missing => rfl
    | searched _ plain => cases activated.symm.trans (plain python names)
  have homes : HomesKnown bareEnvironment ⟨settings, true, none⟩ true :=
    { found := fun name discovers => nothing discovers ▸ ⟨Path.ofString "", by decide +kernel⟩
      interpreter := fun _ => ⟨python, by decide +kernel⟩ }
  have uncancelled : Option.any (World.initial false).tokens.isCancelled none = false := rfl
  have ends := available_iff_usable calm homes (by decide +kernel) uncancelled
  obtain ⟨found, checked⟩ : ∃ found, ((Preflight.check bareEnvironment ⟨settings, true, none⟩
      true).run (World.initial false)).1 = .ok found := ⟨⟨"", false⟩, by decide +kernel⟩
  obtain ⟨-, discovers, usable, -, scans⟩ := ends.2 found checked
  have unavailable : found.available = false := by
    refine Bool.eq_false_iff.mpr fun available => ?_
    exact (usable.mp available).1 (nothing discovers)
  obtain ⟨after, ran, left⟩ := scans unavailable ["/nowhere.py"] (by simp)
  obtain ⟨notice, advises, told⟩ := left.told unavailable
  refine ⟨by decide +kernel, congrArg Prod.fst ran, ?_⟩
  cases advises with
  | configure unknown => exact absurd names (unknown python)
  | install => exact (congrArg (World.notices ∘ Prod.snd) ran).trans told

/-- Of a checker in a directory that may not be searched it is not told whether it can be used, and
an interpreter with a slash behind the name of its file is taken for that file. -/
theorem available_unsearched_bareEnvironment :
    let machine : Machine := { bareEnvironment with
      refuses := fun place => if place = ["u", "tool"] then some .accessDenied else none }
    let checked (settings : Settings) :=
      (Preflight.check machine ⟨settings, true, none⟩ true).run (World.initial false)
    let root := Path.ofString "/p"
    let hidden := checked { projectRoot := root, executablePath := "/u/tool" }
    let slashed := checked { projectRoot := root, interpreterPath := "/v/bin/python/" }
    machine.files.node? ["u", "tool"] = none ∧
      hidden.1 = .error (.system .accessDenied "/u/tool") ∧ hidden.2.notices = [] ∧
      machine.disk.find true machine.directory "/v/bin/python/" = .error .notDirectory ∧
      slashed.2.notices = [.installChecker] := by
  decide +kernel

end Scan

end CheckRouter
