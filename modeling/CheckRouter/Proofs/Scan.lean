import CheckRouter.Proofs.Grouping
import CheckRouter.Proofs.Launches
import CheckRouter.Scan

/-!
# Scans with one job

A scan with one job checks the buckets of a partition one after the other, each with one program,
and comes to what these programs print, up to the first bucket whose check fails.
-/

namespace CheckRouter.Scan

/-- One bucket is checked, and then the others unless that failed. -/
theorem inTurn_cons (machine : Machine) (checker : Checker) (token : Token) (bucket : Bucket)
    (rest : List Bucket) (world : World) :
    (inTurn machine checker token (bucket :: rest)).run world =
      if world.tokens.isCancelled token then (.error (.stopped .byCaller), world)
      else
        match (checker.execute machine bucket).run world with
        | (.error failure, after) => (.error failure, after)
        | (.ok issues, after) =>
          let others := (inTurn machine checker token rest).run after
          (others.1.map (issues ++ ·), others.2) := by
  cases cancelled : world.tokens.isCancelled token with
  | true => simp [inTurn, Action.run_bind, Action.run_checkpoint, cancelled]
  | false =>
    simp only [inTurn, Action.run_bind, Action.run_checkpoint, Option.any_some, cancelled,
      Bool.false_eq_true, if_false]
    cases (checker.execute machine bucket).run world with
    | mk outcome after =>
      cases outcome with
      | error failure => rfl
      | ok issues =>
        dsimp only
        cases (inTurn machine checker token rest).run after with
        | mk outcome last => cases outcome <;> rfl

/-- What it comes to when buckets are checked one after the other, and the programs that have been
started by then; those in `before` were started before the first check. -/
structure Successive (settings : Settings) (machine : Machine)
    (alone : Bucket → Except Failure (List Issue)) (buckets : List Bucket) (before : List Launch)
    (outcome : Except Failure (List Issue)) (launches : List Launch) : Prop where
  succeeds : (∃ issues, outcome = .ok issues) ↔
    ∀ bucket ∈ buckets, ∃ issues, alone bucket = .ok issues
  found : ∀ issues, outcome = .ok issues → ∃ checks : List (Launch × List Issue),
    List.Forall₂ (Checker.Found settings machine) buckets checks ∧
      launches = before ++ checks.map Prod.fst ∧ issues = checks.flatMap Prod.snd
  /-- The first check that fails is the last one, and may have started no program. -/
  failed : ∀ failure, outcome = .error failure →
    ∃ front bucket rest, ∃ checks : List (Launch × List Issue), ∃ last : Option Launch,
      buckets = front ++ bucket :: rest ∧ alone bucket = .error failure ∧
        List.Forall₂ (Checker.Found settings machine) front checks ∧
        (∀ launch ∈ last, Checker.IsCheck settings machine bucket launch) ∧
        launches = before ++ checks.map Prod.fst ++ last.toList

section InTurn

variable {settings : Settings} {machine : Machine} {alone : Bucket → Except Failure (List Issue)}
  {bucket : Bucket} {buckets : List Bucket} {before launches : List Launch}
  {outcome : Except Failure (List Issue)}

theorem successive_nil : Successive settings machine alone [] before (.ok []) before where
  succeeds := by simp
  found := by
    rintro _ ⟨⟩
    exact ⟨[], .nil, by simp⟩
  failed := by simp

theorem successive_of_failed {failure : Failure} {last : Option Launch}
    (fails : alone bucket = .error failure)
    (isCheck : ∀ launch ∈ last, Checker.IsCheck settings machine bucket launch) :
    Successive settings machine alone (bucket :: buckets) before (.error failure)
      (before ++ last.toList) where
  succeeds := by
    constructor
    · rintro ⟨issues, ⟨⟩⟩
    · intro all
      obtain ⟨issues, succeeds⟩ := all bucket List.mem_cons_self
      cases fails.symm.trans succeeds
  found := by simp
  failed := by
    rintro _ ⟨⟩
    exact ⟨[], bucket, buckets, [], last, rfl, fails, .nil, isCheck, by simp⟩

theorem Successive.cons {check : Launch × List Issue} (succeeds : alone bucket = .ok check.2)
    (found : Checker.Found settings machine bucket check)
    (rest : Successive settings machine alone buckets (before ++ [check.1]) outcome launches) :
    Successive settings machine alone (bucket :: buckets) before (outcome.map (check.2 ++ ·))
      launches where
  succeeds := by
    constructor
    · rintro ⟨issues, all⟩ other member
      rcases List.mem_cons.mp member with rfl | there
      · exact ⟨check.2, succeeds⟩
      · cases outcome with
        | error failure => cases all
        | ok more => exact rest.succeeds.mp ⟨more, rfl⟩ other there
    · intro all
      obtain ⟨more, ends⟩ := rest.succeeds.mpr fun other there =>
        all other (List.mem_cons_of_mem _ there)
      exact ⟨check.2 ++ more, by rw [ends]; rfl⟩
  found := by
    intro issues all
    cases outcome with
    | error failure => cases all
    | ok more =>
      cases all
      obtain ⟨checks, each, started, rfl⟩ := rest.found more rfl
      exact ⟨check :: checks, .cons found each, by simpa using started, by simp⟩
  failed := by
    intro failure fails
    cases outcome with
    | ok more => cases fails
    | error other =>
      cases fails
      obtain ⟨front, blamed, others, checks, last, rfl, alone, each, isCheck, started⟩ :=
        rest.failed failure rfl
      exact ⟨bucket :: front, blamed, others, check :: checks, last, rfl, alone,
        .cons found each, isCheck, by simpa using started⟩

variable {checker : Checker} {token : Token}

theorem inTurn_successive (calm : machine.Calm)
    (rooted : checker.settings.projectRoot.isAbsolute = true)
    (watched : checker.token = some token) (buckets : List Bucket) {world : World}
    (uncancelled : world.tokens.isCancelled token = false) :
    let ran := (inTurn machine checker token buckets).run world
    Successive checker.settings machine (checker.alone machine) buckets world.launches ran.1
      ran.2.launches := by
  induction buckets generalizing world with
  | nil => exact successive_nil
  | cons bucket rest ih =>
    have outcome : ((checker.execute machine bucket).run world).1 = checker.alone machine bucket :=
      Checker.execute_outcome calm (by simpa [watched] using uncancelled)
    have tokens := checker.keeps_tokens machine calm bucket world
    have launched := Checker.execute_launches rooted machine bucket world
    rw [inTurn_cons, uncancelled, if_neg Bool.false_ne_true]
    cases ran : (checker.execute machine bucket).run world with
    | mk result after =>
      rw [ran] at outcome tokens launched
      rcases launched with ⟨check, found, rfl, started⟩ | ⟨failure, last, rfl, isCheck, started⟩
      · have more := @ih after (by rw [tokens, uncancelled])
        simp only at more started ⊢
        rw [started] at more
        exact more.cons outcome.symm found
      · simp only at started ⊢
        rw [started]
        exact successive_of_failed outcome.symm isCheck

end InTurn

/-- What a scan does once it knows whether a checker can be used. -/
def proceed (machine : Machine) (checker : Checker) (token : Token) (files : List String)
    (availability : Availability) : Action (List Issue) := do
  if availability.available then
    check machine checker token availability.executable files
  else
    Action.record .info .scanner
      ("mypy is not available; skipping scan of " ++ toString files.length ++ " files")
    return []

/-- A scan of some files begins when its token is known, for which nothing is started or killed. -/
theorem run_of_filled (machine : Machine) (settings : Settings) (notifies : Bool)
    (given : Option Token) {files : List String} (world : World) (filled : files ≠ []) :
    ∃ token entered, (tokenFor given).run world = (.ok token, entered) ∧
      entered.started = world.started ∧ entered.kills = world.kills ∧
      (run machine settings notifies given files).run world =
        (Preflight.check machine ⟨settings, notifies, some token⟩ notifies >>=
          proceed machine ⟨settings, notifies, some token⟩ token files).run entered := by
  have some_given : files.isEmpty = false := List.isEmpty_eq_false_iff.mpr filled
  cases given with
  | some token =>
    refine ⟨token, world, rfl, rfl, rfl, ?_⟩
    simp only [run, some_given, Bool.false_eq_true, if_false]
    rfl
  | none =>
    refine ⟨_, _, rfl, rfl, rfl, ?_⟩
    simp only [run, some_given, Bool.false_eq_true, if_false]
    rfl

/-- The buckets that a scan comes to check, and the world in which it begins with them. -/
def Routed (machine : Machine) (settings : Settings) (notifies : Bool) (token : Token)
    (files : List String) (entered : World) (buckets : List Bucket) (routed : World) : Prop :=
  ∃ executable configFile checked,
    (Preflight.check machine ⟨settings, notifies, some token⟩ notifies).run entered =
      (.ok ⟨executable, true⟩, checked) ∧
    settings.configFile machine = .ok configFile ∧
    (Routing.partition machine (router settings token) ⟨executable, configFile⟩ files).run checked =
      (.ok buckets, routed)

section Run

variable {machine : Machine} {settings : Settings} {notifies : Bool} {given : Option Token}
  {token : Token} {files : List String} {executable configFile : String} {buckets : List Bucket}
  {world entered checked routed : World}

theorem run_of_prepared (filled : files ≠ [])
    (opened : (tokenFor given).run world = (.ok token, entered))
    (available : (Preflight.check machine ⟨settings, notifies, token⟩ notifies).run entered =
      (.ok ⟨executable, true⟩, checked))
    (configured : settings.configFile machine = .ok configFile)
    (partitioned : (Routing.partition machine (router settings token) ⟨executable, configFile⟩
      files).run checked = (.ok buckets, routed)) :
    let result := (run machine settings notifies given files).run world
    let executed := (execute machine ⟨settings, notifies, token⟩ token buckets).run routed
    result.1 = executed.1 ∧ result.2.launches = executed.2.launches := by
  have given : files.isEmpty = false := List.isEmpty_eq_false_iff.mpr filled
  simp only [run, given, Bool.false_eq_true, if_false, Action.run_bind, opened, available, if_true,
    check, Action.run_lift, configured, partitioned]
  cases (execute machine ⟨settings, notifies, token⟩ token buckets).run routed with
  | mk outcome after => cases outcome <;> exact ⟨rfl, rfl⟩

/-- After the preparations of a scan only the checks of the buckets start programs, one for each
bucket and in their order. Every file is in one bucket, and the issues are those that the programs
print. -/
theorem run_successive (machine : Machine) (settings : Settings) (notifies : Bool)
    (given : Option Token) (files : List String) (world : World) (filled : files ≠ [])
    (rooted : settings.projectRoot.isAbsolute = true) (oneJob : settings.jobs = 1)
    (calm : machine.Calm) (opened : (tokenFor given).run world = (.ok token, entered))
    (uncancelled : entered.tokens.isCancelled token = false)
    (available : (Preflight.check machine ⟨settings, notifies, token⟩ notifies).run entered =
      (.ok ⟨executable, true⟩, checked))
    (configured : settings.configFile machine = .ok configFile)
    (partitioned : (Routing.partition machine (router settings token) ⟨executable, configFile⟩
      files).run checked = (.ok buckets, routed)) :
    let result := (run machine settings notifies given files).run world
    let checker : Checker := ⟨settings, notifies, token⟩
    let alone := fun bucket => ((checker.execute machine bucket).run routed).1
    Successive settings machine alone buckets routed.launches result.1 result.2.launches ∧
      (buckets.flatMap Bucket.files).Nodup ∧
        ∀ file, file ∈ buckets.flatMap Bucket.files ↔ file ∈ files := by
  intro result checker alone
  have before : checked.tokens = entered.tokens := by
    have keeps := Preflight.keeps_check machine silent_tokens unstarting_tokens
      calm.timeless_tokens checker notifies entered
    rwa [available] at keeps
  have later : routed.tokens = checked.tokens := by
    have keeps := Routing.keeps_partition machine silent_tokens unstarting_tokens
      calm.timeless_tokens (router settings token) ⟨executable, configFile⟩ files checked
    rwa [partitioned] at keeps
  have watched : checker.token = some token := rfl
  have goesOn : routed.tokens.isCancelled token = false := by rw [later, before, uncancelled]
  have alone_eq : alone = checker.alone machine := by
    funext bucket
    exact Checker.execute_outcome calm goesOn
  have inTurn_eq : execute machine checker token buckets = inTurn machine checker token buckets := by
    have few : min checker.settings.jobs (buckets.length : Int) ≤ 1 := by
      rw [show checker.settings.jobs = 1 from oneJob]
      exact min_le_left _ _
    exact if_pos few
  obtain ⟨outcome, launches⟩ := run_of_prepared filled opened available configured partitioned
  refine ⟨?_, Routing.files_of_partition partitioned⟩
  rw [alone_eq, outcome, launches, inTurn_eq]
  exact inTurn_successive calm rooted watched buckets goesOn

end Run

theorem mem_of_respond {rules : List Rule} {launch : Launch} {behaviour : Behaviour}
    (responds : Rule.respond rules launch = .ok behaviour) :
    behaviour = {} ∨ ∃ rule ∈ rules, rule.response = .ok behaviour := by
  unfold Rule.respond at responds
  split at responds
  · next rule found => exact .inr ⟨rule, List.mem_of_find?_eq_some found, responds⟩
  · exact .inl (Except.ok.inj responds).symm

/-- A machine where two directories of files have an environment each, with a checker in it. -/
def twoEnvironments : Machine := { Routing.twoDirectories with
  files := ⟨(["w", "bin", "mypy"], .file ⟨[], true, false⟩) :: Routing.twoDirectories.files.nodes⟩
  respond := Rule.respond [
    { directory := some "/p", argument := some "--venv",
      response := .ok { output := "/v".toUTF8.toList } },
    { directory := some "/q", argument := some "--venv",
      response := .ok { output := "/w".toUTF8.toList } },
    { program := some "/v/bin/mypy", argument := some "/p/a.py",
      response := .ok { output := "a:1: note: x".toUTF8.toList, status := 1 } },
    { program := some "/w/bin/mypy", argument := some "/q/b.py",
      response := .ok { output := "b:2: error: y".toUTF8.toList, status := 1 } }] }

/-- Two checks, in the order of the files, behind the query and the probes of two directories. A file
that is given twice is checked once. -/
theorem run_successive_twoEnvironments :
    let settings : Settings :=
      { projectRoot := Path.ofString "/", executablePath := "/v/bin/mypy", autodetect := true }
    let first : Bucket := ⟨"/w/bin/mypy", "", ["/q/b.py"]⟩
    let second : Bucket := ⟨"/v/bin/mypy", "", ["/p/a.py"]⟩
    let result := (run twoEnvironments settings false (some callerToken)
      ["/q/b.py", "/p/a.py", "/q/b.py"]).run (World.initial false)
    ∃ before one two, before.length = 5 ∧
      Checker.Found settings twoEnvironments first one ∧
      Checker.Found settings twoEnvironments second two ∧
      result.2.launches = before ++ [one.1, two.1] ∧ result.1 = .ok (one.2 ++ two.2) := by
  intro settings first second result
  let files := ["/q/b.py", "/p/a.py", "/q/b.py"]
  let checker : Checker := ⟨settings, false, some callerToken⟩
  let checked := ((Preflight.check twoEnvironments checker false).run (World.initial false)).2
  let routing := (Routing.partition twoEnvironments (router settings callerToken)
    ⟨"/v/bin/mypy", ""⟩ files).run checked
  have calm : twoEnvironments.Calm := by
    refine ⟨rfl, fun launch behaviour responds => ?_⟩
    rcases mem_of_respond responds with rfl | ⟨rule, among, answers⟩
    · rfl
    · simp only [List.mem_cons, List.not_mem_nil, or_false] at among
      rcases among with rfl | rfl | rfl | rfl <;> cases answers <;> rfl
  have available : ((Preflight.check twoEnvironments checker false).run (World.initial false)).1 =
      .ok ⟨"/v/bin/mypy", true⟩ := by decide +kernel
  have partitioned : routing.1 = .ok [first, second] := by decide +kernel
  have ends : result.1 = .ok [⟨"b", 2, 1, .error, "y", by decide, by decide⟩,
      ⟨"a", 1, 1, .note, "x", by decide, by decide⟩] := by decide +kernel
  obtain ⟨successive, -⟩ := run_successive twoEnvironments settings false (some callerToken)
    files (World.initial false) (List.cons_ne_nil _ _) (by decide +kernel) rfl calm rfl rfl
    (Prod.ext available rfl) rfl (Prod.ext partitioned rfl)
  obtain ⟨checks, each, started, same⟩ := successive.found _ ends
  cases each with
  | cons one rest =>
    cases rest with
    | cons two rest =>
      cases rest
      refine ⟨routing.2.launches, _, _, ?_, one, two, started, ?_⟩
      · decide +kernel
      · simpa [same] using ends

end CheckRouter.Scan
