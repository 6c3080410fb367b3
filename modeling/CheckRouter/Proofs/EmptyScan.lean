import CheckRouter.Proofs.Partition
import CheckRouter.Proofs.Pool.Tally
import CheckRouter.Scan

/-!
# Scans that find nothing

A scan finds nothing only if no checker can be used, or if every bucket was checked to the end and
no checker had anything to say. No failure is passed over, whatever the order in which workers take
turns.
-/

namespace CheckRouter.Scan

open CheckRouter.Action

variable {machine : Machine} {checker : Checker} {token : Token} {world after : World}

theorem foundNothingIn_cons {bucket : Bucket} {buckets : List Bucket} {launch : Launch}
    {between : World} (found : checker.FoundNothing machine bucket launch)
    (started : between.started = world.started ++ [⟨launch, false⟩])
    (rest : checker.FoundNothingIn machine buckets between after) :
    checker.FoundNothingIn machine (bucket :: buckets) world after := by
  obtain ⟨launches, starts, each, perm, later⟩ := rest
  refine ⟨launch :: launches, launch :: starts, .cons found each, perm.cons launch, ?_⟩
  rw [later, started, List.append_assoc, List.map_cons, List.singleton_append]

theorem foundNothingIn_of_inTurn {buckets : List Bucket}
    (ran : (inTurn machine checker token buckets).run world = (.ok [], after)) :
    checker.FoundNothingIn machine buckets world after := by
  induction buckets generalizing world with
  | nil =>
    cases ran
    exact ⟨[], [], .nil, .nil, by simp⟩
  | cons bucket rest ih =>
    obtain ⟨⟨⟩, begun, passed, ran⟩ := (run_bind_eq_ok _).mp ran
    obtain ⟨issues, between, executed, ran⟩ := (run_bind_eq_ok _).mp ran
    obtain ⟨more, last, others, joined⟩ := (run_bind_eq_ok _).mp ran
    obtain ⟨all, rfl⟩ := Prod.mk.inj joined
    obtain ⟨rfl, rfl⟩ := List.append_eq_nil_iff.mp (Except.ok.inj all)
    obtain ⟨-, rfl⟩ := Prod.mk.inj ((run_checkpoint _ _).symm.trans passed)
    obtain ⟨launch, found, started⟩ := Checker.execute_nil executed
    exact foundNothingIn_cons found started (ih others)

theorem foundNothingIn_of_execute {buckets : List Bucket}
    (ran : (execute machine checker token buckets).run world = (.ok [], after)) :
    checker.FoundNothingIn machine buckets world after := by
  unfold execute at ran
  split at ran
  · exact foundNothingIn_of_inTurn ran
  · obtain ⟨turns, last, outcome, complete, -, run⟩ :=
      Pool.exists_complete machine checker token buckets world
    cases run.symm.trans ran
    exact complete.foundNothingIn

/-- How a scan can find nothing, from the world in which its token is known. -/
inductive Unfound (machine : Machine) (checker : Checker) (token : Token) (files : List String)
    (world after : World) : Prop
  | unavailable (executable : String) (checked : World) (query : Option Launch)
      (answers : (Preflight.check machine checker checker.notifies).run world =
        (.ok ⟨executable, false⟩, checked))
      (started : after.launches = world.launches ++ query.toList)
      (queries : ∀ launch ∈ query, checker.IsQuery machine executable launch)
  | checked (executable configFile : String) (buckets : List Bucket) (checked routed : World)
      (answers : (Preflight.check machine checker checker.notifies).run world =
        (.ok ⟨executable, true⟩, checked))
      (configured : checker.settings.configFile machine = .ok configFile)
      (partitioned : (Routing.partition machine (router checker.settings token)
        ⟨executable, configFile⟩ files).run checked = (.ok buckets, routed))
      (placed : ∀ file ∈ files, ∃ bucket ∈ buckets, file ∈ bucket.files)
      (each : checker.FoundNothingIn machine buckets routed after)

theorem unfound_of_check {executable : String} {files : List String} {checked : World}
    (answers : (Preflight.check machine checker checker.notifies).run world =
      (.ok ⟨executable, true⟩, checked))
    (ran : (check machine checker token executable files).run checked = (.ok [], after)) :
    Unfound machine checker token files world after := by
  obtain ⟨configFile, entered, configured, ran⟩ := (run_bind_eq_ok _).mp ran
  obtain ⟨known, rfl⟩ := Prod.mk.inj ((run_lift _ _).symm.trans configured)
  obtain ⟨buckets, routed, partitioned, ran⟩ := (run_bind_eq_ok _).mp ran
  obtain ⟨issues, executed, found, ran⟩ := (run_bind_eq_ok _).mp ran
  cases ran
  have each := foundNothingIn_of_execute found
  have placed := (Routing.files_of_partition partitioned).2
  exact .checked executable configFile buckets _ routed answers known partitioned
    (fun file given => List.mem_flatMap.mp ((placed file).mpr given)) each

/-- A scan that finds nothing hides no failure. Either it was told that no checker can be used and
started nothing but a version query; or the checkers of all buckets were started once each, were not
killed, ended with status zero or one, and printed no line that is a diagnostic. -/
theorem run_nil {settings : Settings} {notifies : Bool} {given : Option Token}
    {files : List String}
    (ran : (run machine settings notifies given files).run world = (.ok [], after)) :
    ∃ token entered, (tokenFor given).run world = (.ok token, entered) ∧
      entered.started = world.started ∧
      Unfound machine ⟨settings, notifies, some token⟩ token files entered after := by
  unfold run at ran
  split at ran
  · cases ran
  · obtain ⟨token, entered, opened, ran⟩ := (run_bind_eq_ok _).mp ran
    obtain ⟨⟨executable, available⟩, checked, answers, ran⟩ := (run_bind_eq_ok _).mp ran
    have same : entered.started = world.started := by
      cases given <;> cases opened <;> rfl
    refine ⟨token, entered, opened, same, ?_⟩
    cases available with
    | true => exact unfound_of_check answers ran
    | false =>
      obtain ⟨query, started, queries⟩ := Preflight.check_launches answers
      cases ran
      exact .unavailable executable checked query answers started queries

theorem run_nil_oneProgram :
    let machine := Command.oneProgram { duration := 3 / 10 } none
    let settings : Settings :=
      { projectRoot := Path.ofString "/", executablePath := "/bin/tool" }
    let result := (run machine settings false (some callerToken) ["/bin/tool"]).run
      (World.initial false)
    ∃ entered, Unfound machine ⟨settings, false, some callerToken⟩ callerToken ["/bin/tool"] entered
      result.2 := by
  intro machine settings result
  have found : result.1 = .ok [] := by decide +kernel
  obtain ⟨token, entered, opened, -, unfound⟩ := run_nil (Prod.ext found rfl)
  cases opened
  exact ⟨_, unfound⟩

end CheckRouter.Scan
