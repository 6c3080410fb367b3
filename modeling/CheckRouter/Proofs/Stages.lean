import CheckRouter.Proofs.Calls
import CheckRouter.Proofs.Pool.Custody
import CheckRouter.Proofs.Scan
import Mathlib.Data.List.Perm.Basic

/-!
# Stages of a scan

A scan prepares and then checks its buckets. In its preparations it asks only for a version and for
what governs directories. After them it starts one program at most for each bucket, the checker of
that bucket over its files.
-/

namespace CheckRouter

open CheckRouter.Action

/-- A program that is told how to show what it finds is a checker that checks something. -/
def Launch.Checks (launch : Launch) : Prop :=
  ["--show-column-numbers", "--follow-imports", "silent"] <+: launch.arguments.tail

theorem Brief.not_checks {launch : Launch} (brief : Brief launch.arguments) : ¬launch.Checks := by
  intro checks
  have long := checks.length_le
  simp only [List.length_cons, List.length_nil, List.length_tail] at long
  unfold Brief at brief
  omega

namespace Checker

variable {checker : Checker} {machine : Machine} {buckets : List Bucket}
  {first world after : World}

theorem checks_of_checkOf {bucket : Bucket} {launch : Launch}
    (launched : checker.checkOf machine bucket = .ok launch) : launch.Checks := by
  obtain ⟨command, options, arguments, prepared, found, rfl⟩ := checkOf_eq_ok.mp launched
  show _ <+: arguments.tail
  rw [Command.tail_lookup found]
  obtain ⟨path, extra, environment, -, -, -, rfl, -⟩ := prepare_eq_ok.mp prepared
  exact ⟨_, rfl⟩

/-- The check of a bucket starts its program, if any. -/
theorem execute_starts (checker : Checker) (machine : Machine) (bucket : Bucket) (world : World) :
    ∃ part : Option Launch,
      ((checker.execute machine bucket).run world).2.launches = world.launches ++ part.toList ∧
        ∀ launch ∈ part, checker.checkOf machine bucket = .ok launch := by
  have begins := checker.begin_cases machine bucket world
  rw [execute_eq, run_bind]
  cases begun : (checker.begin machine bucket).run world with
  | mk outcome between =>
    rw [begun] at begins
    rcases begins with ⟨failure, rfl, same⟩ | ⟨launch, launched, started, -⟩
    · refine ⟨none, ?_, by simp⟩
      rw [Option.toList_none, List.append_nil]
      exact congrArg (List.map Started.launch) same
    · have grown : between.launches = world.launches ++ [launch] := by
        rw [World.launches, started, List.map_append]
        rfl
      refine ⟨some launch, ?_, by simpa using launched⟩
      cases outcome with
      | error failure => exact grown
      | ok process => exact (checker.keeps_finish machine bucket process between).trans grown

/-! ## Checks of buckets -/

/-- From one world to another programs were started that check some buckets, one at most for each
of them and in whatever order. -/
def ChecksIn (checker : Checker) (machine : Machine) (buckets : List Bucket)
    (world after : World) : Prop :=
  ∃ (parts : List (Option Launch)) (launches : List Launch),
    List.Forall₂ (fun bucket part => ∀ launch ∈ part, checker.checkOf machine bucket = .ok launch)
      buckets parts ∧
    launches.Perm parts.reduceOption ∧ after.launches = world.launches ++ launches

theorem checksIn_none (buckets : List Bucket) (same : after.launches = world.launches) :
    checker.ChecksIn machine buckets world after := by
  refine ⟨buckets.map fun _ => none, [], ?_, ?_, by simp [same]⟩
  · apply List.forall₂_map_right_iff.mpr
    exact List.forall₂_same.mpr fun bucket _ => by simp
  · have empty : (buckets.map fun _ => (none : Option Launch)).reduceOption = [] := by
      refine List.eq_nil_iff_forall_not_mem.mpr fun launch member => ?_
      simpa using List.reduceOption_mem_iff.mp member
    rw [empty]

theorem ChecksIn.cons {bucket : Bucket} {part : Option Launch} {between : World}
    (launched : ∀ launch ∈ part, checker.checkOf machine bucket = .ok launch)
    (started : between.launches = world.launches ++ part.toList)
    (rest : checker.ChecksIn machine buckets between after) :
    checker.ChecksIn machine (bucket :: buckets) world after := by
  obtain ⟨parts, launches, each, perm, later⟩ := rest
  refine ⟨part :: parts, part.toList ++ launches, .cons launched each, ?_, ?_⟩
  · cases part with
    | none => exact perm
    | some launch => exact perm.cons launch
  · rw [later, started, List.append_assoc]

/-- Every program is that of some bucket. -/
theorem ChecksIn.exists_bucket (checks : checker.ChecksIn machine buckets world after) :
    ∃ launches, after.launches = world.launches ++ launches ∧
      ∀ launch ∈ launches, ∃ bucket ∈ buckets, checker.checkOf machine bucket = .ok launch := by
  obtain ⟨parts, launches, each, perm, later⟩ := checks
  refine ⟨launches, later, fun launch member => ?_⟩
  have there := List.reduceOption_mem_iff.mp (perm.mem_iff.mp member)
  obtain ⟨bucket, among, launched⟩ := Pool.exists_of_forall₂ (List.Forall₂.flip each) there
  exact ⟨bucket, among, launched launch rfl⟩

end Checker

/-! ## Pools -/

namespace Pool

variable {machine : Machine} {checker : Checker} {token : Token} {buckets : List Bucket}
  {world : World} {turns : List Turn} {last : State} {outcome : Except Failure (List Issue)}

theorem map_some_drop {α : Type} (entries : List α) (count : Nat) :
    (entries.drop count).map some =
      (List.range' count (entries.length - count)).map (entries[·]?) := by
  refine List.ext_getElem? fun place => ?_
  rw [List.getElem?_map, List.getElem?_map, List.getElem?_drop]
  by_cases inside : place < entries.length - count
  · rw [List.getElem?_range' inside, List.getElem?_eq_getElem (by omega)]
    simp
  · rw [List.getElem?_eq_none (by omega), List.getElem?_eq_none (by simpa using inside)]
    rfl

theorem Discharged.checkOf {pool : Pool} {program : Option Program} {task : Task} {first : World}
    (discharged : Discharged pool first world program task) :
    ∀ launch ∈ program.map Program.launch,
      pool.checker.checkOf pool.machine task.bucket = .ok launch := by
  cases discharged with
  | unstarted => simp
  | released program told launched reported released => simpa using launched

theorem Complete.checksIn
    (complete : Complete machine checker token buckets world turns last outcome) :
    checker.ChecksIn machine buckets world last.world := by
  obtain ⟨programs, relieved⟩ := complete.relieved
  let known := last.world.launches
  have before : world.launches <+: known := relieved.grows.started.map _
  have length : world.launches.length = world.started.length := List.length_map _
  have lengthAfter : known.length = last.world.started.length := List.length_map _
  have each : ∀ program ∈ programs.reduceOption, known[program.number]? = some program.launch := by
    intro program member
    obtain ⟨task, -, discharged⟩ :=
      exists_of_forall₂ relieved.discharged (List.reduceOption_mem_iff.mp member)
    cases discharged with
    | released _ told _ _ released =>
      obtain ⟨killed, standing⟩ := released.standing
      show (List.map Started.launch last.world.started)[program.number]? = _
      rw [List.getElem?_map, standing.started]
      rfl
  refine ⟨programs.map (Option.map Program.launch), known.drop world.launches.length, ?_, ?_, ?_⟩
  · rw [← complete.running.buckets_eq]
    apply List.forall₂_map_left_iff.mpr
    apply List.forall₂_map_right_iff.mpr
    exact (relieved.discharged.imp fun _ _ discharged => discharged.checkOf).flip
  · rw [List.reduceOption_map]
    refine (List.map_perm_map_iff (Option.some_injective _)).mp ?_
    have all := relieved.all.map (known[·]?)
    rw [numbers, List.map_map, ← length, ← lengthAfter] at all
    rw [map_some_drop, List.map_map]
    refine all.symm.trans (List.Perm.of_eq (List.map_congr_left each))
  · exact List.prefix_iff_eq_append.mp before |>.symm

end Pool

/-! ## Scans -/

namespace Scan

variable {machine : Machine} {checker : Checker} {token : Token}

theorem checksIn_inTurn (buckets : List Bucket) (world : World) :
    checker.ChecksIn machine buckets world
      ((inTurn machine checker token buckets).run world).2 := by
  induction buckets generalizing world with
  | nil => exact Checker.checksIn_none [] rfl
  | cons bucket rest ih =>
    rw [inTurn_cons]
    split
    · exact Checker.checksIn_none _ rfl
    · obtain ⟨part, started, launched⟩ := checker.execute_starts machine bucket world
      split
      · next failure after ran =>
        rw [ran] at started
        exact .cons launched started (Checker.checksIn_none rest rfl)
      · next issues after ran =>
        rw [ran] at started
        exact .cons launched started (ih after)

theorem checksIn_execute (buckets : List Bucket) (world : World) :
    checker.ChecksIn machine buckets world
      ((execute machine checker token buckets).run world).2 := by
  unfold execute
  split
  · exact checksIn_inTurn buckets world
  · obtain ⟨turns, last, outcome, complete, -, ran⟩ :=
      Pool.exists_complete machine checker token buckets world
    rw [ran]
    exact complete.checksIn

variable {settings : Settings} {notifies : Bool} {given : Option Token} {files : List String}
  {world : World} {result : Except Failure (List Issue) × World}

/-- How far a scan has come from the world in which its token is known: it has only prepared, or it
has checked the buckets of its partition. -/
inductive Staged (machine : Machine) (settings : Settings) (notifies : Bool) (token : Token)
    (files : List String) (world : World) (result : Except Failure (List Issue) × World) : Prop
  | prepared (more : List Launch) (started : result.2.launches = world.launches ++ more)
      (brief : ∀ launch ∈ more, Brief launch.arguments)
  | checked (buckets : List Bucket) (routed : World) (more : List Launch)
      (routes : Routed machine settings notifies token files world buckets routed)
      (started : routed.launches = world.launches ++ more)
      (brief : ∀ launch ∈ more, Brief launch.arguments)
      (outcome : result.1 =
        ((execute machine ⟨settings, notifies, some token⟩ token buckets).run routed).1)
      (checks : Checker.ChecksIn ⟨settings, notifies, some token⟩ machine buckets routed result.2)

theorem staged_check {executable : String} {checked : World} {more : List Launch}
    (answers : (Preflight.check machine ⟨settings, notifies, some token⟩ notifies).run world =
      (.ok ⟨executable, true⟩, checked))
    (started : checked.launches = world.launches ++ more)
    (brief : ∀ launch ∈ more, Brief launch.arguments) :
    Staged machine settings notifies token files world
      ((check machine ⟨settings, notifies, some token⟩ token executable files).run checked) := by
  let checker : Checker := ⟨settings, notifies, some token⟩
  simp only [check, run_bind, run_lift]
  cases configured : settings.configFile machine with
  | error failure => exact .prepared more started brief
  | ok configFile =>
    have follows : Follows machine token Brief
        (Routing.partition machine (router settings token) ⟨executable, configFile⟩ files) :=
      Routing.follows_partition rfl _ files
    obtain ⟨others, asked, also⟩ := follows.launches_of_brief checked
    have all : ∀ launch ∈ more ++ others, Brief launch.arguments := fun launch member =>
      (List.mem_append.mp member).elim (brief launch) (also launch)
    rw [started, List.append_assoc] at asked
    dsimp only
    cases partitioned : (Routing.partition machine (router settings token)
        ⟨executable, configFile⟩ files).run checked with
    | mk outcome routed =>
      rw [partitioned] at asked
      cases outcome with
      | error failure => exact .prepared _ asked all
      | ok buckets =>
        have routes : Routed machine settings notifies token files world buckets routed :=
          ⟨executable, configFile, checked, answers, configured, partitioned⟩
        have checks : checker.ChecksIn machine buckets routed
            ((execute machine checker token buckets).run routed).2 :=
          checksIn_execute buckets routed
        dsimp only
        cases executed : (execute machine checker token buckets).run routed with
        | mk outcome after =>
          rw [executed] at checks
          have same : ((execute machine checker token buckets).run routed).1 = outcome :=
            congrArg Prod.fst executed
          cases outcome with
          | error failure =>
            exact .checked buckets routed _ routes asked all same.symm checks
          | ok issues => exact .checked buckets routed _ routes asked all same.symm checks

/-- A scan of no files does nothing. One of some files prepares, and may go on to check buckets. -/
theorem run_staged (machine : Machine) (settings : Settings) (notifies : Bool)
    (given : Option Token) (files : List String) (world : World) :
    let result := (run machine settings notifies given files).run world
    files = [] ∧ result = (.error .noSources, world) ∨
      ∃ token entered, (tokenFor given).run world = (.ok token, entered) ∧
        entered.launches = world.launches ∧
        Staged machine settings notifies token files entered result := by
  intro result
  by_cases unfilled : files = []
  · subst unfilled
    exact .inl ⟨rfl, rfl⟩
  · right
    obtain ⟨token, entered, opened, started, -, ran⟩ :=
      run_of_filled machine settings notifies given world unfilled
    refine ⟨token, entered, opened, congrArg (List.map Started.launch) started, ?_⟩
    let checker : Checker := ⟨settings, notifies, some token⟩
    have follows : Follows machine token Brief (Preflight.check machine checker notifies) :=
      Preflight.follows_check rfl notifies
    obtain ⟨more, asked, brief⟩ := follows.launches_of_brief entered
    show Staged machine settings notifies token files entered ((run _ _ _ _ _).run world)
    rw [ran, run_bind]
    cases answers : (Preflight.check machine checker notifies).run entered with
    | mk outcome checked =>
      rw [answers] at asked
      cases outcome with
      | error failure => exact .prepared more asked brief
      | ok found =>
        obtain ⟨executable, available⟩ := found
        cases available with
        | true => exact staged_check answers asked brief
        | false => exact .prepared more asked brief

end Scan

end CheckRouter
