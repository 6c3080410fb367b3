import CheckRouter.Proofs.Pool.Tally
import CheckRouter.Proofs.Supervision
import Mathlib.Data.List.Forall2
import Mathlib.Data.List.ReduceOption

/-!
# Programs in the custody of a pool

Every program that a pool starts belongs to one of its tasks, which holds it until it is released.
`Custody` is what every turn keeps. A pool that has come to its end holds no program any more, also
when it was interrupted or its tasks were stopped.
-/

namespace CheckRouter

open CheckRouter.Action

namespace Checker

open Command (Process)

variable {checker : Checker} {machine : Machine} {bucket : Bucket} {world : World}

/-- What it comes to to start the program of a bucket: nothing was started, the system refused in the
end, or a process runs. -/
inductive Begins (checker : Checker) (machine : Machine) (bucket : Bucket) (world : World) :
    Except Failure Process × World → Prop
  | unstarted (failure : Failure) (after : World) (passes : world.Passes after) :
      Begins checker machine bucket world (.error failure, after)
  | refused (launch : Launch) (error : SystemError) (failure : Failure) (command : List String)
      (after : World) (uncancelled : checker.token.any world.tokens.isCancelled = false)
      (launched : checker.checkOf machine bucket = .ok launch)
      (responds : machine.respond launch = .error error)
      (refusal : failure = .system error (launch.arguments.headD ""))
      (same : after.deeds = (world.withStarted launch).deeds) :
      Begins checker machine bucket world
        (.error (.checkerFailed 127 failure.message command), after)
  | started (launch : Launch) (behaviour : Behaviour) (after : World)
      (uncancelled : checker.token.any world.tokens.isCancelled = false)
      (launched : checker.checkOf machine bucket = .ok launch)
      (responds : machine.respond launch = .ok behaviour)
      (same : after.deeds = (world.withStarted launch).deeds) :
      Begins checker machine bucket world (.ok (.begun world (launch.arguments, behaviour)), after)

theorem begins (checker : Checker) (machine : Machine) (bucket : Bucket) (world : World) :
    Begins checker machine bucket world ((checker.begin machine bucket).run world) := by
  simp only [begin, run_bind, run_lift]
  cases prepared : checker.prepare machine bucket with
  | error failure => exact .unstarted failure world (.refl world)
  | ok result =>
    obtain ⟨command, options⟩ := result
    simp only [run_record, run_attempt]
    have begins := Command.launched machine checker.token options command
      (world.note .info .runner ("Running command: " ++ Text.ShellWords.join command))
    generalize (Command.launch machine checker.token options command).run _ = ran at begins ⊢
    cases begins with
    | unstarted failure =>
      dsimp only
      cases failure.isRefusal with
      | false => exact .unstarted _ _ (.of_deeds rfl)
      | true => exact .unstarted _ _ (.of_deeds rfl)
    | stopped cancelled => exact .unstarted _ _ ⟨le_rfl, rfl, rfl⟩
    | refused arguments error uncancelled found responds =>
      have launched := checkOf_eq_ok.mpr ⟨command, options, arguments, prepared, found, rfl⟩
      generalize refusal : Failure.system error (arguments.headD "") = failure
      have refused : failure.isRefusal = true := by rw [← refusal]; rfl
      simp only [refused, Bool.not_true, Bool.false_eq_true, if_false, run_bind, run_record,
        run_throw]
      exact .refused _ error failure command _ uncancelled launched responds refusal.symm rfl
    | started arguments behaviour uncancelled found responds =>
      have launched := checkOf_eq_ok.mpr ⟨command, options, arguments, prepared, found, rfl⟩
      show Begins checker machine bucket world
        (.ok (.begun world ((options.toLaunch arguments).arguments, behaviour)), _)
      exact .started _ behaviour _ uncancelled launched responds rfl

end Checker

namespace Pool

open Command (Process Event)

variable {pool : Pool} {bucket : Bucket} {status : Status} {first world after : World}
  {task : Task} {state next begun : State} {turn : Turn} {done : List Turn}

/-- A program that was started, by its number and the time of its start. -/
structure Program where
  number : Nat
  launch : Launch
  start : Rat

/-- What has been told of the program of a task, as far as its status says. -/
inductive Told : Status → Except Failure Completed → Prop
  | ended (completed : Completed) : Told (.ended completed) (.ok completed)
  | finished (completed : Completed) (issues : List Issue)
      (read : Checker.reading completed = .ok issues) : Told (.finished issues) (.ok completed)
  | unread (completed : Completed) (failure : Failure)
      (read : Checker.reading completed = .error failure) : Told (.failed failure) (.ok completed)
  | refused (failure : Failure) (command : List String) (refusal : failure.isRefusal = true) :
      Told (.failed (.checkerFailed 127 failure.message command)) (.error failure)
  | stopped (stop : Stop) : Told (.failed (.stopped stop)) (.error (.stopped stop))

/-- The program of a task that holds none: no program was started for it, or one was released. -/
inductive Discharged (pool : Pool) (first world : World) : Option Program → Task → Prop
  | unstarted {task : Task} (unbegun : task.status.isBegun = false) :
      Discharged pool first world none task
  | released {task : Task} (program : Program) (told : Except Failure Completed)
      (launched : pool.checker.checkOf pool.machine task.bucket = .ok program.launch)
      (reported : Told task.status told)
      (released : Released pool.machine first world program.number program.launch program.start
        told) :
      Discharged pool first world (some program) task

def Status.process? : Status → Option Process
  | .launched process | .running process _ _ => some process
  | _ => none

/-- The program of a task, which holds it or has released it. -/
inductive Charge (pool : Pool) (first world : World) : Option Program → Task → Prop
  | held {task : Task} (process : Process) (launch : Launch)
      (running : task.status.process? = some process)
      (launched : pool.checker.checkOf pool.machine task.bucket = .ok launch)
      (isOf : process.IsOf pool.machine process.number launch process.startedAt)
      (standing : Standing first world process.number launch false) :
      Charge pool first world (some ⟨process.number, launch, process.startedAt⟩) task
  | discharged {program : Option Program} {task : Task}
      (discharged : Discharged pool first world program task) :
      Charge pool first world program task

theorem Charge.mono {program : Option Program} (charge : Charge pool first world program task)
    (clock : world.clock ≤ after.clock)
    (stands : ∀ held ∈ program, ∀ killed, Standing first world held.number held.launch killed →
      Standing first after held.number held.launch killed) :
    Charge pool first after program task := by
  cases charge with
  | held process launch running launched isOf standing =>
    exact .held process launch running launched isOf (stands _ rfl _ standing)
  | discharged discharged =>
    cases discharged with
    | unstarted unbegun => exact .discharged (.unstarted unbegun)
    | released program told launched reported released =>
      exact .discharged (.released program told launched reported
        (released.mono clock (stands _ rfl)))

/-! ## Workers -/

/-- What somebody who looks after a process leaves of it. -/
inductive Watched (process : Process) (world : World) : Except Failure Status × World → Prop
  | stopped : Watched process world
      (.error (.stopped (.cancelledRunning process.program)),
        (world.withKilled process.number).withHalt (.cancelledRunning process.program))
  | expired (bound : Binary64) (text : String) : Watched process world
      (.ok (.ended (process.timedOut bound)),
        (world.withKilled process.number).note .warning .process text)
  | goesOn (polls : Nat) (event : Event) : Watched process world
      (.ok (.running process polls event), world)

theorem watched (pool : Pool) (process : Process) {polls : Nat} (left : polls ≠ 0) (world : World) :
    Watched process world ((pool.watch process polls).run world) := by
  obtain ⟨polls, rfl⟩ := Nat.exists_eq_succ_of_ne_zero left
  have looked := Command.looked pool.checker.token pool.checker.settings.timeout process world
  simp only [watch, run_bind]
  generalize (Command.look _ _ process).run world = seen at looked ⊢
  cases looked with
  | stopped => exact .stopped
  | expired bound text => exact .expired bound text
  | goesOn time later => exact .goesOn polls _

/-- What a step of a worker does to programs: nothing, or the one of its task is started or
killed. -/
inductive Dealt (pool : Pool) (first world : World) (task : Task) (program : Option Program)
    (after : World) : Option Program → Prop
  | kept (passes : world.Passes after) (charge : Charge pool first after program task) :
      Dealt pool first world task program after program
  | started (launch : Launch) (unstarted : program = none)
      (uncancelled : pool.checker.token.any world.tokens.isCancelled = false)
      (passes : (world.withStarted launch).Passes after)
      (charge : Charge pool first after (some ⟨world.started.length, launch, world.clock⟩) task) :
      Dealt pool first world task program after (some ⟨world.started.length, launch, world.clock⟩)
  | killed (held : Program) (holds : program = some held)
      (passes : (world.withKilled held.number).Passes after)
      (charge : Charge pool first after (some held) task) :
      Dealt pool first world task program after (some held)

section Deal

variable {program : Option Program} {process : Process}

def Task.left (task : Task) (result : Except Failure Status × World) : Task :=
  { task with status := .ofOutcome result.1 }

theorem begin_dealt (grows : first.Grows world) (unstarted : program = none) :
    let result := (pool.work task.bucket .taken).run world
    ∃ now, Dealt pool first world (task.left result) program result.2 now := by
  subst unstarted
  have begins := pool.checker.begins pool.machine task.bucket world
  simp only [work, run_bind]
  generalize (pool.checker.begin pool.machine task.bucket).run world = ran at begins ⊢
  cases begins with
  | unstarted failure after passes =>
    exact ⟨none, .kept passes (.discharged (.unstarted rfl))⟩
  | refused launch error failure command after uncancelled launched responds refusal same =>
    have passes : (world.withStarted launch).Passes after := .of_deeds same
    have standing := (Standing.of_start grows launch).later passes.grows
    have refused : failure.isRefusal = true := by rw [refusal]; rfl
    refine ⟨_, .started launch rfl uncancelled passes (.discharged (.released _ _ launched
      (.refused failure command refused) ?_))⟩
    rw [refusal]
    exact .refused error standing responds
  | started launch behaviour after uncancelled launched responds same =>
    have passes : (world.withStarted launch).Passes after := .of_deeds same
    have standing := (Standing.of_start grows launch).later passes.grows
    exact ⟨_, .started launch rfl uncancelled passes
      (.held (.begun world (launch.arguments, behaviour)) launch rfl launched
        ⟨rfl, rfl, responds, rfl⟩ standing)⟩

theorem watch_dealt {launch : Launch} {between : World} {result : Except Failure Status × World}
    (launched : pool.checker.checkOf pool.machine task.bucket = .ok launch)
    (isOf : process.IsOf pool.machine process.number launch process.startedAt)
    (standing : Standing first world process.number launch false) (passes : world.Passes between)
    (watched : Watched process between result) :
    ∃ now, Dealt pool first world (task.left result)
      (some ⟨process.number, launch, process.startedAt⟩) result.2 now := by
  have stands := standing.later passes.grows
  have killed := passes.withKilled process.number
  cases watched with
  | stopped =>
    have halted := killed.withHalt (.cancelledRunning process.program)
    exact ⟨_, .killed _ rfl halted (.discharged (.released _ _ launched (.stopped _)
      (.stopped _ (standing.kill.later halted.grows))))⟩
  | expired bound text =>
    have noted : (world.withKilled process.number).Passes
        ((between.withKilled process.number).note .warning .process text) :=
      killed.trans (.of_deeds rfl)
    exact ⟨_, .killed _ rfl noted (.discharged (.released _ _ launched (.ended _)
      (.expired process bound isOf (standing.kill.later noted.grows))))⟩
  | goesOn polls event =>
    exact ⟨_, .kept passes (.held process launch rfl launched isOf stands)⟩

theorem run_dealt {launch : Launch} {polls : Nat} {event : Event}
    (launched : pool.checker.checkOf pool.machine task.bucket = .ok launch)
    (isOf : process.IsOf pool.machine process.number launch process.startedAt)
    (standing : Standing first world process.number launch false)
    (sound : (Status.running process polls event).Sound pool task.bucket world.clock) :
    let result := (pool.work task.bucket (.running process polls event)).run world
    ∃ now, Dealt pool first world (task.left result)
      (some ⟨process.number, launch, process.startedAt⟩) result.2 now := by
  obtain ⟨-, later, number, underway⟩ := sound
  have passes : world.Passes (world.movedTo pool.machine event.time) := World.passes_movedTo later
  cases event with
  | interrupted time =>
    have halted := (passes.withKilled process.number).withHalt (.interruptedRunning process.program)
    exact ⟨_, .killed _ rfl halted (.discharged (.released _ _ launched (.stopped _)
      (.stopped _ (standing.kill.later halted.grows))))⟩
  | running time =>
    obtain ⟨-, ready, -⟩ := underway.of_running
    exact watch_dealt launched isOf standing passes (watched pool process ready.polls_ne_zero _)
  | ended time =>
    obtain ⟨rfl, -⟩ := underway.of_ended
    exact ⟨_, .kept passes (.discharged (.released _ _ launched (.ended _)
      (.collected process isOf (standing.later passes.grows) le_rfl)))⟩

theorem read_dealt {held : Program} {completed : Completed}
    (launched : pool.checker.checkOf pool.machine task.bucket = .ok held.launch)
    (released : Released pool.machine first world held.number held.launch held.start
      (.ok completed)) :
    let result := (pool.work task.bucket (.ended completed)).run world
    ∃ now, Dealt pool first world (task.left result) (some held) result.2 now := by
  have read := pool.checker.issuesOf_outcome task.bucket completed world
  have same := pool.checker.keeps_issuesOf task.bucket unnoting_deeds completed world
  simp only [work, run_bind]
  cases ran : (pool.checker.issuesOf task.bucket completed).run world with
  | mk outcome after =>
    rw [ran] at read same
    have passes : world.Passes after := .of_deeds same
    have kept := released.later passes.grows
    cases outcome with
    | ok issues =>
      exact ⟨_, .kept passes (.discharged (.released held _ launched
        (.finished completed issues read.symm) kept))⟩
    | error failure =>
      exact ⟨_, .kept passes (.discharged (.released held _ launched
        (.unread completed failure read.symm) kept))⟩

theorem work_dealt (grows : first.Grows world) (unsettled : task.status.isSettled = false)
    (sound : task.status.Sound pool task.bucket world.clock)
    (charge : Charge pool first world program task) :
    let result := (pool.work task.bucket task.status).run world
    ∃ now, Dealt pool first world (task.left result) program result.2 now := by
  obtain ⟨bucket, status⟩ := task
  cases charge with
  | held process launch running launched isOf standing =>
    cases status with
    | launched other =>
      cases running
      have left : Command.enoughPolls process ≠ 0 := by simp [Command.enoughPolls]
      exact watch_dealt launched isOf standing (.refl world) (watched pool process left world)
    | running other polls event =>
      cases running
      exact run_dealt launched isOf standing sound
    | waiting | taken | ended | finished | failed | dropped => cases running
  | discharged discharged =>
    cases discharged with
    | unstarted unbegun =>
      cases status with
      | waiting => exact ⟨none, .kept (.refl world) (.discharged (.unstarted rfl))⟩
      | taken => exact begin_dealt grows rfl
      | launched | running | ended => cases unbegun
      | finished | failed | dropped => cases unsettled
    | released held told launched reported released =>
      cases reported with
      | ended completed => exact read_dealt launched released
      | finished | unread | refused | stopped => cases unsettled

end Deal

/-! ## Turns -/

def numbers (programs : List (Option Program)) : List Nat :=
  programs.reduceOption.map Program.number

/-- The programs that were started since some time are those of the tasks, each of one task. -/
structure Accounts (pool : Pool) (first world : World) (tasks : List Task)
    (programs : List (Option Program)) : Prop where
  charged : List.Forall₂ (Charge pool first world) programs tasks
  all : (numbers programs).Perm
    (List.range' first.started.length (world.started.length - first.started.length))

theorem Accounts.split {programs : List (Option Program)} {front back : List Task}
    (accounts : Accounts pool first world (front ++ task :: back) programs) :
    ∃ before program behind, programs = before ++ program :: behind ∧
      List.Forall₂ (Charge pool first world) before front ∧
      Charge pool first world program task ∧
      List.Forall₂ (Charge pool first world) behind back := by
  have early := List.forall₂_take_append programs front (task :: back) accounts.charged
  have late := List.forall₂_drop_append programs front (task :: back) accounts.charged
  obtain ⟨program, behind, charge, others, same⟩ := List.forall₂_cons_right_iff.mp late
  exact ⟨_, program, behind, by rw [← same, List.take_append_drop], early, charge, others⟩

theorem numbers_split (before : List (Option Program)) (program : Option Program)
    (behind : List (Option Program)) :
    (numbers (before ++ program :: behind)).Perm
      (program.toList.map Program.number ++ numbers (before ++ behind)) := by
  cases program with
  | none => simp [numbers, List.reduceOption_append]
  | some program =>
    simp only [numbers, List.reduceOption_append, List.reduceOption_cons_of_some, List.map_append,
      List.map_cons, Option.toList_some, List.map_nil, List.singleton_append]
    exact List.perm_middle

theorem mem_numbers {programs : List (Option Program)} {program : Program}
    (member : some program ∈ programs) : program.number ∈ numbers programs :=
  List.mem_map_of_mem (List.reduceOption_mem_iff.mpr member)

theorem charges_mono {programs : List (Option Program)} {tasks : List Task}
    (charged : List.Forall₂ (Charge pool first world) programs tasks)
    (clock : world.clock ≤ after.clock)
    (stands : ∀ held, some held ∈ programs → ∀ killed,
      Standing first world held.number held.launch killed →
        Standing first after held.number held.launch killed) :
    List.Forall₂ (Charge pool first after) programs tasks := by
  induction charged with
  | nil => exact .nil
  | cons charge _ ih =>
    refine .cons (charge.mono clock fun held same => ?_) (ih fun held member => ?_)
    · exact stands held (by rw [Option.mem_def.mp same]; exact List.mem_cons_self)
    · exact stands held (List.mem_cons_of_mem _ member)

/-- What a turn adds to the programs that were started. -/
def Adds (pool : Pool) (world after : World) (program : Program) : Prop :=
  world.started.length = program.number ∧ after.started.length = program.number + 1 ∧
    world.clock = program.start ∧ pool.checker.token.any world.tokens.isCancelled = false

theorem Accounts.replace {programs : List (Option Program)} {front back : List Task} {left : Task}
    (grows : first.Grows world)
    (accounts : Accounts pool first world (front ++ task :: back) programs)
    (deals : ∀ program, Charge pool first world program task →
      ∃ now, Dealt pool first world left program after now) :
    first.Grows after ∧ ∃ others, Accounts pool first after (front ++ left :: back) others ∧
      ∀ program, some program ∈ others →
        some program ∈ programs ∨ Adds pool world after program := by
  obtain ⟨before, program, behind, rfl, early, holding, late⟩ := accounts.split
  obtain ⟨now, dealt⟩ := deals program holding
  have joined (clock : world.clock ≤ after.clock) (charge : Charge pool first after now left)
      (stands : ∀ held, some held ∈ before ++ behind → ∀ killed,
        Standing first world held.number held.launch killed →
          Standing first after held.number held.launch killed) :
      List.Forall₂ (Charge pool first after) (before ++ now :: behind) (front ++ left :: back) := by
    have one := charges_mono early clock fun held member =>
      stands held (List.mem_append_left _ member)
    have other := charges_mono late clock fun held member =>
      stands held (List.mem_append_right _ member)
    exact List.rel_append one (.cons charge other)
  cases dealt with
  | kept passes charge =>
    have later := passes.grows
    refine ⟨grows.trans later, _, ⟨joined later.clock charge fun held _ killed standing =>
      standing.later later, ?_⟩, fun program member => .inl member⟩
    rw [passes.started]
    exact accounts.all
  | started launch unstarted uncancelled passes charge =>
    have later := (world.grows_withStarted launch).trans passes.grows
    have one : after.started.length = world.started.length + 1 := by
      rw [passes.started]
      exact List.length_append
    refine ⟨grows.trans later, _, ⟨joined later.clock charge fun held _ killed standing =>
      standing.later later, ?_⟩, fun program member => ?_⟩
    · have total : after.started.length - first.started.length =
          world.started.length - first.started.length + 1 := by
        have := grows.started.length_le
        omega
      have last : first.started.length + (world.started.length - first.started.length) =
          world.started.length := by
        have := grows.started.length_le
        omega
      have before := accounts.all
      rw [unstarted] at before
      rw [total, List.range'_1_concat, last]
      refine (numbers_split _ _ _).trans ?_
      refine List.Perm.trans ?_ (List.perm_append_singleton _ _).symm
      exact ((numbers_split _ _ _).symm.trans before).cons _
    · rw [List.mem_append, List.mem_cons] at member ⊢
      rcases member with there | same | there
      · exact .inl (.inl there)
      · cases same
        exact .inr ⟨rfl, one, rfl, uncancelled⟩
      · exact .inl (.inr (.inr there))
  | killed held holds passes charge =>
    subst holds
    have distinct : held.number ∉ numbers (before ++ behind) := by
      have once := (numbers_split before (some held) behind).nodup_iff.mp
        (accounts.all.nodup_iff.mpr List.nodup_range')
      exact (List.nodup_cons.mp once).1
    have number : held.number ∈ List.range' first.started.length
        (world.started.length - first.started.length) :=
      accounts.all.mem_iff.mp (mem_numbers (by simp))
    have bounds := List.mem_range'_1.mp number
    have started : after.started.length = world.started.length := by
      rw [passes.started]
      exact List.length_modify ..
    refine ⟨(grows.withKilled bounds.1 (by omega)).trans passes.grows, _,
      ⟨joined passes.clock charge fun other member killed standing => ?_, ?_⟩,
      fun program member => .inl member⟩
    · have apart : held.number ≠ other.number := by
        intro same
        exact distinct (same ▸ mem_numbers member)
      exact (standing.withKilled apart).later passes.grows
    · rw [started]
      exact accounts.all

theorem Accounts.passes {tasks : List Task} {programs : List (Option Program)}
    (accounts : Accounts pool first world tasks programs) (passes : world.Passes after) :
    Accounts pool first after tasks programs := by
  refine ⟨charges_mono accounts.charged passes.clock fun held _ killed standing =>
    standing.later passes.grows, ?_⟩
  rw [passes.started]
  exact accounts.all

theorem charge_drop {program : Option Program} (charge : Charge pool first world program task) :
    Charge pool first world program { task with status := task.status.drop } := by
  obtain ⟨bucket, status⟩ := task
  cases status with
  | waiting =>
    cases charge with
    | held process launch running => cases running
    | discharged discharged =>
      cases discharged with
      | unstarted => exact .discharged (.unstarted rfl)
      | released held told launched reported => cases reported
  | taken | launched | running | ended | finished | failed | dropped => exact charge

theorem accounts_transition {programs : List (Option Program)} (sound : state.Sound pool)
    (grows : first.Grows state.world)
    (accounts : Accounts pool first state.world state.tasks programs)
    (moved : Transition pool state turn next) :
    first.Grows next.world ∧ ∃ others, Accounts pool first next.world next.tasks others ∧
      ∀ program, some program ∈ others →
        some program ∈ programs ∨ Adds pool state.world next.world program := by
  have passed (passes : state.world.Passes next.world) (same : next.tasks = state.tasks) :
      first.Grows next.world ∧ ∃ others, Accounts pool first next.world next.tasks others ∧
        ∀ program, some program ∈ others →
          some program ∈ programs ∨ Adds pool state.world next.world program :=
    ⟨grows.trans passes.grows, programs, same ▸ accounts.passes passes, fun _ => .inl⟩
  cases moved with
  | worked number task found ready =>
    obtain ⟨below, there⟩ := List.getElem?_eq_some_iff.mp found
    let result := (pool.work task.bucket task.status).run state.world
    obtain ⟨front, back, tasks, -, after⟩ :=
      @List.exists_of_set Task number (task.left result) state.tasks below
    rw [there] at tasks
    rw [tasks] at accounts
    have left : (pool.workOn state number task).tasks = front ++ task.left result :: back := after
    rw [left]
    exact accounts.replace grows fun program charge =>
      work_dealt grows (isSettled_eq_false_of_mayGoOn ready)
        (sound task (List.mem_of_getElem? found)) charge
  | dropped number rest phase =>
    by_cases below : number < state.tasks.length
    · obtain ⟨front, task, back, tasks, -, after⟩ := List.exists_of_modify
        (fun task : Task => { task with status := task.status.drop }) below
      rw [tasks] at accounts
      dsimp only
      rw [after]
      exact accounts.replace grows fun program charge =>
        ⟨program, .kept (.refl _) (charge_drop charge)⟩
    · exact passed (.refl _) (List.modify_eq_self (Nat.le_of_not_lt below))
  | sawFailure | sawEnd | stopped | waits | concluded | left | cancelled | interrupted =>
    exact passed ⟨le_rfl, rfl, rfl⟩ rfl

theorem busy_transition (goesOn : isOver state = false) (moved : Transition pool state turn next)
    (ended : isOver next = true) : next.busy = 0 := by
  cases moved with
  | worked | cancelled => exact absurd (goesOn.symm.trans ended) (by simp)
  | sawEnd phase unfailed settled => exact busy_of_isSettled settled
  | concluded phase settled => exact busy_of_isSettled settled
  | left phase gone => exact busy_of_isLeft gone
  | sawFailure | stopped | dropped | waits | interrupted => cases ended

/-! ## Courses -/

/-- A program that was started by a turn of a course. -/
def StartedIn (pool : Pool) (begun : State) (done : List Turn) (program : Program) : Prop :=
  ∃ front turn state next, front ++ [turn] <+: done ∧ pool.course begun front = some state ∧
    pool.step state turn = some next ∧ Adds pool state.world next.world program

/-- What every turn keeps: the programs that were started are those of the tasks. -/
structure Custody (pool : Pool) (begun : State) (done : List Turn) (state : State) : Prop where
  reached : pool.course begun done = some state
  sound : state.Sound pool
  grows : begun.world.Grows state.world
  accounted : ∃ programs, Accounts pool begun.world state.world state.tasks programs ∧
    ∀ program, some program ∈ programs → StartedIn pool begun done program
  idle : isOver state = true → state.busy = 0

theorem Custody.step (custody : Custody pool begun done state)
    (moved : pool.step state turn = some next) : Custody pool begun (done ++ [turn]) next := by
  have transition := transition_of_step moved
  obtain ⟨programs, accounts, started⟩ := custody.accounted
  obtain ⟨grows, others, accounts, added⟩ :=
    accounts_transition custody.sound custody.grows accounts transition
  refine ⟨?_, sound_transition custody.sound transition, grows, ⟨others, accounts, ?_⟩,
    busy_transition (isOver_of_step moved) transition⟩
  · rw [course_append, custody.reached, Option.bind_some]
    show (pool.step state turn).bind _ = _
    rw [moved]
    rfl
  · intro program member
    rcases added program member with there | adds
    · obtain ⟨front, turn, before, after, early, others⟩ := started program there
      exact ⟨front, turn, before, after, early.trans (List.prefix_append _ _), others⟩
    · exact ⟨done, turn, state, next, List.prefix_refl _, custody.reached, moved, adds⟩

theorem custody_start (pool : Pool) (buckets : List Bucket) (world : World) :
    Custody pool (start buckets world) [] (start buckets world) := by
  let programs : List (Option Program) := buckets.map fun _ => none
  have unstarted (program : Program) : some program ∉ programs := by simp [programs]
  have none_started : numbers programs = [] := by
    refine List.map_eq_nil_iff.mpr (List.eq_nil_iff_forall_not_mem.mpr fun program member => ?_)
    exact unstarted program (List.reduceOption_mem_iff.mp member)
  have charged : List.Forall₂ (Charge pool (start buckets world).world (start buckets world).world)
      programs (start buckets world).tasks := by
    apply List.forall₂_map_left_iff.mpr
    apply List.forall₂_map_right_iff.mpr
    exact List.forall₂_same.mpr fun bucket _ => .discharged (.unstarted rfl)
  refine ⟨rfl, (running_start pool buckets world).sound, .refl _, ⟨programs, ⟨charged, ?_⟩, ?_⟩, ?_⟩
  · rw [none_started, Nat.sub_self]
    exact .refl _
  · intro program member
    exact absurd member (unstarted program)
  · intro ended
    cases ended

variable {machine : Machine} {checker : Checker} {token : Token} {buckets : List Bucket}
  {turns : List Turn} {last : State} {outcome : Except Failure (List Issue)}

theorem Complete.custody
    (complete : Complete machine checker token buckets world turns last outcome) :
    Custody (withSiblings machine checker token (world.tokens.child token).1)
      (opened token buckets world) turns last :=
  course_induction complete.reached (custody_start _ _ _) fun _ _ _ _ custody moved =>
    custody.step moved

theorem discharged_of_charge {program : Option Program} {earlier : World}
    (grows : earlier.Grows first) (idle : task.status.isBusy = false)
    (charge : Charge pool first world program task) :
    Discharged pool earlier world program task := by
  cases charge with
  | held process launch running =>
    cases status : task.status <;> simp_all [Status.process?, Status.isBusy]
  | discharged discharged =>
    cases discharged with
    | unstarted unbegun => exact .unstarted unbegun
    | released program told launched reported released =>
      exact .released program told launched reported (released.earlier grows)

theorem discharged_of_charged {programs : List (Option Program)} {tasks : List Task}
    {earlier : World} (grows : earlier.Grows first)
    (idle : ∀ task ∈ tasks, task.status.isBusy = false)
    (charged : List.Forall₂ (Charge pool first world) programs tasks) :
    List.Forall₂ (Discharged pool earlier world) programs tasks := by
  induction charged with
  | nil => exact .nil
  | cons charge _ ih =>
    have first := discharged_of_charge grows (idle _ List.mem_cons_self) charge
    exact .cons first (ih fun task member => idle task (List.mem_cons_of_mem _ member))

/-- When a pool has come to its end, every program that it started is that of one of its tasks, was
started when the tasks had not been stopped, and has been released. -/
structure Relieved (pool : Pool) (begun : State) (turns : List Turn) (first : World) (last : State)
    (programs : List (Option Program)) : Prop where
  grows : first.Grows last.world
  idle : last.busy = 0
  discharged : List.Forall₂ (Discharged pool first last.world) programs last.tasks
  all : (numbers programs).Perm
    (List.range' first.started.length (last.world.started.length - first.started.length))
  started : ∀ program, some program ∈ programs → StartedIn pool begun turns program

theorem Complete.relieved
    (complete : Complete machine checker token buckets world turns last outcome) :
    ∃ programs, Relieved (withSiblings machine checker token (world.tokens.child token).1)
      (opened token buckets world) turns world last programs := by
  have custody := complete.custody
  obtain ⟨programs, accounts, started⟩ := custody.accounted
  have ended : isOver last = true := by simp [isOver, complete.ended]
  have idle := custody.idle ended
  have before : world.Grows (opened token buckets world).world :=
    World.Passes.grows ⟨le_rfl, rfl, rfl⟩
  refine ⟨programs, before.trans custody.grows, idle, ?_, accounts.all, started⟩
  refine discharged_of_charged before (fun task member => ?_) accounts.charged
  simpa using List.countP_eq_zero.mp idle task member

theorem exists_of_forall₂ {α β : Type} {relation : α → β → Prop} {entries : List α}
    {others : List β} (each : List.Forall₂ relation entries others) {entry : α}
    (member : entry ∈ entries) : ∃ other ∈ others, relation entry other := by
  induction each with
  | nil => cases member
  | cons one _ ih =>
    rcases List.mem_cons.mp member with rfl | member
    · exact ⟨_, List.mem_cons_self, one⟩
    · obtain ⟨other, there, related⟩ := ih member
      exact ⟨other, List.mem_cons_of_mem _ there, related⟩

theorem Relieved.released {programs : List (Option Program)}
    (relieved : Relieved pool begun turns first last programs) {number : Nat}
    (new : first.started.length ≤ number) (there : number < last.world.started.length) :
    ∃ launch start told,
      Released pool.machine first last.world number launch start told := by
  have counted : number ∈ numbers programs := by
    refine relieved.all.mem_iff.mpr (List.mem_range'_1.mpr ⟨new, ?_⟩)
    omega
  obtain ⟨program, member, rfl⟩ := List.mem_map.mp counted
  obtain ⟨task, -, discharged⟩ :=
    exists_of_forall₂ relieved.discharged (List.reduceOption_mem_iff.mp member)
  cases discharged with
  | released _ told _ _ released => exact ⟨_, _, told, released⟩

end Pool

end CheckRouter
