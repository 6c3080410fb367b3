import CheckRouter.Proofs.Pool.Verdict
import CheckRouter.Proofs.Starts

/-!
# Programs that a pool starts

A pool that finds no issues has started one program for each of its buckets, in whatever order, and
has killed none. Until a task is spoiled, the programs started are those of the tasks begun; and a
pool with a spoiled task cannot come to no issues.
-/

namespace CheckRouter

open CheckRouter.Action

namespace Checker

open Command (Process)

variable {checker : Checker} {machine : Machine} {bucket : Bucket}

theorem fate_of_ne_timedOut {process : Process} {limit : Option Binary64}
    (normal : (process.fate limit).status ≠ 124) : process.fate limit = process.completed := by
  cases limit with
  | none => rfl
  | some bound =>
    unfold Process.fate at normal ⊢
    simp only at normal ⊢
    split
    · next late => exact absurd rfl (by rwa [if_pos late] at normal)
    · rfl

theorem foundNothing_of_alone (alone : checker.alone machine bucket = .ok []) :
    ∃ launch, checker.FoundNothing machine bucket launch := by
  unfold Checker.alone at alone
  cases opened : checker.opening machine bucket with
  | error failure =>
    rw [opened] at alone
    cases alone
  | ok started =>
    rw [opened, ok_bind] at alone
    obtain ⟨command, options, prepared, opened⟩ := opening_eq_ok.mp opened
    obtain ⟨found, -, responds⟩ := Command.opening_eq_ok.mp opened
    obtain ⟨normal, lines⟩ := reading_nil alone
    have inTime : ((Process.begun (.initial false) started).fate
        checker.settings.timeout).status ≠ 124 := by omega
    rw [fate_of_ne_timedOut inTime] at normal lines
    exact ⟨_, checkOf_eq_ok.mpr ⟨command, options, started.1, prepared, found, rfl⟩, started.2,
      responds, normal, lines⟩

end Checker

namespace Pool

open Command (Process Event)

/-- Whether the checker of a task has been started, and nothing has failed since. -/
def Status.isBegun : Status → Bool
  | .launched _ | .running .. | .ended _ | .finished _ => true
  | .waiting | .taken | .failed _ | .dropped => false

/-- Whether a task has failed, has run out of time, or has found issues. -/
def Status.isSpoiled : Status → Bool
  | .failed _ => true
  | .ended completed => completed.status = 124
  | .finished issues => !issues.isEmpty
  | _ => false

/-- The program that was started for a task. -/
def Task.launch? (pool : Pool) (task : Task) : Option Launch :=
  if task.status.isBegun then (pool.checker.checkOf pool.machine task.bucket).toOption else none

variable {pool : Pool} {bucket : Bucket} {status : Status} {state next first : State} {turn : Turn}
  {world after : World}

/-! ## Workers -/

/-- A step that leaves a task as begun as it was and starts nothing, or one that begins it. -/
inductive Starts (pool : Pool) (bucket : Bucket) (status : Status) (world : World) :
    Status → World → Prop
  | spoiled {next : Status} {after : World} (spoiled : next.isSpoiled = true) :
      Starts pool bucket status world next after
  | same {next : Status} {after : World} (unspoiled : status.isSpoiled = false)
      (begun : next.isBegun = status.isBegun) (started : after.started = world.started) :
      Starts pool bucket status world next after
  | one {next : Status} {after : World} {launch : Launch} (unspoiled : status.isSpoiled = false)
      (unbegun : status.isBegun = false) (begun : next.isBegun = true)
      (launched : pool.checker.checkOf pool.machine bucket = .ok launch)
      (started : after.started = world.started ++ [⟨launch, false⟩]) :
      Starts pool bucket status world next after

theorem watch_of_ok {process : Process} {polls : Nat} {left : Status}
    (watched : (pool.watch process polls).run world = (.ok left, after)) :
    left.isSpoiled = true ∨ left.isBegun = true ∧ after.started = world.started := by
  cases polls with
  | zero =>
    cases watched
    exact .inr ⟨rfl, rfl⟩
  | succ polls =>
    obtain ⟨seen, between, looked, watched⟩ := (run_bind_eq_ok _).mp watched
    rcases Command.look_of_ok looked with ⟨bound, rfl⟩ | ⟨rfl, event, rfl⟩
    · cases watched
      exact .inl rfl
    · cases watched
      exact .inr ⟨rfl, rfl⟩

theorem work_starts (unsettled : status.isSettled = false) :
    let result := (pool.work bucket status).run world
    Starts pool bucket status world (.ofOutcome result.1) result.2 := by
  dsimp only
  cases ran : (pool.work bucket status).run world with
  | mk outcome after =>
    cases outcome with
    | error failure => exact .spoiled rfl
    | ok left =>
      cases status with
      | waiting =>
        cases ran
        exact .same rfl rfl rfl
      | taken =>
        obtain ⟨process, between, begun, made⟩ := (run_bind_eq_ok _).mp ran
        cases made
        obtain ⟨launch, launched, -, started⟩ := Checker.begin_of_ok begun
        exact .one rfl rfl rfl launched started
      | launched process =>
        have watched : (pool.watch process (Command.enoughPolls process)).run world =
          (.ok left, after) := ran
        rcases watch_of_ok watched with spoiled | ⟨begun, started⟩
        · exact .spoiled spoiled
        · exact .same rfl begun started
      | running process polls event =>
        obtain ⟨result, between, met, goesOn⟩ := (run_bind_eq_ok _).mp ran
        obtain ⟨same, -⟩ := Command.meet_of_ok met
        cases result with
        | none =>
          rcases watch_of_ok goesOn with spoiled | ⟨begun, started⟩
          · exact .spoiled spoiled
          · exact .same rfl begun (started.trans same)
        | some completed =>
          cases goesOn
          exact .same rfl rfl same
      | ended completed =>
        obtain ⟨issues, between, read, made⟩ := (run_bind_eq_ok _).mp ran
        cases made
        have reading := pool.checker.issuesOf_outcome bucket completed world
        have started := pool.checker.started_issuesOf bucket completed world
        rw [read] at reading started
        -- a program that ran out of time has found issues, or its bucket has failed
        by_cases late : completed.status = 124
        · cases issues with
          | cons issue rest => exact .spoiled rfl
          | nil =>
            obtain ⟨normal, -⟩ := Checker.reading_nil reading.symm
            omega
        · exact .same (decide_eq_false late) rfl started
      | finished | failed | dropped => cases unsettled

/-! ## Tallies -/

/-- The programs that were started for the tasks, in the order of the tasks. -/
def State.begun (pool : Pool) (state : State) : List Launch :=
  state.tasks.filterMap (Task.launch? pool)

/-- Either a task is spoiled, or the programs started are those of the tasks begun, and all of them
were left alone. -/
def Tally (pool : Pool) (first state : State) : Prop :=
  (∃ task ∈ state.tasks, task.status.isSpoiled = true) ∨
    ∃ launches : List Launch,
      state.world.started = first.world.started ++ launches.map (⟨·, false⟩) ∧
        launches.Perm (state.begun pool)

theorem Tally.replace (tally : Tally pool first state) {front back : List Task} {task : Task}
    {left : Status} (tasks : state.tasks = front ++ task :: back)
    (after : next.tasks = front ++ { task with status := left } :: back)
    (starts : Starts pool task.bucket task.status state.world left next.world) :
    Tally pool first next := by
  unfold Tally State.begun at tally ⊢
  rw [after]
  rw [tasks] at tally
  -- only another task can have been spoiled before, and that one still is
  have spoils (unspoiled : task.status.isSpoiled = false)
      (spoiled : ∃ other ∈ front ++ task :: back, other.status.isSpoiled = true) :
      ∃ other ∈ front ++ { task with status := left } :: back, other.status.isSpoiled = true := by
    obtain ⟨other, member, spoiled⟩ := spoiled
    have apart : other ≠ task := by
      rintro rfl
      rw [unspoiled] at spoiled
      cases spoiled
    refine ⟨other, ?_, spoiled⟩
    rw [List.mem_append, List.mem_cons] at member ⊢
    exact member.imp_right fun there => .inr (there.resolve_left apart)
  cases starts with
  | spoiled spoiled => exact .inl ⟨{ task with status := left }, by simp, spoiled⟩
  | same unspoiled begun started =>
    have same : Task.launch? pool { task with status := left } = task.launch? pool := by
      simp only [Task.launch?, begun]
    rw [started]
    refine tally.imp (spoils unspoiled) ?_
    rintro ⟨launches, world, each⟩
    refine ⟨launches, world, ?_⟩
    rwa [List.filterMap_append, List.filterMap_cons, same, ← List.filterMap_cons,
      ← List.filterMap_append]
  | @one launch unspoiled unbegun begun launched started =>
    have before : task.launch? pool = none := by
      simp only [Task.launch?, unbegun, Bool.false_eq_true, if_false]
    have now : Task.launch? pool { task with status := left } = some launch := by
      simp only [Task.launch?, begun, if_true, launched]
      rfl
    refine tally.imp (spoils unspoiled) ?_
    rintro ⟨launches, world, each⟩
    refine ⟨launches ++ [launch], by rw [started, world]; simp, ?_⟩
    rw [List.filterMap_append, List.filterMap_cons_none before] at each
    rw [List.filterMap_append, List.filterMap_cons_some now]
    exact (List.perm_append_singleton _ _).trans ((each.cons launch).trans List.perm_middle.symm)

theorem drop_starts (pool : Pool) (bucket : Bucket) (status : Status) (world : World) :
    Starts pool bucket status world status.drop world := by
  have begun : status.drop.isBegun = status.isBegun := by cases status <;> rfl
  have same : status.drop.isSpoiled = status.isSpoiled := by cases status <;> rfl
  cases spoiled : status.isSpoiled with
  | true => exact .spoiled (same.trans spoiled)
  | false => exact .same spoiled begun rfl

theorem tally_transition (tally : Tally pool first state)
    (moved : Transition pool state turn next) : Tally pool first next := by
  cases moved with
  | worked number task found ready =>
    obtain ⟨below, there⟩ := List.getElem?_eq_some_iff.mp found
    let left := Status.ofOutcome ((pool.work task.bucket task.status).run state.world).1
    obtain ⟨front, back, tasks, -, after⟩ :=
      @List.exists_of_set Task number { task with status := left } state.tasks below
    rw [there] at tasks
    exact tally.replace tasks after (work_starts (isSettled_eq_false_of_mayGoOn ready))
  | dropped number rest phase =>
    by_cases below : number < state.tasks.length
    · obtain ⟨front, task, back, tasks, -, after⟩ := List.exists_of_modify
        (fun task : Task => { task with status := task.status.drop }) below
      exact tally.replace tasks after (drop_starts pool task.bucket task.status state.world)
    · unfold Tally State.begun at tally ⊢
      dsimp only
      rwa [List.modify_eq_self (Nat.le_of_not_lt below)]
  | sawFailure | sawEnd | stopped | waits | concluded | left | cancelled | interrupted =>
    exact tally

/-! ## Courses -/

/-- What every course keeps when nobody asks who has cancelled. -/
structure Running (pool : Pool) (first state : State) : Prop where
  sound : state.Sound pool
  tally : Tally pool first state
  buckets : state.tasks.map (·.bucket) = first.tasks.map (·.bucket)
  undropped : state.phase = .watching → ∀ task ∈ state.tasks, task.status ≠ .dropped
  concluded : ∀ issues, state.phase = .ended (.ok issues) →
    issues = state.issues ∧ ∀ task ∈ state.tasks, ∃ found, task.status = .finished found
  recorded : ∀ task ∈ state.tasks, ∀ failure, task.status = .failed failure →
    failure.isStop = true ∨ pool.checker.alone pool.machine task.bucket = .error failure
  blamed : ∀ failure, state.phase = .ended (.error failure) →
    failure.isStop = true ∨ ∃ task ∈ state.tasks, task.status = .failed failure

theorem finished_of_settled {task : Task} (settled : task.status.isSettled = true)
    (unfailed : task.status.isFailed = false) (undropped : task.status ≠ .dropped) :
    ∃ found, task.status = .finished found := by
  cases status : task.status <;> simp_all [Status.isSettled, Status.isFailed]

theorem Running.undropped_step (running : Running pool first state)
    (moved : Transition pool state turn next) (phase : next.phase = .watching) :
    ∀ task ∈ next.tasks, task.status ≠ .dropped := by
  cases moved with
  | worked number task found ready =>
    have faithful := work_faithful (isSettled_eq_false_of_mayGoOn ready)
      (running.sound task (List.mem_of_getElem? found))
    intro other among
    rcases List.mem_or_eq_of_mem_set among with same | rfl
    · exact running.undropped phase other same
    · exact faithful.ofOutcome_ne_dropped
  | cancelled => exact running.undropped phase
  | sawFailure | sawEnd | stopped | dropped | waits | concluded | left | interrupted => cases phase

theorem Running.concluded_step (running : Running pool first state)
    (goesOn : isOver state = false) (moved : Transition pool state turn next)
    {issues : List Issue} (phase : next.phase = .ended (.ok issues)) :
    issues = next.issues ∧ ∀ task ∈ next.tasks, ∃ found, task.status = .finished found := by
  have running_on (same : next.phase = state.phase) : False := by
    rw [isOver, ← same, phase] at goesOn
    cases goesOn
  cases moved with
  | worked => exact (running_on rfl).elim
  | sawEnd watching unfailed settled =>
    cases phase
    refine ⟨rfl, fun task member => ?_⟩
    exact finished_of_settled (List.all_eq_true.mp settled task member) (unfailed task member)
      (running.undropped watching task member)
  | cancelled => exact (running_on rfl).elim
  | sawFailure | stopped | dropped | waits | concluded | left | interrupted => cases phase

theorem Running.recorded_step (running : Running pool first state)
    (moved : Transition pool state turn next) :
    ∀ task ∈ next.tasks, ∀ failure, task.status = .failed failure →
      failure.isStop = true ∨ pool.checker.alone pool.machine task.bucket = .error failure := by
  cases moved with
  | worked number task found ready =>
    have faithful := work_faithful (isSettled_eq_false_of_mayGoOn ready)
      (running.sound task (List.mem_of_getElem? found))
    intro other among failure failed
    rcases List.mem_or_eq_of_mem_set among with same | rfl
    · exact running.recorded other same failure failed
    · exact (faithful.accounted failure (faithful.eq_error failed)).symm.imp_left And.left
  | dropped number rest phase =>
    intro task among failure failed
    rcases mem_of_mem_modify among with same | ⟨old, member, rfl⟩
    · exact running.recorded task same failure failed
    · refine running.recorded old member failure ?_
      cases status : old.status <;> simp_all [Status.drop]
  | sawFailure | sawEnd | stopped | waits | concluded | left | cancelled | interrupted =>
    exact running.recorded

theorem mem_failures {failure : Failure} :
    failure ∈ state.failures ↔ ∃ task ∈ state.tasks, task.status = .failed failure := by
  simp only [State.failures, List.mem_filterMap]
  refine exists_congr fun task => and_congr_right fun _ => ?_
  cases task.status <;> simp [Status.failure?]

/-- The verdict of a pool is a stop or the failure of one of its tasks. -/
theorem verdict_cases (pool : Pool) (state : State) :
    (pool.verdict state).isStop = true ∨ pool.verdict state ∈ state.failures := by
  unfold verdict State.firstFailure?
  split
  · exact .inl rfl
  · cases found : state.failures.find? (!·.isStop) with
    | some failure => exact .inr (List.mem_of_find?_eq_some found)
    | none =>
      cases first : state.failures.head? with
      | some failure => exact .inr (List.mem_of_head? first)
      | none => exact .inl rfl

theorem blamed_step (goesOn : isOver state = false) (moved : Transition pool state turn next)
    {failure : Failure} (phase : next.phase = .ended (.error failure)) :
    failure.isStop = true ∨ ∃ task ∈ next.tasks, task.status = .failed failure := by
  have running_on (same : next.phase = state.phase) : False := by
    rw [isOver, ← same, phase] at goesOn
    cases goesOn
  cases moved with
  | worked => exact (running_on rfl).elim
  | cancelled => exact (running_on rfl).elim
  | concluded =>
    cases phase
    exact (verdict_cases pool state).imp_right mem_failures.mp
  | left =>
    cases phase
    exact .inl rfl
  | sawFailure | sawEnd | stopped | dropped | waits | interrupted => cases phase

theorem Running.step (running : Running pool first state)
    (moved : pool.step state turn = some next) : Running pool first next where
  sound := sound_transition running.sound (transition_of_step moved)
  tally := tally_transition running.tally (transition_of_step moved)
  buckets := (buckets_transition (transition_of_step moved)).trans running.buckets
  undropped := running.undropped_step (transition_of_step moved)
  concluded := fun _ => running.concluded_step (isOver_of_step moved) (transition_of_step moved)
  recorded := running.recorded_step (transition_of_step moved)
  blamed := fun _ => blamed_step (isOver_of_step moved) (transition_of_step moved)

theorem running_start (pool : Pool) (buckets : List Bucket) (world : World) :
    Running pool (start buckets world) (start buckets world) := by
  have waiting : ∀ task ∈ (start buckets world).tasks, task.status = .waiting := by
    simp [start]
  have none_begun : (start buckets world).begun pool = [] := by
    refine List.filterMap_eq_nil_iff.mpr fun task member => ?_
    rw [Task.launch?, waiting task member]
    rfl
  refine ⟨fun task member => ?_, .inr ⟨[], by simp, by rw [none_begun]⟩, rfl,
    fun _ task member => ?_, ?_, fun task member => ?_, ?_⟩
  · rw [waiting task member]
    trivial
  · rw [waiting task member]
    simp
  · rintro issues ⟨⟩
  · rw [waiting task member]
    rintro failure ⟨⟩
  · rintro failure ⟨⟩

variable {machine : Machine} {checker : Checker} {token : Token} {buckets : List Bucket}
  {turns : List Turn} {last : State}

theorem Complete.running {outcome : Except Failure (List Issue)}
    (complete : Complete machine checker token buckets world turns last outcome) :
    Running (withSiblings machine checker token (world.tokens.child token).1)
      (opened token buckets world) last :=
  course_induction (motive := fun _ state => Running _ _ state) complete.reached
    (running_start _ _ _) fun _ _ _ _ running moved => running.step moved

theorem Running.buckets_eq (running : Running pool (opened token buckets world) state) :
    state.tasks.map (·.bucket) = buckets := by
  rw [running.buckets]
  simp [opened, start, Function.comp_def]

/-- A pool fails with a stop, or as the check of one of its buckets does alone. -/
theorem Complete.blamed {failure : Failure}
    (complete : Complete machine checker token buckets world turns last (.error failure)) :
    failure.isStop = true ∨ ∃ bucket ∈ buckets, checker.alone machine bucket = .error failure := by
  have running := complete.running
  rcases running.blamed failure complete.ended with stop | ⟨task, member, failed⟩
  · exact .inl stop
  · refine (running.recorded task member failure failed).imp_right fun alone => ?_
    refine ⟨task.bucket, ?_, alone⟩
    rw [← running.buckets_eq]
    exact List.mem_map_of_mem member

theorem forall₂_launches {tasks : List Task}
    (each : ∀ task ∈ tasks, ∃ launch, checker.FoundNothing machine task.bucket launch ∧
      task.launch? pool = some launch) :
    List.Forall₂ (checker.FoundNothing machine) (tasks.map (·.bucket))
      (tasks.filterMap (Task.launch? pool)) := by
  induction tasks with
  | nil => exact .nil
  | cons task rest ih =>
    obtain ⟨launch, found, launched⟩ := each task List.mem_cons_self
    rw [List.map_cons, List.filterMap_cons_some launched]
    exact .cons found (ih fun other member => each other (List.mem_cons_of_mem _ member))

/-- A pool that finds nothing has started one program for each bucket and left them all alone. -/
theorem Complete.foundNothingIn
    (complete : Complete machine checker token buckets world turns last (.ok [])) :
    checker.FoundNothingIn machine buckets world last.world := by
  have running := complete.running
  obtain ⟨unfound, finished⟩ := running.concluded _ complete.ended
  have empty : ∀ task ∈ last.tasks, task.status = .finished [] := by
    intro task member
    obtain ⟨found, status⟩ := finished task member
    have recorded : found ∈ last.tasks.filterMap (·.status.issues?) :=
      List.mem_filterMap.mpr ⟨task, member, by rw [status]; rfl⟩
    rw [status, List.flatten_eq_nil_iff.mp unfound.symm found recorded]
  have each : ∀ task ∈ last.tasks, ∃ launch, checker.FoundNothing machine task.bucket launch ∧
      task.launch? (withSiblings machine checker token (world.tokens.child token).1) =
        some launch := by
    intro task member
    have sound := running.sound task member
    rw [empty task member] at sound
    have alone : checker.alone machine task.bucket = .ok [] := sound
    obtain ⟨launch, found⟩ := Checker.foundNothing_of_alone alone
    refine ⟨launch, found, ?_⟩
    simp only [Task.launch?, empty task member, Status.isBegun, if_true]
    exact congrArg Except.toOption found.launched
  have sameBuckets := running.buckets_eq
  rcases running.tally with ⟨task, member, spoiled⟩ | ⟨starts, started, perm⟩
  · rw [empty task member] at spoiled
    cases spoiled
  · exact ⟨_, starts, sameBuckets ▸ forall₂_launches each, perm, started⟩

end Pool

end CheckRouter
