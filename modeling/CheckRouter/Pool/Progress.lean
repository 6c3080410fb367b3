import CheckRouter.Pool

/-!
# Progress of pools

Every turn but a cancellation brings a pool nearer to its end: tasks are begun, slices are used up,
the owner goes on. A pool that is not over has a turn to take.
-/

namespace CheckRouter.Pool

namespace Status

/-- How far a task is from being begun. -/
def unbegun : Status → Nat
  | .waiting => 3
  | .taken => 2
  | .launched _ => 1
  | _ => 0

/-- How far a task that has been begun may be from being settled. -/
def unsettled : Status → Nat
  | .running _ polls _ => polls + 2
  | .ended _ => 1
  | _ => 0

end Status

def Phase.rank : Phase → Nat
  | .watching => 5
  | .stopping => 4
  | .dropping _ => 3
  | .draining => 2
  | .leaving => 1
  | .ended _ => 0

def Phase.undropped : Phase → Nat
  | .dropping numbers => numbers.length
  | _ => 0

def total (measure : Status → Nat) : List Task → Nat
  | [] => 0
  | task :: rest => measure task.status + total measure rest

def State.rank (state : State) : Nat × Nat × Nat × Nat :=
  (total Status.unbegun state.tasks, total Status.unsettled state.tasks, state.phase.rank,
    state.phase.undropped)

theorem total_set (measure : Status → Nat) {tasks : List Task} {number : Nat} {old : Task}
    (found : tasks[number]? = some old) (new : Task) :
    total measure (tasks.set number new) + measure old.status =
      total measure tasks + measure new.status := by
  induction tasks generalizing number with
  | nil => simp at found
  | cons first rest ih =>
    cases number with
    | zero =>
      simp only [List.getElem?_cons_zero, Option.some.injEq] at found
      subst found
      simp only [List.set_cons_zero, total]
      omega
    | succ number =>
      have := ih (by simpa using found)
      simp only [List.set_cons_succ, total]
      omega

theorem watch_unsettled (pool : Pool) (process : Command.Process) (polls : Nat) (world : World)
    {status : Status} {after : World}
    (watched : (pool.watch process polls).run world = (.ok status, after)) :
    status.unbegun = 0 ∧ status.unsettled ≤ polls + 1 := by
  cases polls with
  | zero =>
    simp only [watch, Action.run_bind, Action.run_moveClock, Action.run_pure, Prod.mk.injEq,
      Except.ok.injEq] at watched
    obtain ⟨rfl, -⟩ := watched
    simp [Status.unbegun, Status.unsettled]
  | succ polls =>
    simp only [watch, Action.run_bind] at watched
    split at watched
    · next outcome _ _ =>
      cases outcome <;> simp only [Action.run_pure, Prod.mk.injEq, Except.ok.injEq] at watched <;>
        obtain ⟨rfl, -⟩ := watched <;> simp [Status.unbegun, Status.unsettled]
    · simp at watched

/-- A worker that goes on with a task brings it nearer to being settled. -/
theorem work_lt (pool : Pool) (bucket : Bucket) (status : Status) (world : World)
    {next : Status} {after : World} (open_ : status.isSettled = false)
    (worked : (pool.work bucket status).run world = (.ok next, after)) :
    next.unbegun < status.unbegun ∨
      next.unbegun = status.unbegun ∧ next.unsettled < status.unsettled := by
  cases status with
  | waiting =>
    simp only [work, Action.run_pure, Prod.mk.injEq, Except.ok.injEq] at worked
    obtain ⟨rfl, -⟩ := worked
    simp [Status.unbegun]
  | taken =>
    simp only [work, Action.run_bind] at worked
    split at worked
    · simp only [Action.run_pure, Prod.mk.injEq, Except.ok.injEq] at worked
      obtain ⟨rfl, -⟩ := worked
      simp [Status.unbegun]
    · simp at worked
  | launched process =>
    simp only [work] at worked
    have nearer := watch_unsettled pool _ _ _ worked
    exact .inl (nearer.1 ▸ Nat.one_pos)
  | running process polls event =>
    simp only [work, Action.run_bind] at worked
    split at worked
    · next completed _ _ =>
      cases completed with
      | none =>
        have nearer := watch_unsettled pool _ _ _ worked
        exact .inr ⟨nearer.1, Nat.lt_succ_of_le nearer.2⟩
      | some completed =>
        simp only [Action.run_pure, Prod.mk.injEq, Except.ok.injEq] at worked
        obtain ⟨rfl, -⟩ := worked
        simp [Status.unbegun, Status.unsettled]
    · simp at worked
  | ended completed =>
    simp only [work, Action.run_bind] at worked
    split at worked
    · simp only [Action.run_pure, Prod.mk.injEq, Except.ok.injEq] at worked
      obtain ⟨rfl, -⟩ := worked
      simp [Status.unbegun, Status.unsettled]
    · simp at worked
  | finished | failed | dropped => simp [Status.isSettled] at open_

/-! ## The rank of a state -/

theorem total_modify_le (measure : Status → Nat) (change : Task → Task)
    (smaller : ∀ task, measure (change task).status ≤ measure task.status) (tasks : List Task)
    (number : Nat) : total measure (tasks.modify number change) ≤ total measure tasks := by
  induction tasks generalizing number with
  | nil => simp
  | cons first rest ih =>
    cases number with
    | zero =>
      have := smaller first
      simp only [List.modify_zero_cons, total]
      omega
    | succ number =>
      have := ih number
      simp only [List.modify_succ_cons, total]
      omega

def Below : Nat × Nat × Nat × Nat → Nat × Nat × Nat × Nat → Prop :=
  Prod.Lex (· < ·) (Prod.Lex (· < ·) (Prod.Lex (· < ·) (· < ·)))

theorem below_of_le {a a' b b' c d d' : Nat} (first : a' ≤ a) (second : b' ≤ b)
    (last : d' < d) : Below (a', b', c, d') (a, b, c, d) := by
  rcases Nat.lt_or_eq_of_le first with less | rfl
  · exact .left _ _ less
  · rcases Nat.lt_or_eq_of_le second with less | rfl
    · exact .right _ (.left _ _ less)
    · exact .right _ (.right _ (.right _ last))

theorem below_of_phase {state next : State} (same : next.tasks = state.tasks)
    (lower : next.phase.rank < state.phase.rank) : Below next.rank state.rank := by
  unfold State.rank
  rw [same]
  exact .right _ (.right _ (.left _ _ lower))

theorem below_of_tasks {state next : State} (number : Nat) {task : Task} (status : Status)
    (found : state.tasks[number]? = some task)
    (changed : next.tasks = state.tasks.set number { task with status })
    (nearer : status.unbegun < task.status.unbegun ∨
      status.unbegun = task.status.unbegun ∧ status.unsettled < task.status.unsettled) :
    Below next.rank state.rank := by
  have begun := total_set Status.unbegun found { task with status }
  have settled := total_set Status.unsettled found { task with status }
  rw [← changed] at begun settled
  simp only at begun settled
  rcases nearer with less | ⟨same, less⟩
  · exact .left _ _ (by omega)
  · have equal : total Status.unbegun next.tasks = total Status.unbegun state.tasks := by omega
    unfold State.rank
    rw [equal]
    exact .right _ (.left _ _ (by omega))

theorem isSettled_eq_false_of_mayGoOn {state : State} {jobs : Int} {status : Status}
    (ready : state.mayGoOn jobs status = true) : status.isSettled = false := by
  cases status <;> simp_all [State.mayGoOn, Status.isSettled]

theorem worker_below {pool : Pool} {state next : State} {number : Nat}
    (moved : pool.worker state number = some next) : Below next.rank state.rank := by
  unfold worker at moved
  split at moved
  · cases moved
  · next task found =>
    split at moved
    · next ready =>
      cases moved
      have unsettled := isSettled_eq_false_of_mayGoOn ready
      cases worked : (pool.work task.bucket task.status).run state.world with
      | mk outcome after =>
        cases outcome with
        | ok status =>
          refine below_of_tasks number status found ?_ (work_lt pool _ _ _ unsettled worked)
          simp [workOn, worked, Status.ofOutcome]
        | error failure =>
          refine below_of_tasks number (.failed failure) found ?_ ?_
          · simp [workOn, worked, Status.ofOutcome]
          · cases status : task.status <;>
              simp_all [Status.unbegun, Status.unsettled, Status.isSettled]
    · cases moved

theorem owner_below {pool : Pool} {state next : State} (moved : pool.owner state = some next) :
    Below next.rank state.rank := by
  unfold owner at moved
  split at moved
  case h_1 phase =>
    split at moved
    · cases moved
      exact below_of_phase rfl (by simp [phase, Phase.rank])
    · split at moved
      · cases moved
        exact below_of_phase rfl (by simp [phase, Phase.rank])
      · cases moved
  case h_2 phase =>
    cases moved
    exact below_of_phase rfl (by simp [phase, Phase.rank])
  case h_3 number rest phase =>
    cases moved
    unfold State.rank
    rw [phase]
    refine below_of_le ?_ ?_ (Nat.lt_succ_self rest.length)
    · apply total_modify_le
      rintro ⟨bucket, status⟩
      cases status <;> simp [Status.drop, Status.unbegun]
    · apply total_modify_le
      rintro ⟨bucket, status⟩
      cases status <;> simp [Status.drop, Status.unsettled]
  case h_4 phase =>
    cases moved
    exact below_of_phase rfl (by simp [phase, Phase.rank])
  case h_5 phase =>
    split at moved
    · cases moved
      exact below_of_phase rfl (by simp [phase, Phase.rank])
    · cases moved
  case h_6 phase =>
    split at moved
    · cases moved
      exact below_of_phase rfl (by simp [phase, Phase.rank])
    · cases moved
  case h_7 => cases moved

theorem interrupt_below {pool : Pool} {state next : State}
    (moved : pool.interrupt state = some next) : Below next.rank state.rank := by
  unfold interrupt at moved
  split at moved
  case h_1 phase =>
    cases moved
    exact below_of_phase rfl (by simp [phase, Phase.rank])
  case h_2 phase =>
    cases moved
    exact below_of_phase rfl (by simp [phase, Phase.rank])
  case h_3 => cases moved

theorem step_below {pool : Pool} {state next : State} {turn : Turn}
    (moved : pool.step state turn = some next) (goesOn : turn ≠ .cancel) :
    Below next.rank state.rank := by
  unfold step at moved
  split at moved
  · cases moved
  · cases turn with
    | worker number => exact worker_below moved
    | owner => exact owner_below moved
    | cancel => exact absurd rfl goesOn
    | interrupt => exact interrupt_below moved

/-! ## No deadlock -/

theorem exists_least {times : List Rat} (nonempty : times ≠ []) :
    ∃ least ∈ times, ∀ time ∈ times, least ≤ time := by
  induction times with
  | nil => exact absurd rfl nonempty
  | cons first rest ih =>
    by_cases empty : rest = []
    · subst empty
      exact ⟨first, List.mem_cons_self, by simp⟩
    · obtain ⟨least, member, le⟩ := ih empty
      rcases Rat.le_total (a := first) (b := least) with below | below
      · refine ⟨first, List.mem_cons_self, fun time member => ?_⟩
        rcases List.mem_cons.mp member with rfl | member
        · exact Rat.le_refl
        · exact Rat.le_trans below (le time member)
      · refine ⟨least, List.mem_cons_of_mem _ member, fun time member => ?_⟩
        rcases List.mem_cons.mp member with rfl | member
        · exact below
        · exact le time member

/-- Among busy workers one can go on: those that do not wait, or the first to wake up. -/
theorem exists_mayGoOn {state : State} (jobs : Int) {task : Task} (member : task ∈ state.tasks)
    (busy : task.status.isBusy = true) :
    ∃ task ∈ state.tasks, task.status.isBusy = true ∧ state.mayGoOn jobs task.status = true := by
  cases status : task.status with
  | taken | launched | ended =>
    exact ⟨task, member, busy, by simp [status, State.mayGoOn]⟩
  | running process polls event =>
    have wakes : event.time ∈ state.tasks.filterMap (·.status.wakesAt?) :=
      List.mem_filterMap.mpr ⟨task, member, by simp [status, Status.wakesAt?]⟩
    obtain ⟨least, found, le⟩ := exists_least (List.ne_nil_of_mem wakes)
    obtain ⟨first, here, wakesAt⟩ := List.mem_filterMap.mp found
    refine ⟨first, here, ?_⟩
    cases running : first.status <;> simp only [running, Status.wakesAt?, reduceCtorEq] at wakesAt
    · exact ⟨rfl, rfl⟩
    obtain rfl := Option.some.inj wakesAt
    refine ⟨rfl, List.all_eq_true.mpr fun other member => ?_⟩
    cases wakes : other.status.wakesAt? with
    | none => rfl
    | some time => simpa using le time (List.mem_filterMap.mpr ⟨other, member, wakes⟩)
  | waiting | finished | failed | dropped => simp [status, Status.isBusy] at busy

theorem worker_isSome {pool : Pool} {state : State} {number : Nat} {task : Task}
    (found : state.tasks[number]? = some task)
    (ready : state.mayGoOn pool.checker.settings.jobs task.status = true) :
    (pool.worker state number).isSome = true := by
  simp [worker, found, ready]

theorem busy_of_isSettled {state : State} (settled : state.isSettled = true) : state.busy = 0 := by
  refine List.countP_eq_zero.mpr fun task member => ?_
  have := List.all_eq_true.mp settled task member
  cases status : task.status <;> simp_all [Status.isSettled, Status.isBusy]

theorem isLeft_of_isSettled {state : State} (settled : state.isSettled = true) (abandons : Bool) :
    state.isLeft abandons = true := by
  cases abandons with
  | false => exact settled
  | true => exact decide_eq_true (busy_of_isSettled settled)

theorem busy_of_isLeft {state : State} {abandons : Bool} (gone : state.isLeft abandons = true) :
    state.busy = 0 := by
  cases abandons with
  | false => exact busy_of_isSettled gone
  | true => exact of_decide_eq_true gone

theorem owner_isSome {pool : Pool} {state : State} (settled : state.isSettled = true)
    (goesOn : isOver state = false) : (pool.owner state).isSome = true := by
  unfold owner
  rw [if_pos settled, if_pos settled, if_pos (isLeft_of_isSettled settled _)]
  split
  · split <;> rfl
  · rfl
  · rfl
  · rfl
  · rfl
  · rfl
  · next outcome phase => simp [isOver, phase] at goesOn

/-- A pool that is not over has a turn to take: a busy worker, the worker of a waiting task when
none is busy, or the owner. -/
theorem exists_step (pool : Pool) {state : State} (goesOn : isOver state = false) :
    (∃ number task, state.tasks[number]? = some task ∧
      (task.status.isBusy = true ∨ task.status = .waiting) ∧
      (pool.step state (.worker number)).isSome = true) ∨
    (pool.step state .owner).isSome = true := by
  by_cases busy : ∃ task ∈ state.tasks, task.status.isBusy = true
  · obtain ⟨task, member, busy⟩ := busy
    obtain ⟨task, member, busy, ready⟩ :=
      exists_mayGoOn pool.checker.settings.jobs member busy
    obtain ⟨number, found⟩ := List.mem_iff_getElem?.mp member
    exact .inl ⟨number, task, found, .inl busy, by
      simpa [step, goesOn] using worker_isSome found ready⟩
  · by_cases settled : state.isSettled = true
    · exact .inr (by simpa [step, goesOn] using owner_isSome settled goesOn)
    · have idle : state.busy = 0 := by simpa [State.busy, List.countP_eq_zero] using busy
      obtain ⟨task, member, unsettled⟩ := by
        simpa [State.isSettled, List.all_eq_true] using settled
      have waiting : task.status = .waiting := by
        have := fun done => busy ⟨task, member, done⟩
        cases status : task.status <;> simp_all [Status.isBusy, Status.isSettled]
      have ready : state.mayGoOn pool.checker.settings.jobs task.status = true := by
        have := pool.checker.settings.jobs_pos
        simp only [waiting, State.mayGoOn, idle, decide_eq_true_eq]
        omega
      obtain ⟨number, found⟩ := List.mem_iff_getElem?.mp member
      exact .inl ⟨number, task, found, .inr waiting, by
        simpa [step, goesOn] using worker_isSome found ready⟩

end CheckRouter.Pool
