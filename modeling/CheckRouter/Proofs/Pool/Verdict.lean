import CheckRouter.Proofs.Pool.Course
import CheckRouter.Proofs.Pool.Worker

/-!
# Verdicts of pools

`outcome_of_complete` says what a pool comes to when tasks fail, the caller cancels or a wait is
interrupted, in whatever order: issues only when all tasks have finished, a stop when the caller has
cancelled, else the first failure that is no stop. What every turn keeps is in `State.Sound`, for
the tasks, and `Account`, for the owner.
-/

namespace CheckRouter.Pool

variable {pool : Pool} {state next : State} {turn : Turn}

/-! ## Tasks -/

/-- Every task agrees with the check of its bucket alone. -/
def State.Sound (pool : Pool) (state : State) : Prop :=
  ∀ task ∈ state.tasks, task.status.Sound pool task.bucket state.world.clock

theorem mem_of_mem_modify {α : Type} {entries : List α} {number : Nat} {change : α → α} {entry : α}
    (member : entry ∈ entries.modify number change) :
    entry ∈ entries ∨ ∃ old ∈ entries, entry = change old := by
  obtain ⟨place, found⟩ := List.mem_iff_getElem?.mp member
  rw [List.getElem?_modify] at found
  split at found
  · obtain ⟨old, there, rfl⟩ := Option.map_eq_some_iff.mp found
    exact .inr ⟨old, List.mem_of_getElem? there, rfl⟩
  · exact .inl (List.mem_of_getElem? (by simpa using found))

theorem clock_workOn (sound : state.Sound pool) (number : Nat) {task : Task}
    (member : task ∈ state.tasks)
    (ready : state.mayGoOn pool.checker.settings.jobs task.status = true) :
    (pool.workOn state number task).world.clock = state.world.clock ∨
      state.world.clock ≤ (pool.workOn state number task).world.clock ∧
        ∀ other ∈ state.tasks, ∀ wake ∈ other.status.wakesAt?,
          (pool.workOn state number task).world.clock ≤ wake := by
  have fits := sound task member
  rcases work_time fits with alike | ⟨process, polls, event, running, alike⟩
  · exact .inl alike.clock
  · right
    have now : (pool.workOn state number task).world.clock = event.time := alike.clock
    rw [now]
    rw [running] at fits ready
    refine ⟨fits.2.1, fun other among wake wakes => ?_⟩
    have waits := List.all_eq_true.mp ready other among
    rw [wakes] at waits
    simpa using waits

theorem clock_le (sound : state.Sound pool) (moved : Transition pool state turn next) :
    state.world.clock ≤ next.world.clock := by
  cases moved with
  | worked number task found ready =>
    rcases clock_workOn sound number (List.mem_of_getElem? found) ready with
      same | ⟨le, -⟩
    · exact same.ge
    · exact le
  | sawFailure | sawEnd | stopped | dropped | waits | concluded | left | cancelled | interrupted =>
    exact le_rfl

theorem sound_transition (sound : state.Sound pool) (moved : Transition pool state turn next) :
    next.Sound pool := by
  cases moved with
  | worked number task found ready =>
    have member := List.mem_of_getElem? found
    have faithful := work_faithful (isSettled_eq_false_of_mayGoOn ready) (sound task member)
    intro other among
    rcases List.mem_or_eq_of_mem_set among with among | rfl
    · rcases clock_workOn sound number member ready with same | ⟨le, awake⟩
      · rw [same]
        exact sound other among
      · exact (sound other among).later le (awake other among)
    · exact faithful.ofOutcome
  | dropped number rest phase =>
    intro other among
    rcases mem_of_mem_modify among with same | ⟨old, member, rfl⟩
    · exact sound other same
    · have fits := sound old member
      cases status : old.status <;> simp only [status, Status.drop] at fits ⊢ <;> exact fits
  | sawFailure | sawEnd | stopped | waits | concluded | left | cancelled | interrupted => exact sound

theorem mem_of_isSettled {task : Task} (member : task ∈ state.tasks)
    (settled : task.status.isSettled = true) (moved : Transition pool state turn next) :
    task ∈ next.tasks := by
  obtain ⟨place, there⟩ := List.mem_iff_getElem?.mp member
  cases moved with
  | worked number other found ready =>
    have unsettled := isSettled_eq_false_of_mayGoOn ready
    have apart : number ≠ place := by
      rintro rfl
      cases found.symm.trans there
      rw [settled] at unsettled
      cases unsettled
    refine List.mem_of_getElem? (i := place) ?_
    rw [← there]
    exact List.getElem?_set_ne apart
  | dropped number rest phase =>
    refine List.mem_of_getElem? (i := place) ?_
    rw [List.getElem?_modify, there]
    split
    · obtain ⟨bucket, status⟩ := task
      cases status <;> first | rfl | cases settled
    · rfl
  | sawFailure | sawEnd | stopped | waits | concluded | left | cancelled | interrupted =>
    exact member

/-! ## Tokens -/

theorem tokens_workOn (sound : state.Sound pool) (number : Nat) {task : Task}
    (member : task ∈ state.tasks) :
    (pool.workOn state number task).world.tokens = state.world.tokens ∨
      (pool.workOn state number task).world.tokens =
        (state.world.movedTo pool.machine (pool.workOn state number task).world.clock).tokens := by
  rcases work_time (sound task member) with alike | ⟨process, polls, event, running, alike⟩
  · exact .inl alike.tokens
  · right
    have now : (pool.workOn state number task).world.clock = event.time := alike.clock
    rw [now]
    exact alike.tokens

theorem isCancelled_transition {token : Token} (sound : state.Sound pool)
    (moved : Transition pool state turn next)
    (cancelled : state.world.tokens.isCancelled token = true) :
    next.world.tokens.isCancelled token = true := by
  have more (other : Token) : (state.world.tokens.cancel other).isCancelled token = true :=
    (Tokens.isCancelled_cancel _ _ _).mpr (.inl cancelled)
  cases moved with
  | worked number task found ready =>
    rcases tokens_workOn sound number (List.mem_of_getElem? found) with same | same
    · rwa [same]
    · rw [same]
      unfold World.movedTo
      dsimp only
      split
      · exact more callerToken
      · exact cancelled
  | stopped => exact more pool.siblings
  | cancelled => exact more callerToken
  | interrupted => exact more pool.caller
  | sawFailure | sawEnd | dropped | waits | concluded | left => exact cancelled

/-- No failure of a task cancels the token of the caller. -/
theorem isCancelled_caller (apart : ¬pool.siblings <:+ pool.caller) (sound : state.Sound pool)
    (moved : Transition pool state turn next)
    (cancelled : next.world.tokens.isCancelled pool.caller = true) :
    state.world.tokens.isCancelled pool.caller = true ∨ turn = .cancel ∨ turn = .interrupt ∨
      ∃ due ∈ pool.machine.cancelledAt, due ≤ next.world.clock := by
  cases moved with
  | worked number task found ready =>
    rcases tokens_workOn sound number (List.mem_of_getElem? found) with same | same
    · rw [same] at cancelled
      exact .inl cancelled
    · by_cases due : pool.machine.cancelledAt.any
        (· ≤ (pool.workOn state number task).world.clock) = true
      · right; right; right
        simpa [Option.any_eq_true] using due
      · left
        rw [same] at cancelled
        simpa [World.movedTo, due] using cancelled
  | stopped =>
    rcases (Tokens.isCancelled_cancel _ _ _).mp cancelled with before | ⟨-, below⟩
    · exact .inl before
    · exact absurd below apart
  | cancelled => exact .inr (.inl rfl)
  | interrupted => exact .inr (.inr (.inl rfl))
  | sawFailure | sawEnd | dropped | waits | concluded | left => exact .inl cancelled

/-! ## The owner -/

def State.HasFailed (state : State) : Prop := ∃ task ∈ state.tasks, task.status.isFailed = true

/-- What the phase of a pool tells of the turns that were taken and of the tasks. -/
def Account (pool : Pool) (done : List Turn) (state : State) : Prop :=
  match state.phase with
  | .watching => .interrupt ∉ done ∧ ∀ task ∈ state.tasks, task.status ≠ .dropped
  | .stopping | .dropping _ | .draining => .interrupt ∉ done ∧ state.HasFailed
  | .leaving => .interrupt ∈ done ∧ state.world.tokens.isCancelled pool.caller = true
  | .ended (.ok issues) =>
    .interrupt ∉ done ∧ issues = state.issues ∧
      ∀ task ∈ state.tasks, ∃ found, task.status = .finished found
  | .ended (.error failure) =>
    .interrupt ∈ done ∧ state.world.tokens.isCancelled pool.caller = true ∧
        failure = .stopped .scanInterrupted ∨
      .interrupt ∉ done ∧ state.HasFailed ∧ failure = pool.verdict state

theorem hasFailed_transition (failed : state.HasFailed)
    (moved : Transition pool state turn next) : next.HasFailed := by
  obtain ⟨task, member, failed⟩ := failed
  have settled : task.status.isSettled = true := by
    cases status : task.status <;> simp_all [Status.isFailed, Status.isSettled]
  exact ⟨task, mem_of_isSettled member settled moved, failed⟩

theorem account_of_phase {done : List Turn} (account : Account pool done state)
    (sound : state.Sound pool) (goesOn : isOver state = false)
    (moved : Transition pool state turn next) (same : next.phase = state.phase)
    (other : turn ≠ .interrupt)
    (undropped : (∀ task ∈ state.tasks, task.status ≠ .dropped) →
      ∀ task ∈ next.tasks, task.status ≠ .dropped) :
    Account pool (done ++ [turn]) next := by
  have turns : .interrupt ∈ done ++ [turn] ↔ .interrupt ∈ done := by simp [other.symm]
  unfold Account at account ⊢
  rw [same, turns]
  cases phase : state.phase with
  | watching =>
    simp only [phase] at account
    exact ⟨account.1, undropped account.2⟩
  | stopping | dropping _ | draining =>
    simp only [phase] at account
    exact ⟨account.1, hasFailed_transition account.2 moved⟩
  | leaving =>
    simp only [phase] at account
    exact ⟨account.1, isCancelled_transition sound moved account.2⟩
  | ended outcome => simp [isOver, phase] at goesOn

theorem account_transition {done : List Turn} (named : pool.caller ≠ []) (sound : state.Sound pool)
    (goesOn : isOver state = false) (moved : Transition pool state turn next)
    (account : Account pool done state) : Account pool (done ++ [turn]) next := by
  cases moved with
  | worked number task found ready =>
    have faithful := work_faithful (isSettled_eq_false_of_mayGoOn ready)
      (sound task (List.mem_of_getElem? found))
    refine account_of_phase account sound goesOn (.worked number task found ready) rfl (by simp) ?_
    intro undropped other among
    rcases List.mem_or_eq_of_mem_set among with same | rfl
    · exact undropped other same
    · exact faithful.ofOutcome_ne_dropped
  | sawFailure phase failed =>
    simp only [Account, phase] at account ⊢
    exact ⟨by simp [account.1], failed⟩
  | sawEnd phase unfailed settled =>
    simp only [Account, phase] at account ⊢
    refine ⟨by simp [account.1], rfl, fun task member => ?_⟩
    have undropped := account.2 task member
    have settled := List.all_eq_true.mp settled task member
    have unfailed := unfailed task member
    cases status : task.status <;> simp_all [Status.isSettled, Status.isFailed]
  | stopped phase =>
    simp only [Account, phase] at account ⊢
    exact ⟨by simp [account.1], account.2⟩
  | dropped number rest phase =>
    have moved : Transition pool state .owner _ := .dropped number rest phase
    simp only [Account, phase] at account ⊢
    exact ⟨by simp [account.1], hasFailed_transition account.2 moved⟩
  | waits phase =>
    simp only [Account, phase] at account ⊢
    exact ⟨by simp [account.1], account.2⟩
  | concluded phase settled =>
    simp only [Account, phase] at account ⊢
    exact .inr ⟨by simp [account.1], account.2, rfl⟩
  | left phase gone =>
    simp only [Account, phase] at account ⊢
    exact .inl ⟨by simp [account.1], account.2, trivial⟩
  | cancelled => exact account_of_phase account sound goesOn .cancelled rfl (by simp) id
  | interrupted phase =>
    refine ⟨by simp, ?_⟩
    exact (Tokens.isCancelled_cancel _ _ _).mpr (.inr ⟨named, List.suffix_refl _⟩)

/-! ## Courses -/

theorem buckets_transition (moved : Transition pool state turn next) :
    next.tasks.map (·.bucket) = state.tasks.map (·.bucket) := by
  cases moved with
  | worked number task found ready =>
    refine List.ext_getElem? fun place => ?_
    rw [List.getElem?_map, List.getElem?_map, workOn, List.getElem?_set]
    split
    · next here =>
      subst here
      rw [if_pos (List.getElem?_eq_some_iff.mp found).1, found]
      rfl
    · rfl
  | dropped number rest phase =>
    refine List.ext_getElem? fun place => ?_
    rw [List.getElem?_map, List.getElem?_map, List.getElem?_modify]
    split <;> cases state.tasks[place]? <;> rfl
  | sawFailure | sawEnd | stopped | waits | concluded | left | cancelled | interrupted => rfl

/-- What every course keeps. -/
structure Kept (pool : Pool) (first : State) (done : List Turn) (state : State) : Prop where
  sound : state.Sound pool
  account : Account pool done state
  buckets : state.tasks.map (·.bucket) = first.tasks.map (·.bucket)
  cause : state.world.tokens.isCancelled pool.caller = true →
    first.world.tokens.isCancelled pool.caller = true ∨ .cancel ∈ done ∨ .interrupt ∈ done ∨
      ∃ due ∈ pool.machine.cancelledAt, due ≤ state.world.clock

theorem Kept.step {first : State} {done : List Turn} (kept : Kept pool first done state)
    (named : pool.caller ≠ []) (apart : ¬pool.siblings <:+ pool.caller)
    (moved : pool.step state turn = some next) : Kept pool first (done ++ [turn]) next := by
  have transition := transition_of_step moved
  refine ⟨sound_transition kept.sound transition,
    account_transition named kept.sound (isOver_of_step moved) transition kept.account,
    (buckets_transition transition).trans kept.buckets, fun cancelled => ?_⟩
  rcases isCancelled_caller apart kept.sound transition cancelled with
    before | rfl | rfl | due
  · rcases kept.cause before with initial | cancel | interrupt | ⟨due, known, passed⟩
    · exact .inl initial
    · exact .inr (.inl (by simp [cancel]))
    · exact .inr (.inr (.inl (by simp [interrupt])))
    · exact .inr (.inr (.inr ⟨due, known, passed.trans (clock_le kept.sound transition)⟩))
  · exact .inr (.inl (by simp))
  · exact .inr (.inr (.inl (by simp)))
  · exact .inr (.inr (.inr due))

theorem kept_start (pool : Pool) (buckets : List Bucket) (world : World) :
    Kept pool (start buckets world) [] (start buckets world) := by
  have waiting : ∀ task ∈ (start buckets world).tasks, task.status = .waiting := by
    simp [start]
  refine ⟨fun task member => ?_, ⟨by simp, fun task member => ?_⟩, rfl, .inl⟩
  · rw [waiting task member]
    trivial
  · rw [waiting task member]
    simp

variable {machine : Machine} {checker : Checker} {token : Token} {buckets : List Bucket}
  {world : World} {turns : List Turn} {last : State} {outcome : Except Failure (List Issue)}

theorem not_child_suffix (tokens : Tokens) (token : Token) : ¬(tokens.child token).1 <:+ token := by
  intro below
  have := below.length_le
  simp [Tokens.child] at this

theorem Complete.kept {number : Nat} {above : Token}
    (complete : Complete machine checker (number :: above) buckets world turns last outcome) :
    Kept (withSiblings machine checker (number :: above) (world.tokens.child (number :: above)).1)
      (opened (number :: above) buckets world) turns last :=
  course_induction complete.reached (kept_start _ _ _) fun _ _ _ _ kept moved =>
    kept.step (List.cons_ne_nil _ _) (not_child_suffix _ _) moved

theorem failures_ne_nil (failed : state.HasFailed) : state.failures ≠ [] := by
  obtain ⟨task, member, failed⟩ := failed
  cases status : task.status <;> simp only [status, Status.isFailed, Bool.false_eq_true] at failed
  next failure =>
    have recorded : failure ∈ state.failures :=
      List.mem_filterMap.mpr ⟨task, member, by simp [status, Status.failure?]⟩
    exact List.ne_nil_of_mem recorded

/-- The failure to report is the first that is no stop, and a stop only if there are no others. -/
theorem firstFailure?_cases (nonempty : state.failures ≠ []) :
    ∃ failure, state.firstFailure? = some failure ∧
      (state.failures.find? (!·.isStop) = some failure ∨
        (∀ other ∈ state.failures, other.isStop = true) ∧
          state.failures.head? = some failure) := by
  unfold State.firstFailure?
  cases found : state.failures.find? (!·.isStop) with
  | some failure => exact ⟨failure, rfl, .inl rfl⟩
  | none =>
    refine ⟨state.failures.head nonempty, ?_, .inr ⟨?_, List.head?_eq_some_head nonempty⟩⟩
    · exact List.head?_eq_some_head nonempty
    · simpa using found

/-- What can be said of a pool at its end. -/
structure Judged (machine : Machine) (token : Token) (buckets : List Bucket) (world : World)
    (turns : List Turn) (last : State) (outcome : Except Failure (List Issue)) : Prop where
  buckets : last.tasks.map (·.bucket) = buckets
  finished : ∀ issues, outcome = .ok issues →
    issues = last.issues ∧ ∀ task ∈ last.tasks, ∃ found, task.status = .finished found
  cause : last.world.tokens.isCancelled token = true →
    world.tokens.isCancelled token = true ∨ .cancel ∈ turns ∨ .interrupt ∈ turns ∨
      ∃ due ∈ machine.cancelledAt, due ≤ last.world.clock
  interrupted : .interrupt ∈ turns →
    last.world.tokens.isCancelled token = true ∧ outcome = .error (.stopped .scanInterrupted)
  cancelled : last.HasFailed → last.world.tokens.isCancelled token = true →
    ∃ stop, outcome = .error (.stopped stop)
  nonempty : ∀ failure, outcome = .error failure → .interrupt ∉ turns → last.failures ≠ []
  first : ∀ failure, outcome = .error failure → .interrupt ∉ turns →
    last.world.tokens.isCancelled token = false →
      last.failures.find? (!·.isStop) = some failure ∨
        (∀ other ∈ last.failures, other.isStop = true) ∧ last.failures.head? = some failure

theorem Complete.judged {number : Nat} {above : Token}
    (complete : Complete machine checker (number :: above) buckets world turns last outcome) :
    Judged machine (number :: above) buckets world turns last outcome := by
  have kept := complete.kept
  have account := kept.account
  simp only [Account, complete.ended] at account
  have cause := kept.cause
  simp only [opened, start, withSiblings, Tokens.isCancelled_child_snd] at cause
  have sameBuckets : last.tasks.map (·.bucket) = buckets := by
    rw [kept.buckets]
    simp [opened, start, Function.comp_def]
  cases outcome with
  | ok issues =>
    simp only at account
    obtain ⟨uninterrupted, rfl, finished⟩ := account
    refine ⟨sameBuckets, ?_, cause, fun interrupt => absurd interrupt uninterrupted, ?_,
      by simp, by simp⟩
    · rintro _ ⟨⟩
      exact ⟨rfl, finished⟩
    · rintro ⟨task, member, failed⟩
      obtain ⟨found, status⟩ := finished task member
      simp [status, Status.isFailed] at failed
  | error failure =>
    simp only at account
    rcases account with ⟨interrupt, cancelled, rfl⟩ | ⟨uninterrupted, failed, rfl⟩
    · exact ⟨sameBuckets, by simp, cause, fun _ => ⟨cancelled, rfl⟩, fun _ _ => ⟨_, rfl⟩,
        fun _ _ without => absurd interrupt without, fun _ _ without => absurd interrupt without⟩
    · have nonempty := failures_ne_nil failed
      obtain ⟨first, chosen, cases⟩ := firstFailure?_cases nonempty
      refine ⟨sameBuckets, by simp, cause, fun interrupt => absurd interrupt uninterrupted, ?_,
        fun _ _ _ => nonempty, ?_⟩
      · intro _ cancelled
        exact ⟨.byCaller, by simp [verdict, withSiblings, cancelled]⟩
      · rintro _ ⟨⟩ _ uncancelled
        simpa [verdict, withSiblings, uncancelled, chosen] using cases

/-- However the turns come, failures, cancellations and interrupts lead to the right outcome; and a
run of the pool is one of these ways. -/
theorem run_judged (machine : Machine) (checker : Checker) (number : Nat) (above : Token)
    (buckets : List Bucket) (world : World) :
    (∀ turns last outcome,
      Complete machine checker (number :: above) buckets world turns last outcome →
        Judged machine (number :: above) buckets world turns last outcome) ∧
    ∃ turns last outcome,
      Complete machine checker (number :: above) buckets world turns last outcome ∧
        (run machine checker (number :: above) buckets).run world = (outcome, last.world) := by
  refine ⟨fun _ _ _ complete => complete.judged, ?_⟩
  obtain ⟨turns, last, outcome, complete, -, ran⟩ :=
    exists_complete machine checker (number :: above) buckets world
  exact ⟨turns, last, outcome, complete, ran⟩

end CheckRouter.Pool
