import CheckRouter.Pool.Run

/-!
# Courses of pools

`Transition` lists the turns that are possible in a state of a pool with what they do. A course that
is `Complete` goes from the beginning of a pool to its end, in whatever order the turns come. A run
of a pool follows such a course, and every one of them can be prescribed to it.
-/

namespace CheckRouter.Pool

variable {pool : Pool} {state next : State} {turn : Turn}

/-- The turns that are possible in a state, and the states they lead to. -/
inductive Transition (pool : Pool) (state : State) : Turn → State → Prop
  | worked (number : Nat) (task : Task) (found : state.tasks[number]? = some task)
      (ready : state.mayGoOn pool.checker.settings.jobs task.status = true) :
      Transition pool state (.worker number) (pool.workOn state number task)
  | sawFailure (phase : state.phase = .watching)
      (failed : ∃ task ∈ state.tasks, task.status.isFailed = true) :
      Transition pool state .owner { state with phase := .stopping }
  | sawEnd (phase : state.phase = .watching)
      (unfailed : ∀ task ∈ state.tasks, task.status.isFailed = false)
      (settled : state.isSettled = true) :
      Transition pool state .owner { state with phase := .ended (.ok state.issues) }
  | stopped (phase : state.phase = .stopping) :
      Transition pool state .owner { state with
        phase := .dropping (List.range state.tasks.length)
        world := { state.world with tokens := state.world.tokens.cancel pool.siblings } }
  | dropped (number : Nat) (rest : List Nat) (phase : state.phase = .dropping (number :: rest)) :
      Transition pool state .owner { state with
        phase := .dropping rest
        tasks := state.tasks.modify number fun task => { task with status := task.status.drop } }
  | waits (phase : state.phase = .dropping []) :
      Transition pool state .owner { state with
        phase := .draining
        world := { state.world with waits := state.world.waits + 1 } }
  | concluded (phase : state.phase = .draining) (settled : state.isSettled = true) :
      Transition pool state .owner { state with phase := .ended (.error (pool.verdict state)) }
  | left (phase : state.phase = .leaving) (gone : state.isLeft pool.machine.abandons = true) :
      Transition pool state .owner
        { state with phase := .ended (.error (.stopped .scanInterrupted)) }
  | cancelled : Transition pool state .cancel
      { state with world := { state.world with tokens := state.world.tokens.cancel callerToken } }
  | interrupted (phase : state.phase = .watching ∨ state.phase = .draining) :
      Transition pool state .interrupt { state with
        phase := .leaving
        world := { state.world with tokens := state.world.tokens.cancel pool.caller } }

theorem transition_of_worker {number : Nat} (moved : pool.worker state number = some next) :
    Transition pool state (.worker number) next := by
  unfold worker at moved
  cases found : state.tasks[number]? with
  | none => simp [found] at moved
  | some task =>
    simp only [found] at moved
    split at moved
    · next ready =>
      cases moved
      exact .worked number task found ready
    · cases moved

theorem transition_of_owner (moved : pool.owner state = some next) :
    Transition pool state .owner next := by
  unfold owner at moved
  cases phase : state.phase with
  | watching =>
    simp only [phase] at moved
    by_cases failed : state.tasks.any (·.status.isFailed) = true
    · rw [if_pos failed] at moved
      cases moved
      exact .sawFailure phase (by simpa using failed)
    · rw [if_neg failed] at moved
      split at moved
      · next settled =>
        cases moved
        exact .sawEnd phase (by simpa using failed) settled
      · cases moved
  | stopping =>
    simp only [phase] at moved
    cases moved
    exact .stopped phase
  | dropping numbers =>
    cases numbers with
    | nil =>
      simp only [phase] at moved
      cases moved
      exact .waits phase
    | cons number rest =>
      simp only [phase] at moved
      cases moved
      exact .dropped number rest phase
  | draining =>
    simp only [phase] at moved
    split at moved
    · next settled =>
      cases moved
      exact .concluded phase settled
    · cases moved
  | leaving =>
    simp only [phase] at moved
    split at moved
    · next gone =>
      cases moved
      exact .left phase gone
    · cases moved
  | ended outcome => simp [phase] at moved

theorem transition_of_interrupt (moved : pool.interrupt state = some next) :
    Transition pool state .interrupt next := by
  unfold interrupt at moved
  cases phase : state.phase with
  | watching =>
    simp only [phase] at moved
    cases moved
    exact .interrupted (.inl phase)
  | draining =>
    simp only [phase] at moved
    cases moved
    exact .interrupted (.inr phase)
  | stopping | dropping _ | leaving | ended _ => simp [phase] at moved

theorem transition_of_step (moved : pool.step state turn = some next) :
    Transition pool state turn next := by
  unfold step at moved
  split at moved
  · cases moved
  · cases turn with
    | worker number => exact transition_of_worker moved
    | owner => exact transition_of_owner moved
    | cancel =>
      cases moved
      exact .cancelled
    | interrupt => exact transition_of_interrupt moved

theorem isOver_of_step (moved : pool.step state turn = some next) : isOver state = false := by
  unfold step at moved
  split at moved
  · cases moved
  · next goesOn => simpa using goesOn

theorem step_of_isOver (ended : isOver state = true) (turn : Turn) :
    pool.step state turn = none := by
  simp [step, ended]

/-! ## Courses -/

variable {first last : State} {turns : List Turn}

theorem course_append (pool : Pool) (state : State) (front back : List Turn) :
    pool.course state (front ++ back) = (pool.course state front).bind (pool.course · back) := by
  unfold course
  rw [List.foldlM_append]
  rfl

/-- What holds in the beginning and is kept by every turn holds after a course. It may be about the
turns taken so far. -/
theorem course_induction {motive : List Turn → State → Prop}
    (reached : pool.course first turns = some last) (begins : motive [] first)
    (kept : ∀ done turn state next, motive done state → pool.step state turn = some next →
      motive (done ++ [turn]) next) : motive turns last := by
  have more : ∀ rest done state, motive done state → pool.course state rest = some last →
      motive (done ++ rest) last := by
    intro rest
    induction rest with
    | nil =>
      intro done state holds reached
      cases reached
      rwa [List.append_nil]
    | cons turn rest ih =>
      intro done state holds reached
      obtain ⟨next, moved, reached⟩ := Option.bind_eq_some_iff.mp reached
      have holds := ih (done ++ [turn]) next (kept done turn state next holds moved) reached
      rwa [List.append_assoc] at holds
  exact more turns [] first begins reached

theorem play_of_course (reached : pool.course first turns = some last) :
    pool.play first turns = last := by
  induction turns generalizing first with
  | nil =>
    cases reached
    rfl
  | cons turn rest ih =>
    obtain ⟨next, moved, reached⟩ := Option.bind_eq_some_iff.mp reached
    unfold play
    rw [List.foldl_cons, moved]
    exact ih reached

theorem exists_course_play (pool : Pool) (state : State) (turns : List Turn) :
    ∃ done, done.Sublist turns ∧ pool.course state done = some (pool.play state turns) := by
  induction turns generalizing state with
  | nil => exact ⟨[], .slnil, rfl⟩
  | cons turn rest ih =>
    unfold play
    rw [List.foldl_cons]
    cases moved : pool.step state turn with
    | none =>
      obtain ⟨done, among, reached⟩ := ih state
      exact ⟨done, among.cons turn, reached⟩
    | some next =>
      obtain ⟨done, among, reached⟩ := ih next
      refine ⟨turn :: done, among.cons_cons turn, ?_⟩
      unfold course
      rw [List.foldlM_cons, moved]
      exact reached

theorem exists_course_finish (pool : Pool) (state : State) :
    ∃ done, (∀ turn ∈ done, turn ≠ .cancel ∧
        (turn = .interrupt → pool.machine.interruptedWait ≠ none)) ∧
      pool.course state done = some (pool.finish state) := by
  fun_induction finish pool state with
  | case1 state stuck => exact ⟨[], by simp, rfl⟩
  | case2 state next moved ih =>
    obtain ⟨turn, member, moved⟩ := List.exists_of_findSome?_eq_some moved
    obtain ⟨done, calm, reached⟩ := ih
    refine ⟨turn :: done, ?_, ?_⟩
    · intro other among
      rcases List.mem_cons.mp among with rfl | among
      · refine ⟨fun same => cancel_not_mem_candidates pool state (same ▸ member), ?_⟩
        rintro rfl unset
        simp [candidates, unset] at member
      · exact calm other among
    · unfold course
      rw [List.foldlM_cons, moved]
      exact reached

/-! ## Complete courses -/

def opened (token : Token) (buckets : List Bucket) (world : World) : State :=
  start buckets { world with tokens := (world.tokens.child token).2 }

/-- Turns that bring the pool of a caller to its end, the state at the end, and the outcome. -/
structure Complete (machine : Machine) (checker : Checker) (token : Token) (buckets : List Bucket)
    (world : World) (turns : List Turn) (last : State) (outcome : Except Failure (List Issue)) :
    Prop where
  reached : (withSiblings machine checker token (world.tokens.child token).1).course
    (opened token buckets world) turns = some last
  ended : last.phase = .ended outcome

variable {machine : Machine} {checker : Checker} {token : Token} {buckets : List Bucket}
  {world : World} {outcome : Except Failure (List Issue)}

theorem outcome_of_phase {state : State} (phase : state.phase = .ended outcome)
    (ended : isOver state = true) : Pool.outcome state ended = outcome := by
  unfold Pool.outcome
  split
  · next other same =>
    rw [phase] at same
    cases same
    rfl
  all_goals next other => rw [phase] at other; cases other

theorem run_of_last {last : State}
    (ends : (withSiblings machine checker token (world.tokens.child token).1).last buckets
      { world with tokens := (world.tokens.child token).2 } = last)
    (ended : last.phase = .ended outcome) :
    (run machine checker token buckets).run world = (outcome, last.world) := by
  subst ends
  simp only [run, Action.run_bind, Action.run_newToken, Action.run_get, Action.run_set,
    Action.run_lift]
  rw [outcome_of_phase ended]

/-- Every run of a pool follows a complete course. Cancellations in it are turns of the machine, and
so are interrupts, unless the machine interrupts a wait. -/
theorem exists_complete (machine : Machine) (checker : Checker) (token : Token)
    (buckets : List Bucket) (world : World) :
    ∃ turns last outcome, Complete machine checker token buckets world turns last outcome ∧
      (∀ turn ∈ turns, turn ∈ machine.turns ∨ turn ≠ .cancel ∧
        (turn = .interrupt → machine.interruptedWait ≠ none)) ∧
      (run machine checker token buckets).run world = (outcome, last.world) := by
  let pool := withSiblings machine checker token (world.tokens.child token).1
  let first := opened token buckets world
  obtain ⟨front, among, played⟩ := exists_course_play pool first machine.turns
  obtain ⟨back, calm, finished⟩ := exists_course_finish pool (pool.play first machine.turns)
  have ended := isOver_finish pool (pool.play first machine.turns)
  obtain ⟨outcome, phase⟩ : ∃ outcome,
      (pool.finish (pool.play first machine.turns)).phase = .ended outcome := by
    cases phase : (pool.finish (pool.play first machine.turns)).phase <;>
      simp_all [isOver]
  refine ⟨front ++ back, _, outcome, ⟨?_, phase⟩, ?_, run_of_last rfl phase⟩
  · rw [course_append]
    exact Option.bind_eq_some_iff.mpr ⟨_, played, finished⟩
  · intro turn member
    rcases List.mem_append.mp member with member | member
    · exact .inl (among.subset member)
    · exact .inr (calm turn member)

theorem finish_of_isOver (ended : isOver state = true) : pool.finish state = state := by
  have stuck : (pool.candidates state).findSome? (pool.step state) = none :=
    List.findSome?_eq_none_iff.mpr fun turn _ => step_of_isOver ended turn
  unfold finish
  split
  · rfl
  · next moved => cases moved.symm.trans stuck

theorem run_of_complete {last : State}
    (complete : Complete machine checker token buckets world machine.turns last outcome) :
    (run machine checker token buckets).run world = (outcome, last.world) := by
  have played := play_of_course complete.reached
  refine run_of_last ?_ complete.ended
  have ended : isOver last = true := by simp [isOver, complete.ended]
  unfold Pool.last
  exact (congrArg _ played).trans (finish_of_isOver ended)

end CheckRouter.Pool
