import CheckRouter.Pool
import CheckRouter.Proofs.Checking

/-!
# Workers of pools

A worker takes the steps of `Checker.execute` one at a time. What a status says of a bucket is
`Status.Sound` if it agrees with the check of that bucket alone, and the worker keeps it so.
-/

namespace CheckRouter

namespace Command

variable {limit : Option Binary64} {process : Process} {event : Event} {polls number : Nat}

/-- A process that somebody has looked after at the instant of a number and that runs on up to an
event, with some polls left. -/
structure Underway (limit : Option Binary64) (process : Process) (polls : Nat) (event : Event)
    (number : Nat) : Prop where
  ready : Ready limit process (polls + 1) number
  early : ∀ time ∈ process.deadline limit, process.instant limit number < time
  uninterrupted : ∀ due ∈ process.interruptedAt, process.instant limit number ≤ due
  next : event = process.eventBy (process.instant limit (number + 1))

namespace Underway

theorem instant_le_time (underway : Underway limit process polls event number) :
    process.instant limit number ≤ event.time := by
  rw [underway.next]
  rcases eventBy_cases process (process.instant limit (number + 1)) with
    ⟨due, known, interrupted⟩ | ⟨-, ⟨-, running⟩ | ⟨-, ended⟩⟩
  · rw [interrupted]
    exact underway.uninterrupted due known
  · rw [running]
    exact instant_mono _ _ (Nat.le_succ number)
  · rw [ended]
    exact underway.ready.instant_le_endsAt

theorem of_running {time : Rat} (underway : Underway limit process polls (.running time) number) :
    time = process.instant limit (number + 1) ∧ Ready limit process polls (number + 1) ∧
      ∀ due ∈ process.interruptedAt, time ≤ due := by
  have next := underway.next
  rcases eventBy_cases process (process.instant limit (number + 1)) with
    ⟨due, known, interrupted⟩ | ⟨uninterrupted, ⟨lasts, running⟩ | ⟨-, ended⟩⟩
  · rw [interrupted] at next
    cases next
  · rw [running] at next
    cases next
    exact ⟨rfl, underway.ready.succ underway.early lasts, fun due known =>
      (uninterrupted due known).le⟩
  · rw [ended] at next
    cases next

theorem of_ended {time : Rat} (underway : Underway limit process polls (.ended time) number) :
    time = process.endsAt ∧ Within process.endsAt (process.deadline limit) := by
  have next := underway.next
  rcases eventBy_cases process (process.instant limit (number + 1)) with
    ⟨due, known, interrupted⟩ | ⟨-, ⟨-, running⟩ | ⟨past, ended⟩⟩
  · rw [interrupted] at next
    cases next
  · rw [running] at next
    cases next
  · rw [ended] at next
    cases next
    exact ⟨rfl, fun bound known =>
      past.trans (instant_within _ _ (number + 1) bound known)⟩

end Underway

theorem interruptedAt_of_quiet (quiet : process.behaviour.interruptedAfter = none) :
    process.interruptedAt = none := by
  simp [Process.interruptedAt, quiet]

theorem instant_zero (positive : ∀ time ∈ process.deadline limit, process.startedAt < time) :
    process.instant limit 0 = process.startedAt := by
  have whole : process.instant limit 0 = process.startedAt + (0 : Nat) * slice := by
    refine instant_of_lt fun time known => lt_of_le_of_lt (instant_le _ _ 0) ?_
    simpa using positive time known
  rw [whole]
  simp

end Command

namespace Pool

open Command (Process Event Ready Underway)

variable {pool : Pool} {bucket : Bucket} {status : Status} {world : World}

/-- What somebody finds who looks after a process: it is stopped, it is over as if alone, or it goes
on. -/
theorem watch_cases {process : Process} {polls number : Nat}
    (ready : Ready pool.checker.settings.timeout process polls number)
    (uninterrupted : ∀ due ∈ process.interruptedAt,
      process.instant pool.checker.settings.timeout number ≤ due)
    (clock : world.clock = process.instant pool.checker.settings.timeout number) :
    pool.checker.token.any world.tokens.isCancelled = true ∧
        (pool.watch process polls).run world =
          (.error (.stopped (.cancelledRunning process.program)),
            (world.withKilled process.number).withHalt (.cancelledRunning process.program)) ∨
      (∃ after, world.Alike after ∧ (pool.watch process polls).run world =
        (.ok (.ended (process.fate pool.checker.settings.timeout)), after)) ∨
      ∃ rest event, (pool.watch process polls).run world =
          (.ok (.running process rest event), world) ∧
        Underway pool.checker.settings.timeout process rest event number := by
  obtain ⟨polls, rfl⟩ := Nat.exists_eq_succ_of_ne_zero ready.polls_ne_zero
  simp only [watch, Action.run_bind]
  cases seen : pool.checker.token.any world.tokens.isCancelled with
  | true =>
    rw [Command.look_of_cancelled seen]
    exact .inl ⟨rfl, rfl⟩
  | false =>
    right
    by_cases early : ∀ time ∈ process.deadline pool.checker.settings.timeout,
        process.instant pool.checker.settings.timeout number < time
    · right
      rw [Command.look_of_early seen (by rwa [clock]), clock, Command.sliceEnd_instant early]
      exact ⟨polls, _, rfl, ready, early, uninterrupted, rfl⟩
    · left
      obtain ⟨time, known, due⟩ : ∃ time ∈ process.deadline pool.checker.settings.timeout,
          time ≤ process.instant pool.checker.settings.timeout number := by
        simpa using early
      have positive : process.startedAt < time :=
        Command.lt_of_deadline pool.checker.settings.timeout_pos known
      have running := (ready.pos_of_due positive due).2
      generalize pool.checker.settings.timeout = limit at known
      cases limit with
      | none => cases known
      | some bound =>
        rw [Command.look_of_due seen known (clock ▸ due), Command.fate_of_late known running]
        refine ⟨_, ?_, rfl⟩
        exact ⟨rfl, rfl⟩

/-- A status that agrees with the check of a bucket alone, at a time. -/
def Status.Sound (pool : Pool) (bucket : Bucket) (time : Rat) : Status → Prop
  | .launched process =>
    pool.checker.opening pool.machine bucket = .ok (process.arguments, process.behaviour) ∧
      process.startedAt = time
  | .running process polls event =>
    pool.checker.opening pool.machine bucket = .ok (process.arguments, process.behaviour) ∧
      time ≤ event.time ∧
      ∃ number, Underway pool.checker.settings.timeout process polls event number
  | .ended completed =>
    ∃ started, pool.checker.opening pool.machine bucket = .ok started ∧
      completed = (Process.begun (.initial false) started).fate pool.checker.settings.timeout
  | .finished issues => pool.checker.alone pool.machine bucket = .ok issues
  | .waiting | .taken | .failed _ | .dropped => True

theorem Status.Sound.later {time later : Rat} (sound : status.Sound pool bucket time)
    (le : time ≤ later) (awake : ∀ wake ∈ status.wakesAt?, later ≤ wake) :
    status.Sound pool bucket later := by
  cases status with
  | launched process =>
    obtain ⟨opened, rfl⟩ := sound
    exact ⟨opened, le_antisymm le (awake _ rfl)⟩
  | running process polls event =>
    obtain ⟨opened, -, underway⟩ := sound
    exact ⟨opened, awake _ rfl, underway⟩
  | waiting | taken | ended | finished | failed | dropped => exact sound

/-- What a failure says of a bucket: that its check fails so alone, or that it was stopped, for which
there is a cause. -/
def Accounted (pool : Pool) (bucket : Bucket) (world : World) (failure : Failure) : Prop :=
  pool.checker.alone pool.machine bucket = .error failure ∨
    failure.isStop = true ∧
      (pool.checker.token.any world.tokens.isCancelled = true ∨ ¬pool.machine.Calm)

def Status.isIntact : Status → Bool
  | .failed _ | .dropped => false
  | _ => true

/-- A result of a worker that agrees with the check of a bucket alone. -/
structure Faithful (pool : Pool) (bucket : Bucket) (result : Except Failure Status × World) :
    Prop where
  intact : ∀ next, result.1 = .ok next → next.isIntact = true
  sound : ∀ next, result.1 = .ok next → next.Sound pool bucket result.2.clock
  accounted : ∀ failure, result.1 = .error failure → Accounted pool bucket result.2 failure

theorem Faithful.of_ok {next : Status} {after : World} (intact : next.isIntact = true)
    (sound : next.Sound pool bucket after.clock) : Faithful pool bucket (.ok next, after) := by
  refine ⟨?_, ?_, ?_⟩
  · rintro _ ⟨⟩
    exact intact
  · rintro _ ⟨⟩
    exact sound
  · rintro _ ⟨⟩

theorem Faithful.of_error {failure : Failure} {after : World}
    (accounted : Accounted pool bucket after failure) :
    Faithful pool bucket (.error failure, after) := by
  refine ⟨?_, ?_, ?_⟩
  · rintro _ ⟨⟩
  · rintro _ ⟨⟩
  · rintro _ ⟨⟩
    exact accounted

theorem Faithful.ofOutcome {result : Except Failure Status × World}
    (faithful : Faithful pool bucket result) :
    (Status.ofOutcome result.1).Sound pool bucket result.2.clock := by
  obtain ⟨outcome, after⟩ := result
  cases outcome with
  | ok next => exact faithful.sound next rfl
  | error failure => trivial

theorem Faithful.ofOutcome_ne_dropped {result : Except Failure Status × World}
    (faithful : Faithful pool bucket result) : Status.ofOutcome result.1 ≠ .dropped := by
  obtain ⟨outcome, after⟩ := result
  cases outcome with
  | ok next =>
    rintro rfl
    cases faithful.intact .dropped rfl
  | error failure => simp [Status.ofOutcome]

theorem Faithful.eq_error {result : Except Failure Status × World}
    (faithful : Faithful pool bucket result) {failure : Failure}
    (failed : Status.ofOutcome result.1 = .failed failure) : result.1 = .error failure := by
  obtain ⟨outcome, after⟩ := result
  cases outcome with
  | ok next =>
    obtain rfl : next = .failed failure := failed
    cases faithful.intact (.failed failure) rfl
  | error other =>
    cases failed
    rfl

theorem begin_faithful (pool : Pool) (bucket : Bucket) (world : World) :
    Faithful pool bucket ((pool.work bucket .taken).run world) := by
  have still := pool.checker.still_begin pool.machine bucket world
  have begins := pool.checker.begin_outcome pool.machine bucket world
  simp only [work, Action.run_bind]
  cases ran : (pool.checker.begin pool.machine bucket).run world with
  | mk outcome after =>
    rw [ran] at begins still
    simp only at begins still
    rcases begins with begins | ⟨cancelled, rfl⟩
    · cases opened : pool.checker.opening pool.machine bucket with
      | error failure =>
        rw [opened] at begins
        subst begins
        refine .of_error (.inl ?_)
        rw [Checker.alone, opened, error_bind]
      | ok started =>
        rw [opened] at begins
        subst begins
        exact .of_ok rfl ⟨opened, still.clock.symm⟩
    · refine .of_error (.inr ⟨rfl, .inl ?_⟩)
      rw [still.isCancelled, cancelled]

theorem watch_faithful {process : Process} {polls number : Nat}
    (opened : pool.checker.opening pool.machine bucket =
      .ok (process.arguments, process.behaviour))
    (ready : Ready pool.checker.settings.timeout process polls number)
    (uninterrupted : ∀ due ∈ process.interruptedAt,
      process.instant pool.checker.settings.timeout number ≤ due)
    (clock : world.clock = process.instant pool.checker.settings.timeout number) :
    world.Alike ((pool.watch process polls).run world).2 ∧
      Faithful pool bucket ((pool.watch process polls).run world) := by
  rcases watch_cases ready uninterrupted clock with
    ⟨cancelled, stopped⟩ | ⟨after, alike, met⟩ | ⟨rest, event, goesOn, underway⟩
  · rw [stopped]
    exact ⟨⟨rfl, rfl⟩, .of_error (.inr ⟨rfl, .inl cancelled⟩)⟩
  · rw [met]
    refine ⟨alike, .of_ok rfl ⟨_, opened, ?_⟩⟩
    apply Command.fate_congr <;> rfl
  · rw [goesOn]
    refine ⟨.refl world, .of_ok rfl ⟨opened, ?_, number, underway⟩⟩
    rw [clock]
    exact underway.instant_le_time

theorem launched_faithful {process : Process}
    (sound : (Status.launched process).Sound pool bucket world.clock) :
    world.Alike ((pool.work bucket (.launched process)).run world).2 ∧
      Faithful pool bucket ((pool.work bucket (.launched process)).run world) := by
  obtain ⟨opened, start⟩ := sound
  have positive : ∀ time ∈ process.deadline pool.checker.settings.timeout,
      process.startedAt < time :=
    fun time known => Command.lt_of_deadline pool.checker.settings.timeout_pos known
  have zero := Command.instant_zero positive
  refine watch_faithful opened (Command.ready_of_enoughPolls le_rfl) (fun due known => ?_)
    (start.symm.trans zero.symm)
  rw [zero]
  exact Command.startedAt_le_interruptedAt known

theorem running_faithful {process : Process} {polls : Nat} {event : Event}
    (sound : (Status.running process polls event).Sound pool bucket world.clock) :
    (world.movedTo pool.machine event.time).Alike
        ((pool.work bucket (.running process polls event)).run world).2 ∧
      Faithful pool bucket ((pool.work bucket (.running process polls event)).run world) := by
  obtain ⟨opened, -, number, underway⟩ := sound
  simp only [work, Action.run_bind]
  cases event with
  | interrupted time =>
    refine ⟨⟨rfl, rfl⟩, .of_error (.inr ⟨rfl, .inr fun calm => ?_⟩)⟩
    have quiet := Command.interruptedAt_of_quiet (Checker.quiet_of_opening calm opened)
    have next := underway.next
    rcases Command.eventBy_cases process
        (process.instant pool.checker.settings.timeout (number + 1)) with
      ⟨due, known, -⟩ | ⟨-, ⟨-, running⟩ | ⟨-, ended⟩⟩
    · rw [quiet] at known
      cases known
    · rw [running] at next
      cases next
    · rw [ended] at next
      cases next
  | running time =>
    obtain ⟨rfl, ready, uninterrupted⟩ := underway.of_running
    exact watch_faithful opened ready uninterrupted rfl
  | ended time =>
    obtain ⟨rfl, inTime⟩ := underway.of_ended
    refine ⟨⟨rfl, rfl⟩, .of_ok rfl ⟨_, opened, ?_⟩⟩
    rw [← Command.fate_of_inTime inTime]
    apply Command.fate_congr <;> rfl

theorem ended_faithful {completed : Completed}
    (sound : (Status.ended completed).Sound pool bucket world.clock) :
    Faithful pool bucket ((pool.work bucket (.ended completed)).run world) := by
  obtain ⟨started, opened, rfl⟩ := sound
  have read := pool.checker.issuesOf_outcome bucket
    ((Process.begun (.initial false) started).fate pool.checker.settings.timeout) world
  have alone : pool.checker.alone pool.machine bucket =
      Checker.reading ((Process.begun (.initial false) started).fate pool.checker.settings.timeout) := by
    rw [Checker.alone, opened, ok_bind]
  simp only [work, Action.run_bind]
  cases ran : (pool.checker.issuesOf bucket
      ((Process.begun (.initial false) started).fate pool.checker.settings.timeout)).run world with
  | mk outcome after =>
    rw [ran, ← alone] at read
    simp only at read
    subst read
    cases found : pool.checker.alone pool.machine bucket with
    | ok issues => exact .of_ok rfl found
    | error failure => exact .of_error (.inl found)

/-- Whatever a worker does agrees with the check of its bucket alone. -/
theorem work_faithful (unsettled : status.isSettled = false)
    (sound : status.Sound pool bucket world.clock) :
    Faithful pool bucket ((pool.work bucket status).run world) := by
  cases status with
  | waiting => exact .of_ok rfl trivial
  | taken => exact begin_faithful pool bucket world
  | launched process => exact (launched_faithful sound).2
  | running process polls event => exact (running_faithful sound).2
  | ended completed => exact ended_faithful sound
  | finished | failed | dropped => cases unsettled

/-- Time goes on only when a worker has waited for its checker, up to the event for which it did. -/
theorem work_time (sound : status.Sound pool bucket world.clock) :
    world.Alike ((pool.work bucket status).run world).2 ∨
      ∃ process polls event, status = .running process polls event ∧
        (world.movedTo pool.machine event.time).Alike
          ((pool.work bucket status).run world).2 := by
  cases status with
  | waiting | finished | failed | dropped => exact .inl (.refl world)
  | taken =>
    have keeps {γ : Type} {observe : World → γ} (silent : Silent observe)
        (unstarting : Unstarting observe) : Action.Keeps observe (pool.work bucket .taken) :=
      (pool.checker.keeps_begin pool.machine bucket silent unstarting).bind fun _ =>
        Action.keeps_pure _
    exact .inl ⟨keeps silent_clock unstarting_clock world,
      keeps silent_tokens unstarting_tokens world⟩
  | launched process => exact .inl (launched_faithful sound).1
  | running process polls event => exact .inr ⟨_, _, _, rfl, (running_faithful sound).1⟩
  | ended completed =>
    have keeps {γ : Type} {observe : World → γ} (silent : Silent observe) :
        Action.Keeps observe (pool.work bucket (.ended completed)) :=
      (pool.checker.keeps_issuesOf bucket silent.toUnnoting completed).bind fun _ =>
        Action.keeps_pure _
    exact .inl ⟨keeps silent_clock world, keeps silent_tokens world⟩

end Pool

end CheckRouter
