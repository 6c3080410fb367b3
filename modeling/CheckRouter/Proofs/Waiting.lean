import CheckRouter.Proofs.Time

/-!
# Waiting for a process

`Command.wait` polls in slices. `run_of_starts` says what that comes to: the process ends by itself,
or is killed at the first instant at which its cancellation is seen, or at its deadline, whichever
is first.
-/

namespace CheckRouter.Command

variable {machine : Machine} {token : Option Token} {limit : Option Binary64} {process : Process}

abbrev Process.deadline (process : Process) (limit : Option Binary64) : Option Rat :=
  Command.deadline process.startedAt limit

abbrev Process.instant (process : Process) (limit : Option Binary64) (number : Nat) : Rat :=
  Command.instant process.startedAt (process.deadline limit) number

/-! ## One poll -/

section Poll

variable {world : World}

theorem look_of_cancelled (cancelled : token.any world.tokens.isCancelled = true) :
    (look token limit process).run world =
      (.error (.stopped (.cancelledRunning process.program)),
        (world.withKilled process.number).withHalt (.cancelledRunning process.program)) := by
  simp [look, Action.run_bind, cancelled]

theorem look_of_due {limit : Binary64} {time : Rat}
    (uncancelled : token.any world.tokens.isCancelled = false)
    (known : process.deadline (some limit) = some time) (due : time ≤ world.clock) :
    (look token (some limit) process).run world =
      (.ok (.inl (process.timedOut limit)),
        (world.withKilled process.number).note .warning .process
          (Process.timeoutNote limit ++ ": " ++ Text.ShellWords.join process.arguments)) := by
  simp [look, Action.run_bind, Action.run_map, uncancelled, known, due, Except.map]

theorem look_of_early (uncancelled : token.any world.tokens.isCancelled = false)
    (early : ∀ time ∈ process.deadline limit, world.clock < time) :
    (look token limit process).run world =
      (.ok (.inr (process.eventBy
        (sliceEnd world.clock (process.deadline limit)))), world) := by
  have notDue : (process.deadline limit).any (· ≤ world.clock) = false := by
    rw [Option.any_eq_false]
    intro time known
    simpa using early time known
  cases limit <;> simp [look, Action.run_bind, Action.run_map, uncancelled, notDue, Except.map]

theorem eventBy_of_quiet (quiet : process.behaviour.interruptedAfter = none) (time : Rat) :
    process.eventBy time =
      if time < process.endsAt then .running time else .ended process.endsAt := by
  simp [Process.eventBy, Process.interruptedAt, quiet]

theorem eventBy_cases (process : Process) (time : Rat) :
    (∃ due ∈ process.interruptedAt, process.eventBy time = .interrupted due) ∨
      (∀ due ∈ process.interruptedAt, time < due) ∧
        (time < process.endsAt ∧ process.eventBy time = .running time ∨
          process.endsAt ≤ time ∧ process.eventBy time = .ended process.endsAt) := by
  unfold Process.eventBy
  cases known : process.interruptedAt with
  | none =>
    right
    by_cases running : time < process.endsAt
    · simp [running]
    · simp [running, not_lt.mp running]
  | some due =>
    by_cases passed : due ≤ time
    · left
      simp [Option.filter, passed]
    · right
      by_cases running : time < process.endsAt
      · simp [Option.filter, passed, running, not_le.mp passed]
      · simp [Option.filter, passed, running, not_le.mp passed, not_lt.mp running]

section Wait

variable {polls : Nat} {after : World}

theorem wait_of_failed {failure : Failure}
    (looked : (look token limit process).run world = (.error failure, after)) :
    (wait machine token limit process (polls + 1)).run world = (.error failure, after) := by
  simp only [wait, poll, Action.run_bind, looked]

theorem wait_of_over {completed : Completed}
    (looked : (look token limit process).run world = (.ok (.inl completed), after)) :
    (wait machine token limit process (polls + 1)).run world = (.ok completed, after) := by
  simp only [wait, poll, Action.run_bind, looked, Action.run_pure]

theorem wait_of_running {time : Rat}
    (looked : (look token limit process).run world = (.ok (.inr (.running time)), after)) :
    (wait machine token limit process (polls + 1)).run world =
      (wait machine token limit process polls).run (after.movedTo machine time) := by
  simp only [wait, poll, Action.run_bind, looked, meet, Action.run_moveClock, Action.run_pure]

theorem wait_of_interrupted {time : Rat}
    (looked : (look token limit process).run world = (.ok (.inr (.interrupted time)), after)) :
    (wait machine token limit process (polls + 1)).run world =
      (.error (.stopped (.interruptedRunning process.program)),
        ((after.movedTo machine time).withKilled process.number).withHalt
          (.interruptedRunning process.program)) := by
  simp only [wait, poll, Action.run_bind, looked, meet, Action.run_moveClock, Action.run_kill,
    Action.run_halt]

theorem wait_of_ended {time : Rat}
    (looked : (look token limit process).run world = (.ok (.inr (.ended time)), after)) :
    (wait machine token limit process (polls + 1)).run world =
      (.ok process.completed, after.movedTo machine time) := by
  simp only [wait, poll, Action.run_bind, looked, meet, Action.run_moveClock, Action.run_pure]

end Wait

end Poll

/-! ## The loop -/

/-- The state of the loop before the poll of a number, with some polls left: the process has not
ended, and the polls left last beyond its end. -/
structure Ready (limit : Option Binary64) (process : Process) (polls number : Nat) : Prop where
  running : number = 0 ∨
    process.instant limit number < process.endsAt
  reached : process.startedAt + number * slice ≤ process.endsAt + slice
  enough : process.endsAt + slice < process.startedAt + (number + polls : Nat) * slice

theorem startedAt_le_endsAt (process : Process) : process.startedAt ≤ process.endsAt :=
  le_add_of_nonneg_right (Behaviour.fromZero_nonneg process.behaviour.duration)

theorem startedAt_le_interruptedAt {due : Rat} (known : due ∈ process.interruptedAt) :
    process.startedAt ≤ due := by
  obtain ⟨after, -, rfl⟩ := Option.map_eq_some_iff.mp known
  exact le_add_of_nonneg_right (Behaviour.fromZero_nonneg after)

theorem ready_of_enoughPolls {polls : Nat} (enough : enoughPolls process ≤ polls) :
    Ready limit process polls 0 := by
  have whole : process.behaviour.duration * 10 ≤
      ((process.behaviour.duration * 10).ceil.toNat : Rat) :=
    calc process.behaviour.duration * 10
        ≤ ((process.behaviour.duration * 10).ceil : Rat) := Rat.le_ceil
      _ ≤ (((process.behaviour.duration * 10).ceil.toNat : Int) : Rat) :=
        Int.cast_le.mpr (Int.self_le_toNat _)
      _ = _ := Int.cast_natCast _
  have more : ((enoughPolls process : Nat) : Rat) ≤ polls := Nat.cast_le.mpr enough
  simp only [enoughPolls] at more
  push_cast at more
  have slices : Behaviour.fromZero process.behaviour.duration ≤ (polls - 3 : Rat) * slice := by
    rw [Behaviour.fromZero_eq_max]
    refine max_le ?_ ?_
    · have := Nat.cast_nonneg (α := Rat) (process.behaviour.duration * 10).ceil.toNat
      unfold slice
      linarith
    · unfold slice
      linarith
  refine ⟨.inl rfl, ?_, ?_⟩
  · have := startedAt_le_endsAt process
    simp only [slice, Nat.cast_zero]
    linarith
  · simp only [Process.endsAt, slice, zero_add] at slices ⊢
    linarith

namespace Ready

variable {polls number : Nat}

theorem polls_ne_zero (ready : Ready limit process polls number) : polls ≠ 0 := by
  rintro rfl
  have := ready.reached
  have := ready.enough
  rw [Nat.add_zero] at this
  linarith

theorem succ (ready : Ready limit process (polls + 1) number)
    (early : ∀ time ∈ process.deadline limit,
      process.instant limit number < time)
    (running : process.instant limit (number + 1) <
      process.endsAt) :
    Ready limit process polls (number + 1) := by
  refine ⟨.inr running, ?_, ?_⟩
  · have whole := instant_of_lt early
    have notEnded : process.startedAt + number * slice ≤ process.endsAt := by
      rcases ready.running with rfl | notEnded
      · simpa using startedAt_le_endsAt process
      · exact (whole.ge.trans_lt notEnded).le
    push_cast
    linarith
  · have enough := ready.enough
    rw [show number + 1 + polls = number + (polls + 1) by omega]
    exact enough

theorem instant_le_endsAt (ready : Ready limit process polls number) :
    process.instant limit number ≤ process.endsAt := by
  rcases ready.running with rfl | running
  · have := instant_le process.startedAt (process.deadline limit) 0
    simp only [Nat.cast_zero, zero_mul, add_zero] at this
    exact this.trans (startedAt_le_endsAt process)
  · exact running.le

theorem pos_of_due (ready : Ready limit process polls number) {time : Rat}
    (positive : process.startedAt < time)
    (due : time ≤ process.instant limit number) : 1 ≤ number ∧ time < process.endsAt := by
  have later : number ≠ 0 := by
    rintro rfl
    have := due.trans (instant_le _ _ 0)
    simp only [Nat.cast_zero, zero_mul, add_zero] at this
    linarith
  exact ⟨Nat.pos_of_ne_zero later, due.trans_lt (ready.running.resolve_left later)⟩

end Ready

/-- A process that has just been started and will not be interrupted, and a token that is not yet
cancelled. -/
structure Begun (machine : Machine) (token : Option Token) (limit : Option Binary64)
    (process : Process) (begun : World) : Prop where
  quiet : process.behaviour.interruptedAfter = none
  clock : begun.clock = process.startedAt
  positive : ∀ time ∈ process.deadline limit, process.startedAt < time
  uncancelled : token.any begun.tokens.isCancelled = false
  later : ∀ due ∈ cancelTime machine token, process.startedAt < due

def worldAt (machine : Machine) (limit : Option Binary64) (process : Process) (begun : World) :
    Nat → World
  | 0 => begun
  | number + 1 => begun.movedTo machine (process.instant limit (number + 1))

/-- How the wait for a process may end, when a cancellation is first seen at some time. -/
inductive Ends (machine : Machine) (limit : Option Binary64) (process : Process) (begun : World)
    (notice : Option Rat) : Except Failure Completed × World → Prop
  | ended (inTime : Within process.endsAt (process.deadline limit))
      (unnoticed : Within process.endsAt notice) :
      Ends machine limit process begun notice
        (.ok process.completed, begun.movedTo machine process.endsAt)
  | stopped (time : Rat) (noticed : notice = some time) (running : time < process.endsAt) :
      Ends machine limit process begun notice
        (.error (.stopped (.cancelledRunning process.program)),
          ((begun.movedTo machine time).withKilled process.number).withHalt
            (.cancelledRunning process.program))
  | expired (bound : Binary64) (time : Rat) (given : limit = some bound)
      (known : process.deadline limit = some time) (running : time < process.endsAt)
      (unnoticed : notice = none) :
      Ends machine limit process begun notice
        (.ok (process.timedOut bound),
          ((begun.movedTo machine time).withKilled process.number).note .warning .process
            (Process.timeoutNote bound ++ ": " ++ Text.ShellWords.join process.arguments))

section Loop

variable {begun : World} {notice : Option Rat} {polls number : Nat}

theorem clock_worldAt (setting : Begun machine token limit process begun) (number : Nat) :
    (worldAt machine limit process begun number).clock = process.instant limit number := by
  cases number with
  | zero =>
    have whole : process.instant limit 0 = process.startedAt + (0 : Nat) * slice := by
      refine instant_of_lt fun time known => lt_of_le_of_lt (instant_le _ _ 0) ?_
      simpa using setting.positive time known
    rw [worldAt, setting.clock, whole]
    simp
  | succ number => rfl

theorem worldAt_of_pos (later : 1 ≤ number) :
    worldAt machine limit process begun number =
      begun.movedTo machine (process.instant limit number) := by
  cases number with
  | zero => omega
  | succ number => rfl

theorem movedTo_worldAt {time : Rat} (le : process.instant limit number ≤ time) :
    (worldAt machine limit process begun number).movedTo machine time =
      begun.movedTo machine time := by
  cases number with
  | zero => rfl
  | succ number => exact World.movedTo_movedTo begun machine le

theorem worldAt_movedTo (number : Nat) :
    (worldAt machine limit process begun number).movedTo machine
        (process.instant limit (number + 1)) =
      worldAt machine limit process begun (number + 1) :=
  movedTo_worldAt (instant_mono _ _ (Nat.le_succ number))

theorem isCancelled_worldAt (setting : Begun machine token limit process begun) (number : Nat) :
    token.any (worldAt machine limit process begun number).tokens.isCancelled = true ↔
      1 ≤ number ∧ ∃ due ∈ cancelTime machine token, due ≤ process.instant limit number := by
  cases number with
  | zero => simp [worldAt, setting.uncancelled]
  | succ number =>
    rw [worldAt, isCancelled_movedTo, setting.uncancelled]
    simp [Option.any_eq_true]

/-- No cancellation could be seen before the poll of a number. -/
def Unseen (machine : Machine) (token : Option Token) (limit : Option Binary64)
    (process : Process) (number : Nat) : Prop :=
  ∀ due ∈ cancelTime machine token, ∀ earlier < number, process.instant limit earlier < due

theorem noticed_of_cancelled (setting : Begun machine token limit process begun)
    (isNotice : IsNotice process.startedAt (process.deadline limit) (cancelTime machine token)
      notice)
    (unseen : Unseen machine token limit process number)
    (cancelled : token.any (worldAt machine limit process begun number).tokens.isCancelled =
      true) :
    1 ≤ number ∧ notice = some (process.instant limit number) := by
  obtain ⟨later, due, known, passed⟩ := (isCancelled_worldAt setting number).mp cancelled
  refine ⟨later, isNotice.eq_some ⟨⟨number, later, rfl, due, known, passed⟩, ?_⟩⟩
  rintro time ⟨other, -, rfl, due', known', passed'⟩
  by_contra before
  have earlier : other < number := by
    by_contra after
    exact before (instant_mono _ _ (not_lt.mp after))
  exact absurd passed' (not_le.mpr (unseen due' known' other earlier))

theorem lt_of_notice
    (isNotice : IsNotice process.startedAt (process.deadline limit) (cancelTime machine token)
      notice)
    (unseen : Unseen machine token limit process (number + 1)) {time : Rat}
    (noticed : notice = some time) :
    ∃ other, number + 1 ≤ other ∧ time = process.instant limit other ∧
      process.instant limit number < time := by
  subst noticed
  obtain ⟨⟨other, -, rfl, due, known, passed⟩, -⟩ := isNotice
  have after := (unseen due known number (Nat.lt_succ_self number)).trans_le passed
  refine ⟨other, ?_, rfl, after⟩
  by_contra before
  exact absurd (instant_mono process.startedAt (process.deadline limit) (by omega)) (not_le.mpr after)

theorem unseen_succ (setting : Begun machine token limit process begun)
    (unseen : Unseen machine token limit process number)
    (uncancelled : token.any (worldAt machine limit process begun number).tokens.isCancelled =
      false) : Unseen machine token limit process (number + 1) := by
  intro due known earlier le
  rcases Nat.lt_or_eq_of_le (Nat.le_of_lt_succ le) with less | rfl
  · exact unseen due known earlier less
  · by_contra passed
    cases earlier with
    | zero =>
      have start := clock_worldAt setting 0
      rw [worldAt, setting.clock] at start
      exact passed (start ▸ setting.later due known)
    | succ earlier =>
      have seen := (isCancelled_worldAt setting (earlier + 1)).mpr
        ⟨Nat.succ_pos earlier, due, known, not_lt.mp passed⟩
      rw [uncancelled] at seen
      cases seen

/-- The loop before a poll, when no cancellation could be seen at an earlier one. -/
theorem wait_of_ready (setting : Begun machine token limit process begun)
    (isNotice : IsNotice process.startedAt (process.deadline limit) (cancelTime machine token)
      notice)
    (ready : Ready limit process polls number)
    (unseen : Unseen machine token limit process number) :
    Ends machine limit process begun notice
      ((wait machine token limit process polls).run
        (worldAt machine limit process begun number)) := by
  induction polls generalizing number with
  | zero => exact absurd rfl ready.polls_ne_zero
  | succ polls ih =>
    have clock := clock_worldAt setting number
    cases seen : token.any (worldAt machine limit process begun number).tokens.isCancelled with
    | true =>
      obtain ⟨later, noticed⟩ := noticed_of_cancelled setting isNotice unseen seen
      rw [wait_of_failed (look_of_cancelled seen), worldAt_of_pos later]
      exact .stopped _ noticed (ready.running.resolve_left (by omega))
    | false =>
      have unseen := unseen_succ setting unseen seen
      by_cases early : ∀ time ∈ process.deadline limit, process.instant limit number < time
      · have looked : (look token limit process).run _ = _ := look_of_early seen (by rwa [clock])
        rw [clock, sliceEnd_instant early, eventBy_of_quiet setting.quiet] at looked
        by_cases running : process.instant limit (number + 1) < process.endsAt
        · rw [if_pos running] at looked
          rw [wait_of_running looked, worldAt_movedTo]
          exact ih (ready.succ early running) unseen
        · rw [if_neg running] at looked
          have ended := not_lt.mp running
          rw [wait_of_ended looked, movedTo_worldAt (ready.instant_le_endsAt)]
          refine .ended (fun time known => ?_) (fun time noticed => ?_)
          · exact ended.trans (instant_within _ _ (number + 1) time known)
          · obtain ⟨other, later, rfl, -⟩ := lt_of_notice isNotice unseen noticed
            exact ended.trans (instant_mono _ _ later)
      · obtain ⟨time, known, due⟩ : ∃ time ∈ process.deadline limit,
            time ≤ process.instant limit number := by
          simpa using early
        obtain ⟨later, running⟩ := ready.pos_of_due (setting.positive time known) due
        have now : process.instant limit number = time :=
          le_antisymm (instant_within _ _ number time known) due
        have unnoticed : notice = none := by
          cases noticed : notice with
          | none => rfl
          | some other =>
            obtain ⟨other, -, rfl, after⟩ := lt_of_notice isNotice unseen noticed
            exact absurd (instant_within _ _ other time known) (not_le.mpr (now ▸ after))
        obtain ⟨bound, rfl⟩ : ∃ bound, limit = some bound := by
          cases limit with
          | none => cases known
          | some bound => exact ⟨bound, rfl⟩
        rw [wait_of_over (look_of_due seen known (clock ▸ due)), worldAt_of_pos later, now]
        exact .expired bound time rfl known running unnoticed

theorem Ends.unique {first second : Except Failure Completed × World}
    (one : Ends machine limit process begun notice first)
    (other : Ends machine limit process begun notice second) : first = second := by
  cases one with
  | ended inTime unnoticed =>
    cases other with
    | ended => rfl
    | stopped time noticed running => exact absurd (unnoticed time noticed) (not_le.mpr running)
    | expired bound time given known running => exact absurd (inTime time known) (not_le.mpr running)
  | stopped time noticed running =>
    cases other with
    | ended inTime unnoticed => exact absurd (unnoticed time noticed) (not_le.mpr running)
    | stopped time' noticed' => rw [Option.some.inj (noticed.symm.trans noticed')]
    | expired bound time' given known running' unnoticed => cases noticed.symm.trans unnoticed
  | expired bound time given known running unnoticed =>
    cases other with
    | ended inTime => exact absurd (inTime time known) (not_le.mpr running)
    | stopped time' noticed => cases noticed.symm.trans unnoticed
    | expired bound' time' given' known' =>
      rw [Option.some.inj (given.symm.trans given'), Option.some.inj (known.symm.trans known')]

end Loop

/-! ## Runs -/

theorem start_run {launch : Launch} {behaviour : Behaviour} (world : World)
    (permitted : permit machine launch = .ok ())
    (responds : machine.respond launch = .ok behaviour) :
    (start machine launch).run world =
      (.ok ⟨world.started.length, launch.arguments, behaviour, world.clock⟩,
        world.withStarted launch) := by
  simp only [start, Action.run_bind, Action.run_lift, permitted, Action.run_noteStart, responds]
  rfl

/-- A program may be executed if that may be done under one of the names under which it is looked
for. -/
theorem permitProgram_eq_ok_iff {base : List String} {launch : Launch} :
    permitProgram machine base launch = .ok () ↔
      ∃ name ∈ programNames machine launch, obstacle? machine base name = none := by
  unfold permitProgram
  dsimp only
  split
  · next clear => simpa using clear
  · next blocked =>
    refine iff_of_false (by simp) ?_
    simpa using blocked

theorem launch_run {options : Options} {command arguments : List String} {behaviour : Behaviour}
    {world : World} (found : lookup machine command = .ok arguments)
    (uncancelled : token.any world.tokens.isCancelled = false)
    (permitted : permit machine (options.toLaunch arguments) = .ok ())
    (responds : machine.respond (options.toLaunch arguments) = .ok behaviour) :
    (launch machine token options command).run world =
      (.ok ⟨world.started.length, arguments, behaviour, world.clock⟩,
        world.withStarted (options.toLaunch arguments)) := by
  simp only [launch, Action.run_bind, Action.run_lift, found, Action.run_proceed, uncancelled,
    Bool.false_eq_true, if_false, start_run world permitted responds]
  rfl

theorem lookup_of_isAbsolute {head : String} (absolute : (Path.ofString head).isAbsolute = true)
    (rest : List String) :
    lookup machine (head :: rest) = .ok ((Path.ofString head).toString :: rest) := by
  simp [lookup, absolute]

/-- A run of a program that starts, with the time of its end, the deadline, and the first instant at
which a cancellation is seen. It ends by itself if neither of the other two comes first; else it is
killed when its cancellation is seen, if it is, and at the deadline if not. The loop stops by
itself: further polls would change nothing. -/
theorem run_of_starts (machine : Machine) (token : Option Token) (options : Options)
    (head : String) (rest : List String) (behaviour : Behaviour) (world : World)
    (absolute : (Path.ofString head).isAbsolute = true)
    (permitted :
      permit machine (options.toLaunch ((Path.ofString head).toString :: rest)) = .ok ())
    (responds :
      machine.respond (options.toLaunch ((Path.ofString head).toString :: rest)) = .ok behaviour)
    (uncancelled : token.any world.tokens.isCancelled = false)
    (later : ∀ due ∈ cancelTime machine token, world.clock < due)
    (positive : ∀ limit ∈ options.limit, limit.isPositive = true)
    (lasting : 0 ≤ behaviour.duration)
    (quiet : behaviour.interruptedAfter = none) :
    let arguments := (Path.ofString head).toString :: rest
    let process : Process := ⟨world.started.length, arguments, behaviour, world.clock⟩
    let begun := world.withStarted (options.toLaunch arguments)
    let ending := world.clock + behaviour.duration
    let deadline := deadline world.clock options.limit
    let outcome := (run machine token options (head :: rest)).run world
    ∃ notice, IsNotice world.clock deadline (cancelTime machine token) notice ∧
      (Within ending deadline ∧ Within ending notice →
        outcome =
          (.ok ⟨arguments, behaviour.status, process.output, process.errors⟩,
            begun.movedTo machine ending)) ∧
      (∀ time ∈ notice, ¬(Within ending deadline ∧ Within ending notice) → Within time deadline →
        outcome =
          (.error (.stopped (.cancelledRunning process.program)),
            ((begun.movedTo machine time).withKilled process.number).withHalt
              (.cancelledRunning process.program))) ∧
      (¬(Within ending deadline ∧ Within ending notice) → (∀ time ∈ notice, ¬Within time deadline) →
        ∃ limit ∈ options.limit, ∃ time ∈ deadline,
          let note := Process.timeoutNote limit
          outcome =
            (.ok ⟨arguments, 124, process.output,
              if process.errors = "" then note else process.errors ++ "\n" ++ note⟩,
              ((begun.movedTo machine time).withKilled process.number).note .warning .process
                (note ++ ": " ++ Text.ShellWords.join arguments))) ∧
      ∀ polls ≥ enoughPolls process,
        (wait machine token options.limit process polls).run begun = outcome := by
  intro arguments process begun ending deadline outcome
  obtain ⟨notice, isNotice⟩ := exists_isNotice world.clock deadline (cancelTime machine token)
  have setting : Begun machine token options.limit process begun :=
    ⟨quiet, rfl, fun _ known => lt_of_deadline positive known, uncancelled, later⟩
  have ends (polls : Nat) (enough : enoughPolls process ≤ polls) :
      Ends machine options.limit process begun notice
        ((wait machine token options.limit process polls).run begun) :=
    wait_of_ready setting isNotice (ready_of_enoughPolls enough) fun _ _ _ less =>
      absurd less (Nat.not_lt_zero _)
  have launched : (launch machine token options (head :: rest)).run world = (.ok process, begun) :=
    launch_run (lookup_of_isAbsolute absolute rest) uncancelled permitted responds
  have ran : outcome =
      (wait machine token options.limit process (enoughPolls process)).run begun := by
    simp only [outcome, run, Action.run_bind, launched]
  have atEnd : process.endsAt = ending := by
    simp only [Process.endsAt, Behaviour.fromZero_eq_max, max_eq_right lasting, process, ending]
  have run_ends := ends (enoughPolls process) le_rfl
  rw [← ran] at run_ends
  refine ⟨notice, isNotice, ?_, ?_, ?_, fun polls enough => (ends polls enough).unique run_ends⟩
  · rintro ⟨inTime, unnoticed⟩
    have ended := run_ends.unique (.ended (atEnd ▸ inTime) (atEnd ▸ unnoticed))
    rwa [atEnd] at ended
  · intro time noticed notEnded inTime
    refine run_ends.unique (.stopped time noticed ?_)
    by_contra ended
    rw [atEnd, not_lt] at ended
    refine notEnded ⟨fun due known => ended.trans (inTime due known), fun other noticed' => ?_⟩
    rwa [← Option.some.inj (noticed.symm.trans noticed')]
  · intro notEnded tooLate
    have unnoticed : notice = none := by
      cases noticed : notice with
      | none => rfl
      | some time => exact absurd (isNotice.within noticed) (tooLate time noticed)
    have overdue : ¬Within ending deadline := by
      intro inTime
      exact notEnded ⟨inTime, by rw [unnoticed]; exact within_none ending⟩
    simp only [Within, not_forall, not_le] at overdue
    obtain ⟨time, known, running⟩ := overdue
    obtain ⟨bound, given⟩ : ∃ bound, options.limit = some bound := by
      cases given : options.limit with
      | none => simp [deadline, given, Command.deadline] at known
      | some bound => exact ⟨bound, rfl⟩
    exact ⟨bound, given, time, known,
      run_ends.unique (.expired bound time given known (atEnd ▸ running) unnoticed)⟩

def oneProgram (behaviour : Behaviour) (cancelledAt : Option Rat) : Machine where
  files := ⟨[(["bin", "tool"], .file ⟨[], true, false⟩)]⟩
  directory := "/"
  environment := []
  accountHome := "/"
  windows := false
  respond := fun _ => .ok behaviour
  cancelledAt
  finishOrder := []
  interruptedWait := none

theorem oneProgram_permit (behaviour : Behaviour) (cancelledAt : Option Rat) :
    permit (oneProgram behaviour cancelledAt) ⟨["/bin/tool"], none, none⟩ = .ok () := by
  have clear : obstacle? (oneProgram behaviour cancelledAt) ["", ""] "/bin/tool" = none :=
    (by decide +kernel : obstacle? (oneProgram {} none) ["", ""] "/bin/tool" = none)
  have plain : Machine.holdsNull "/bin/tool" = false := by decide +kernel
  have allowed : permitProgram (oneProgram behaviour cancelledAt) ["", ""]
      ⟨["/bin/tool"], none, none⟩ = .ok () :=
    permitProgram_eq_ok_iff.mpr ⟨"/bin/tool", List.mem_singleton_self _, clear⟩
  simp only [permit, List.any_cons, List.any_nil, plain, Bool.or_false, Bool.false_eq_true,
    if_false]
  exact allowed

/-- A quarter of a second is not enough for a program that takes a whole one. -/
theorem run_of_starts_overdue :
    ((run (oneProgram { duration := 1 } (some 5)) (some callerToken)
        { limit := some (.finite false 1 (-2)) } ["/bin/tool"]).run (World.initial false)).1 =
      .ok ⟨["/bin/tool"], 124, "", "Command timed out after 0.2s"⟩ := by
  have name : (Path.ofString "/bin/tool").toString = "/bin/tool" := by decide +kernel
  have limited : deadline 0 (some (.finite false 1 (-2))) = some (1 / 4) := by decide +kernel
  have due : cancelTime (oneProgram { duration := 1 } (some 5)) (some callerToken) = some 5 := by
    simp [cancelTime, oneProgram]
  have before : (World.initial false).clock < 5 := by
    change (0 : Rat) < 5
    norm_num
  have overdue := run_of_starts (oneProgram { duration := 1 } (some 5)) (some callerToken)
    { limit := some (.finite false 1 (-2)) } "/bin/tool" [] { duration := 1 } (World.initial false)
    (by decide +kernel) (name ▸ oneProgram_permit _ _) rfl rfl
    (by rw [due]; rintro time ⟨⟩; exact before) (by simp [Binary64.isPositive]) zero_le_one rfl
  obtain ⟨notice, isNotice, -, -, expired, -⟩ := overdue
  have late : ¬Within (0 + 1 : Rat) (deadline 0 (some (.finite false 1 (-2)))) := by
    rw [limited, within_some]
    norm_num
  have unnoticed : ∀ time ∈ notice, ¬Within time (deadline 0 (some (.finite false 1 (-2)))) := by
    intro time noticed inTime
    rw [limited, within_some] at inTime
    obtain ⟨number, -, -, bound, cancelled, seen⟩ := isNotice.mem noticed
    obtain rfl := Option.some.inj (due.symm.trans cancelled)
    linarith
  obtain ⟨limit, given, time, -, ran⟩ := expired (fun inTime => late inTime.1) unnoticed
  cases given
  refine (congrArg Prod.fst ran).trans ?_
  dsimp only
  decide +kernel

end CheckRouter.Command
