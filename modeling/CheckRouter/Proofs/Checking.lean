import CheckRouter.Proofs.Frame
import CheckRouter.Proofs.Lookups
import CheckRouter.Proofs.Waiting

/-!
# Checking a bucket

What the checker finds in a bucket does not depend on when it is run, only on whether it is stopped.
`Checker.alone` is the outcome for a bucket that nobody stops, and `execute_outcome` says that
`Checker.execute` comes to it.
-/

namespace CheckRouter

variable {α β : Type}

/-! ## Actions that take no time -/

structure World.Alike (world after : World) : Prop where
  clock : after.clock = world.clock
  tokens : after.tokens = world.tokens

theorem World.Alike.refl (world : World) : world.Alike world := ⟨rfl, rfl⟩

theorem World.Alike.isCancelled {world after : World} (alike : world.Alike after)
    (token : Option Token) :
    token.any after.tokens.isCancelled = token.any world.tokens.isCancelled := by
  rw [alike.tokens]

namespace Action

def Still (action : Action α) : Prop := ∀ world : World, world.Alike (action.run world).2

theorem still_of_keeps {action : Action α} (clock : Keeps World.clock action)
    (tokens : Keeps World.tokens action) : Still action :=
  fun world => ⟨clock world, tokens world⟩

end Action

open CheckRouter.Action

namespace Checker

theorem still_begin (checker : Checker) (machine : Machine) (bucket : Bucket) :
    Still (checker.begin machine bucket) :=
  still_of_keeps (checker.keeps_begin machine bucket silent_clock unstarting_clock)
    (checker.keeps_begin machine bucket silent_tokens unstarting_tokens)

end Checker

/-! ## Starting and reading -/

theorem Action.lift_ok_bind (value : α) (next : α → Action β) :
    ((liftM (.ok value : Except Failure α) : Action α) >>= next) = next value := rfl

namespace Command

variable {machine : Machine} {token : Option Token} {options : Options} {command : List String}
  {world : World}

/-- The arguments and the behaviour of the program of a command, if it can be started. -/
def opening (machine : Machine) (options : Options) (command : List String) :
    Except Failure (List String × Behaviour) := do
  let arguments ← lookup machine command
  permit machine (options.toLaunch arguments)
  match machine.respond (options.toLaunch arguments) with
  | .error error => throw (.system error (arguments.headD ""))
  | .ok behaviour => return (arguments, behaviour)

theorem opening_eq_ok {arguments : List String} {behaviour : Behaviour} :
    opening machine options command = .ok (arguments, behaviour) ↔
      lookup machine command = .ok arguments ∧
        permit machine (options.toLaunch arguments) = .ok () ∧
        machine.respond (options.toLaunch arguments) = .ok behaviour := by
  unfold opening
  cases lookup machine command with
  | error failure => simp [error_bind]
  | ok found =>
    simp only [ok_bind, Except.ok.injEq]
    constructor
    · intro opened
      cases permitted : permit machine (options.toLaunch found) with
      | error failure => rw [permitted] at opened; cases opened
      | ok _ =>
        rw [permitted, ok_bind] at opened
        cases responds : machine.respond (options.toLaunch found) with
        | error error => rw [responds] at opened; cases opened
        | ok given =>
          rw [responds] at opened
          cases opened
          exact ⟨rfl, permitted, responds⟩
    · rintro ⟨rfl, permitted, responds⟩
      rw [permitted, ok_bind, responds]
      rfl

def Process.begun (world : World) (started : List String × Behaviour) : Process :=
  ⟨world.started.length, started.1, started.2, world.clock⟩

theorem launch_outcome (machine : Machine) (token : Option Token) (options : Options)
    (command : List String) (world : World) :
    ((launch machine token options command).run world).1 =
        (opening machine options command).map (.begun world) ∨
      token.any world.tokens.isCancelled = true ∧
        ((launch machine token options command).run world).1 = .error (.stopped .byCaller) := by
  simp only [launch, opening, Action.run_bind, Action.run_lift]
  cases lookup machine command with
  | error failure => exact .inl rfl
  | ok arguments =>
    simp only [Action.run_proceed, ok_bind]
    cases cancelled : token.any world.tokens.isCancelled with
    | true => exact .inr ⟨rfl, rfl⟩
    | false =>
      left
      simp only [Bool.false_eq_true, if_false, start, Action.run_bind, Action.run_lift]
      cases permit machine (options.toLaunch arguments) with
      | error failure => rfl
      | ok _ =>
        simp only [Action.run_noteStart, ok_bind]
        cases machine.respond (options.toLaunch arguments) <;> rfl

/-- What is left of a process that nobody stops. -/
def Process.fate (process : Process) (limit : Option Binary64) : Completed :=
  match limit with
  | none => process.completed
  | some bound =>
    if (process.deadline limit).any (· < process.endsAt) then process.timedOut bound
    else process.completed

theorem deadline_eq_map (start : Rat) (limit : Option Binary64) :
    deadline start limit = (deadline 0 limit).map (start + ·) := by
  unfold deadline
  split <;> simp

theorem fate_congr {process other : Process} (arguments : process.arguments = other.arguments)
    (behaviour : process.behaviour = other.behaviour) (limit : Option Binary64) :
    process.fate limit = other.fate limit := by
  have late (process : Process) (bound : Binary64) :
      (process.deadline (some bound)).any (· < process.endsAt) =
        (deadline 0 (some bound)).any (· < Behaviour.fromZero process.behaviour.duration) := by
    rw [Process.deadline, deadline_eq_map, Option.any_map]
    congr 1
    funext time
    simp only [Process.endsAt, add_lt_add_iff_left]
  obtain ⟨number, words, given, start⟩ := process
  obtain ⟨number', words', given', start'⟩ := other
  cases arguments
  cases behaviour
  cases limit with
  | none => rfl
  | some bound =>
    simp only [Process.fate, late]
    rfl

theorem fate_of_inTime {limit : Option Binary64} {process : Process}
    (inTime : Within process.endsAt (process.deadline limit)) :
    process.fate limit = process.completed := by
  cases limit with
  | none => rfl
  | some bound =>
    have early : (process.deadline (some bound)).any (· < process.endsAt) = false := by
      rw [Option.any_eq_false]
      intro time known
      simpa using inTime time known
    simp [Process.fate, early]

theorem fate_of_late {bound : Binary64} {process : Process} {time : Rat}
    (known : process.deadline (some bound) = some time) (late : time < process.endsAt) :
    process.fate (some bound) = process.timedOut bound := by
  simp [Process.fate, known, late]

theorem Ends.fate {limit : Option Binary64} {process : Process} {begun : World}
    {result : Except Failure Completed × World}
    (ends : Ends machine limit process begun none result) :
    result.1 = .ok (process.fate limit) := by
  cases ends with
  | ended inTime => rw [fate_of_inTime inTime]
  | stopped time noticed => cases noticed
  | expired bound time given known running =>
    subst given
    rw [fate_of_late known running]

end Command

namespace Checker

open Command (Process)

variable {checker : Checker} {machine : Machine} {bucket : Bucket} {world : World}

theorem prepare_eq_ok {command : List String} {options : Command.Options} :
    checker.prepare machine bucket = .ok (command, options) ↔
      ∃ path extra environment, checker.settings.resolve machine bucket.executable = .ok path ∧
        checker.settings.arguments = .ok extra ∧ environmentFor machine path = .ok environment ∧
        command =
          [path.toString, "--show-column-numbers", "--follow-imports", "silent"] ++
            (if bucket.configFile = "" then [] else ["--config-file", bucket.configFile]) ++
            extra ++ bucket.files ∧
        options =
          ⟨some checker.settings.projectRoot, some environment, checker.settings.timeout⟩ := by
  unfold prepare
  cases words : checker.settings.arguments with
  | error failure => simp [error_bind]
  | ok extra =>
    rw [ok_bind]
    cases resolved : checker.settings.resolve machine bucket.executable with
    | error failure => simp [Checker.command, resolved, error_bind]
    | ok path =>
      simp only [Checker.command, environment, resolved, ok_bind]
      cases prepared : environmentFor machine path with
      | error failure => simp [prepared, pure, Except.pure, bind, Except.bind]
      | ok settled =>
        constructor
        · rintro ⟨⟩
          exact ⟨path, extra, settled, rfl, rfl, prepared, rfl, rfl⟩
        · rintro ⟨_, _, _, ⟨⟩, ⟨⟩, same, rfl, rfl⟩
          cases prepared.symm.trans same
          rfl

/-- The arguments and the behaviour of the checker of a bucket, if it can be started. -/
def opening (checker : Checker) (machine : Machine) (bucket : Bucket) :
    Except Failure (List String × Behaviour) := do
  let (command, options) ← checker.prepare machine bucket
  match Command.opening machine options command with
  | .ok started => return started
  | .error failure =>
    throw (if failure.isRefusal then .checkerFailed 127 failure.message command else failure)

theorem begin_outcome (checker : Checker) (machine : Machine) (bucket : Bucket) (world : World) :
    ((checker.begin machine bucket).run world).1 =
        (checker.opening machine bucket).map (.begun world) ∨
      checker.token.any world.tokens.isCancelled = true ∧
        ((checker.begin machine bucket).run world).1 = .error (.stopped .byCaller) := by
  simp only [begin, opening, Action.run_bind, Action.run_lift]
  cases checker.prepare machine bucket with
  | error failure => exact .inl rfl
  | ok prepared =>
    obtain ⟨command, options⟩ := prepared
    simp only [Action.run_record, Action.run_attempt, ok_bind]
    rcases Command.launch_outcome machine checker.token options command
        (world.note .info .runner ("Running command: " ++ Text.ShellWords.join command)) with
      opened | ⟨cancelled, stopped⟩
    · left
      rw [opened]
      cases Command.opening machine options command with
      | ok started => rfl
      | error failure =>
        simp only [Except.map]
        cases failure.isRefusal <;> rfl
    · right
      rw [stopped]
      exact ⟨cancelled, rfl⟩

def reading (completed : Completed) : Except Failure (List Issue) := do
  let issues ← Issue.ofOutput completed.output
  if !isNormal completed.status && issues.isEmpty then
    throw (.checkerFailed completed.status completed.errors completed.arguments)
  return issues

theorem issuesOf_outcome (checker : Checker) (bucket : Bucket) (completed : Completed)
    (world : World) :
    ((checker.issuesOf bucket completed).run world).1 = reading completed := by
  simp only [issuesOf, reading, conclude, Action.run_bind, Action.run_lift]
  cases Issue.ofOutput completed.output with
  | error failure => rfl
  | ok issues =>
    simp only [Action.run_record, ok_bind]
    cases isNormal completed.status <;> cases issues.isEmpty <;> cases checker.notifies <;> rfl

/-- The issues in a bucket whose check nobody stops. -/
def alone (checker : Checker) (machine : Machine) (bucket : Bucket) :
    Except Failure (List Issue) := do
  let started ← checker.opening machine bucket
  reading ((Process.begun (.initial false) started).fate checker.settings.timeout)

theorem opening_eq_ok {started : List String × Behaviour} :
    checker.opening machine bucket = .ok started ↔
      ∃ command options, checker.prepare machine bucket = .ok (command, options) ∧
        Command.opening machine options command = .ok started := by
  unfold opening
  cases checker.prepare machine bucket with
  | error failure => simp [error_bind]
  | ok prepared =>
    obtain ⟨command, options⟩ := prepared
    rw [ok_bind]
    constructor
    · intro opened
      refine ⟨command, options, rfl, ?_⟩
      cases begins : Command.opening machine options command with
      | error failure => simp only [begins] at opened; cases opened
      | ok other => simp only [begins] at opened; exact opened
    · rintro ⟨_, _, same, opened⟩
      cases same
      simp only [opened]
      rfl

end Checker

/-! ## Undisturbed checks -/

/-- Nobody cancels after some time and no wait for a program is interrupted. -/
structure Machine.Calm (machine : Machine) : Prop where
  uncancelled : machine.cancelledAt = none
  quiet : ∀ launch behaviour, machine.respond launch = .ok behaviour →
    behaviour.interruptedAfter = none

theorem Machine.Calm.timeless_tokens {machine : Machine} (calm : machine.Calm) :
    Timeless machine World.tokens := by
  intro world time
  simp [World.movedTo, calm.uncancelled]

namespace Checker

open Command (Process)

variable {checker : Checker} {machine : Machine} {bucket : Bucket} {world : World}

theorem keeps_tokens (checker : Checker) (machine : Machine) (calm : machine.Calm)
    (bucket : Bucket) : Action.Keeps World.tokens (checker.execute machine bucket) :=
  checker.keeps_execute machine bucket silent_tokens unstarting_tokens calm.timeless_tokens

theorem quiet_of_opening (calm : machine.Calm) {started : List String × Behaviour}
    (opened : checker.opening machine bucket = .ok started) :
    started.2.interruptedAfter = none := by
  obtain ⟨command, options, -, opened⟩ := opening_eq_ok.mp opened
  obtain ⟨-, -, responds⟩ := Command.opening_eq_ok.mp opened
  exact calm.quiet _ _ responds

section Wait

variable {token : Option Token} {limit : Option Binary64} (process : Process)

theorem wait_ends (calm : machine.Calm) (positive : ∀ bound ∈ limit, bound.isPositive = true)
    (quiet : process.behaviour.interruptedAfter = none)
    (clock : world.clock = process.startedAt)
    (uncancelled : token.any world.tokens.isCancelled = false) :
    Command.Ends machine limit process world none
      ((Command.wait machine token limit process (Command.enoughPolls process)).run world) := by
  have never : Command.cancelTime machine token = none := by
    simp [Command.cancelTime, calm.uncancelled]
  have setting : Command.Begun machine token limit process world :=
    { quiet, clock, uncancelled
      positive := fun _ known => Command.lt_of_deadline positive known
      later := by simp [never] }
  have unnoticed : Command.IsNotice process.startedAt (process.deadline limit)
      (Command.cancelTime machine token) none := by
    refine Set.eq_empty_of_forall_notMem ?_
    rintro time ⟨number, -, -, due, known, -⟩
    rw [never] at known
    cases known
  exact Command.wait_of_ready setting unnoticed (Command.ready_of_enoughPolls le_rfl)
    fun _ _ _ less => absurd less (Nat.not_lt_zero _)

theorem wait_outcome (calm : machine.Calm) (positive : ∀ bound ∈ limit, bound.isPositive = true)
    (quiet : process.behaviour.interruptedAfter = none)
    (clock : world.clock = process.startedAt)
    (uncancelled : token.any world.tokens.isCancelled = false) :
    ((Command.wait machine token limit process (Command.enoughPolls process)).run world).1 =
      .ok (process.fate limit) :=
  (wait_ends process calm positive quiet clock uncancelled).fate

end Wait

/-- A checker that nobody stops finds the same issues whenever it is run. -/
theorem execute_outcome (calm : machine.Calm)
    (uncancelled : checker.token.any world.tokens.isCancelled = false) :
    ((checker.execute machine bucket).run world).1 = checker.alone machine bucket := by
  have still := checker.still_begin machine bucket world
  have begins := (checker.begin_outcome machine bucket world).resolve_right (by simp [uncancelled])
  simp only [execute, run, alone, Action.run_bind]
  cases ran : (checker.begin machine bucket).run world with
  | mk outcome after =>
    rw [ran] at begins still
    simp only at begins still
    cases opened : checker.opening machine bucket with
    | error failure =>
      rw [opened] at begins
      subst begins
      rfl
    | ok started =>
      rw [opened] at begins
      subst begins
      have waited := wait_outcome (Process.begun world started) calm
        checker.settings.timeout_pos (quiet_of_opening calm opened) still.clock
        ((still.isCancelled checker.token).trans uncancelled)
      simp only [Except.map, ok_bind]
      cases waits : (Command.wait machine checker.token checker.settings.timeout
          (Process.begun world started) (Command.enoughPolls _)).run after with
      | mk result last =>
        rw [waits] at waited
        simp only at waited
        subst waited
        have same : (Process.begun world started).fate checker.settings.timeout =
            (Process.begun (.initial false) started).fate checker.settings.timeout := by
          apply Command.fate_congr <;> rfl
        rw [same]
        exact issuesOf_outcome checker bucket _ last

end Checker

end CheckRouter
