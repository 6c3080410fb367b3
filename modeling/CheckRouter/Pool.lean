import CheckRouter.Checker

/-!
# Pools

A pool checks several buckets side by side. Its workers take the tasks, only so many at a time as
the settings allow, while its owner waits. The first failure stops the tasks that still run, through
a token of their own, and calls off those that nobody has taken. The issues come in the order of the
buckets, whatever the order in which they finish.

`Pool.step` tells which turns are possible in a state and what they do. A course is a list of turns
that are possible one after the other.
-/

namespace CheckRouter

structure Pool where
  machine : Machine
  checker : Checker
  caller : Token
  siblings : Token

namespace Pool

inductive Status
  | waiting
  /-- A worker has taken the task and done nothing for it yet. -/
  | taken
  /-- The checker has been started and nobody has looked after it yet. -/
  | launched (process : Command.Process)
  /-- The checker runs on up to an event, and for at most `polls` slices after that. -/
  | running (process : Command.Process) (polls : Nat) (event : Command.Event)
  /-- The checker has ended; its output is still to be read. -/
  | ended (completed : Completed)
  | finished (issues : List Issue)
  | failed (failure : Failure)
  /-- The task was called off before a worker took it. -/
  | dropped

namespace Status

def isBusy : Status → Bool
  | .taken | .launched _ | .running .. | .ended _ => true
  | _ => false

def isSettled : Status → Bool
  | .finished _ | .failed _ | .dropped => true
  | _ => false

def isFailed : Status → Bool
  | .failed _ => true
  | _ => false

def issues? : Status → Option (List Issue)
  | .finished issues => some issues
  | _ => none

def failure? : Status → Option Failure
  | .failed failure => some failure
  | _ => none

/-- The time at which a worker looks after its checker again: at once if it has only started it. -/
def wakesAt? : Status → Option Rat
  | .launched process => some process.startedAt
  | .running _ _ event => some event.time
  | _ => none

/-- What a step of a worker leaves of a task. -/
def ofOutcome : Except Failure Status → Status
  | .ok status => status
  | .error failure => .failed failure

def drop : Status → Status
  | .waiting => .dropped
  | status => status

end Status

structure Task where
  bucket : Bucket
  status : Status := .waiting

inductive Phase
  /-- Waits until all tasks are settled or one has failed. -/
  | watching
  | stopping
  /-- Has stopped the siblings and goes through the tasks of some numbers to call them off. -/
  | dropping (numbers : List Nat)
  | draining
  /-- Was interrupted while it waited and leaves once the workers are done. -/
  | leaving
  | ended (outcome : Except Failure (List Issue))

structure State where
  tasks : List Task
  phase : Phase := .watching
  world : World

namespace State

def issues (state : State) : List Issue :=
  (state.tasks.filterMap (·.status.issues?)).flatten

def failures (state : State) : List Failure := state.tasks.filterMap (·.status.failure?)

/-- The failure to report: the first that is not a stop, else the first. -/
def firstFailure? (state : State) : Option Failure :=
  state.failures.find? (!·.isStop) <|> state.failures.head?

def isSettled (state : State) : Bool := state.tasks.all (·.status.isSettled)

def busy (state : State) : Nat := state.tasks.countP (·.status.isBusy)

/-- Whether the workers are done: none is busy and, unless the waiting tasks are given up, all tasks
are settled. -/
def isLeft (state : State) (abandons : Bool) : Bool :=
  if abandons then state.busy = 0 else state.isSettled

/-- Whether the worker of a task can go on: there is room for one more task, or no other worker
wakes up before this one. -/
def mayGoOn (state : State) (jobs : Int) : Status → Bool
  | .waiting => state.busy < jobs
  | .taken | .launched _ | .ended _ => true
  | .running _ _ event =>
    state.tasks.all fun other => other.status.wakesAt?.all (event.time ≤ ·)
  | .finished _ | .failed _ | .dropped => false

end State

/-- Looks after a process for one more slice, if any is left. -/
def watch (pool : Pool) (process : Command.Process) : Nat → Action Status
  | 0 => do
    Action.moveClock pool.machine process.endsAt
    return .ended process.completed
  | polls + 1 => do
    match ← Command.look pool.checker.token pool.checker.settings.timeout process with
    | .inl completed => return .ended completed
    | .inr event => return .running process polls event

def work (pool : Pool) (bucket : Bucket) : Status → Action Status
  | .waiting => return .taken
  | .taken => return .launched (← pool.checker.begin pool.machine bucket)
  | .launched process => watch pool process (Command.enoughPolls process)
  | .running process polls event => do
    match ← Command.meet pool.machine process event with
    | some completed => return .ended completed
    | none => watch pool process polls
  | .ended completed => return .finished (← pool.checker.issuesOf bucket completed)
  | status => return status

def workOn (pool : Pool) (state : State) (number : Nat) (task : Task) : State :=
  let (outcome, world) := (pool.work task.bucket task.status).run state.world
  { state with tasks := state.tasks.set number { task with status := .ofOutcome outcome }, world }

def worker (pool : Pool) (state : State) (number : Nat) : Option State :=
  match state.tasks[number]? with
  | none => none
  | some task =>
    if state.mayGoOn pool.checker.settings.jobs task.status then
      some (pool.workOn state number task)
    else none

/-- The outcome when a task has failed. It counts as such only if the caller has not cancelled. -/
def verdict (pool : Pool) (state : State) : Failure :=
  if state.world.tokens.isCancelled pool.caller then .stopped .byCaller
  else state.firstFailure?.getD (.stopped .byCaller)

def owner (pool : Pool) (state : State) : Option State :=
  match state.phase with
  | .watching =>
    if state.tasks.any (·.status.isFailed) then some { state with phase := .stopping }
    else if state.isSettled then some { state with phase := .ended (.ok state.issues) }
    else none
  | .stopping =>
    some { state with
      phase := .dropping (List.range state.tasks.length)
      world := { state.world with tokens := state.world.tokens.cancel pool.siblings } }
  | .dropping (number :: rest) =>
    some { state with
      phase := .dropping rest
      tasks := state.tasks.modify number fun task => { task with status := task.status.drop } }
  | .dropping [] =>
    some { state with
      phase := .draining
      world := { state.world with waits := state.world.waits + 1 } }
  | .draining =>
    if state.isSettled then some { state with phase := .ended (.error (pool.verdict state)) }
    else none
  | .leaving =>
    if state.isLeft pool.machine.abandons then
      some { state with phase := .ended (.error (.stopped .scanInterrupted)) }
    else none
  | .ended _ => none

/-- An interrupt of the wait cancels the token of the caller. -/
def interrupt (pool : Pool) (state : State) : Option State :=
  match state.phase with
  | .watching | .draining =>
    some { state with
      phase := .leaving
      world := { state.world with tokens := state.world.tokens.cancel pool.caller } }
  | _ => none

def isOver (state : State) : Bool :=
  match state.phase with
  | .ended _ => true
  | _ => false

def step (pool : Pool) (state : State) (turn : Turn) : Option State :=
  if isOver state then none
  else
    match turn with
    | .worker number => pool.worker state number
    | .owner => pool.owner state
    | .cancel =>
      some { state with
        world := { state.world with tokens := state.world.tokens.cancel callerToken } }
    | .interrupt => pool.interrupt state

/-- The state after some turns, if each is possible when it comes. -/
def course (pool : Pool) (state : State) (turns : List Turn) : Option State :=
  turns.foldlM pool.step state

/-- The state after those of some turns that are possible when they come. -/
def play (pool : Pool) (state : State) (turns : List Turn) : State :=
  turns.foldl (fun state turn => (pool.step state turn).getD state) state

end Pool

end CheckRouter
