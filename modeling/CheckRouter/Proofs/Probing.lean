import CheckRouter.Proofs.Checking
import CheckRouter.Routing

/-!
# What a probe comes to

Asking the sandbox manager about a directory gives the same answer whenever it is asked, unless the
one who asks has been cancelled. So what a router has learnt about a directory is what it would
learn by asking afresh.
-/

namespace CheckRouter

variable {α β : Type}

/-! ## Outcomes that no world changes -/

namespace Action

/-- A run that has been stopped, with its token cancelled. -/
def Halted (token : Option Token) (result : Except Failure α × World) : Prop :=
  token.any result.2.tokens.isCancelled = true ∧ ∃ stop, result.1 = .error (.stopped stop)

theorem not_halted_none (result : Except Failure α × World) : ¬ Halted none result :=
  fun halted => Bool.false_ne_true halted.1

/-- An action that comes to an outcome in every world, unless it is halted. -/
def Comes (token : Option Token) (action : Action α) (outcome : Except Failure α) : Prop :=
  ∀ world, (action.run world).1 = outcome ∨ Halted token (action.run world)

def outcome (action : Action α) : Except Failure α := (action.run (.initial false)).1

/-- An action with a token whose outcome is the same for all tokens and in all worlds. -/
def Uniform (action : Option Token → Action α) : Prop :=
  ∀ token, Comes token (action token) (action none).outcome

section Comes

variable {token : Option Token} {action : Action α} {result : Except Failure α}

theorem Comes.of_run (runs : ∀ world, (action.run world).1 = result) : Comes token action result :=
  fun world => .inl (runs world)

theorem Comes.eq (comes : Comes none action result) (world : World) :
    (action.run world).1 = result :=
  (comes world).resolve_right (not_halted_none _)

theorem Comes.bind_of {next : α → Action β} {rest : Except Failure β}
    (first : Comes token action result)
    (fails : ∀ failure, result = .error failure → rest = .error failure)
    (second : ∀ value, result = .ok value → Comes token (next value) rest) :
    Comes token (action >>= next) rest := by
  intro world
  rw [run_bind]
  have before := first world
  cases ran : action.run world with
  | mk found after =>
    rw [ran] at before
    rcases before with same | ⟨cancelled, stop, stopped⟩
    · cases found with
      | ok value => exact second value same.symm after
      | error failure => exact .inl (fails failure same.symm).symm
    · cases stopped
      exact .inr ⟨cancelled, stop, rfl⟩

theorem Comes.bind_ok {value : α} {next : α → Action β} {rest : Except Failure β}
    (first : Comes token action (.ok value)) (second : Comes token (next value) rest) :
    Comes token (action >>= next) rest := by
  refine first.bind_of ?_ ?_
  · rintro failure ⟨⟩
  · rintro _ ⟨⟩
    exact second

theorem Comes.bind_error {failure : Failure} {next : α → Action β}
    (first : Comes token action (.error failure)) :
    Comes token (action >>= next) (.error failure) := by
  refine first.bind_of ?_ ?_
  · rintro _ ⟨⟩
    rfl
  · rintro _ ⟨⟩

theorem Comes.bind {next : α → Action β} {rest : α → Except Failure β}
    (first : Comes token action result) (second : ∀ value, Comes token (next value) (rest value)) :
    Comes token (action >>= next) (result >>= rest) := by
  refine first.bind_of ?_ ?_
  · rintro failure rfl
    rfl
  · rintro value rfl
    exact second value

theorem Comes.bind_pure (comes : Comes token action result) (f : α → β) :
    Comes token (action >>= fun value => pure (f value)) (result.map f) := by
  have mapped := comes.bind fun value => (Comes.of_run fun _ => rfl :
    Comes token (pure (f value)) (.ok (f value)))
  cases result with
  | ok value => exact mapped
  | error failure => exact mapped

/-- What follows an attempt may look at any failure, if it lets those through that stop it. -/
theorem Comes.attempt_bind {next : Except Failure α → Action β} {rest : Except Failure β}
    (first : Comes token action result)
    (passes : ∀ stop, next (.error (.stopped stop)) = throw (.stopped stop))
    (second : Comes token (next result) rest) :
    Comes token (attempt action >>= next) rest := by
  intro world
  simp only [run_bind, run_attempt]
  rcases first world with same | ⟨cancelled, stop, stopped⟩
  · rw [same]
    exact second _
  · rw [stopped, passes]
    exact .inr ⟨cancelled, stop, rfl⟩

end Comes

section Uniform

variable {action other : Option Token → Action α}

theorem Uniform.of_comes {result : Except Failure α}
    (comes : ∀ token, Comes token (action token) result) : Uniform action := by
  intro token
  rw [outcome, (comes none).eq]
  exact comes token

theorem uniform_pure (value : α) : Uniform fun _ => pure value :=
  .of_comes fun _ => .of_run fun _ => rfl

theorem uniform_throw (failure : Failure) : Uniform fun _ => (throw failure : Action α) :=
  .of_comes fun _ => .of_run fun _ => rfl

theorem uniform_lift (result : Except Failure α) : Uniform fun _ => (liftM result : Action α) :=
  .of_comes fun _ => .of_run fun _ => rfl

theorem uniform_record (level : Level) (component : Component) (text : String) :
    Uniform fun _ => record level component text :=
  .of_comes fun _ => .of_run fun _ => rfl

theorem Uniform.bind {next : Option Token → α → Action β} (first : Uniform action)
    (second : ∀ value, Uniform fun token => next token value) :
    Uniform fun token => action token >>= next token :=
  .of_comes fun token => (first token).bind fun value => second value token

theorem Uniform.ite {condition : Prop} [Decidable condition] (one : Uniform action)
    (two : Uniform other) :
    Uniform fun token => if condition then action token else other token := by
  by_cases holds : condition
  · simpa only [holds, if_true] using one
  · simpa only [holds, if_false] using two

theorem Uniform.attempt_bind {next : Except Failure α → Action β} (first : Uniform action)
    (passes : ∀ stop, next (.error (.stopped stop)) = throw (.stopped stop))
    (second : ∀ result, Uniform fun _ => next result) :
    Uniform fun token => attempt (action token) >>= next :=
  .of_comes fun token => (first token).attempt_bind passes (second _ token)

end Uniform

end Action

open CheckRouter.Action

/-! ## Processes at different times -/

namespace Command

variable {machine : Machine} {token : Option Token} {limit : Option Binary64} {delay : Rat}
  {process other : Process} {world reference : World}

def Event.delayed (delay : Rat) : Event → Event
  | .interrupted time => .interrupted (time + delay)
  | .running time => .running (time + delay)
  | .ended time => .ended (time + delay)

theorem sliceEnd_delayed (delay now : Rat) (deadline : Option Rat) :
    sliceEnd (now + delay) (deadline.map (· + delay)) = sliceEnd now deadline + delay := by
  cases deadline with
  | none => simp only [Option.map_none, sliceEnd, add_right_comm]
  | some time =>
    simp only [Option.map_some, sliceEnd, add_right_comm now delay, add_lt_add_iff_right]
    split <;> rfl

/-- A process that does the same as another one, started that much later. -/
structure Delayed (delay : Rat) (process other : Process) : Prop where
  arguments : process.arguments = other.arguments
  behaviour : process.behaviour = other.behaviour
  startedAt : process.startedAt = other.startedAt + delay

namespace Delayed

variable (delayed : Delayed delay process other)
include delayed

theorem endsAt : process.endsAt = other.endsAt + delay := by
  simp only [Process.endsAt, delayed.startedAt, delayed.behaviour, add_right_comm]

theorem interruptedAt : process.interruptedAt = other.interruptedAt.map (· + delay) := by
  simp only [Process.interruptedAt, delayed.startedAt, delayed.behaviour, Option.map_map]
  congr 1
  funext time
  exact add_right_comm _ _ _

theorem deadline (limit : Option Binary64) :
    process.deadline limit = (other.deadline limit).map (· + delay) := by
  rw [Process.deadline, Process.deadline, deadline_eq_map process.startedAt,
    deadline_eq_map other.startedAt, Option.map_map, delayed.startedAt]
  congr 1
  funext time
  exact add_right_comm _ _ _

theorem completed : process.completed = other.completed := by
  obtain ⟨number, arguments, behaviour, start⟩ := process
  obtain ⟨rfl, rfl, -⟩ := delayed
  rfl

theorem timedOut (bound : Binary64) : process.timedOut bound = other.timedOut bound := by
  obtain ⟨number, arguments, behaviour, start⟩ := process
  obtain ⟨rfl, rfl, -⟩ := delayed
  rfl

theorem program : process.program = other.program := by
  rw [Process.program, delayed.arguments, Process.program]

theorem eventBy (time : Rat) :
    process.eventBy (time + delay) = (other.eventBy time).delayed delay := by
  have due : process.interruptedAt.filter (· ≤ time + delay) =
      (other.interruptedAt.filter (· ≤ time)).map (· + delay) := by
    rw [delayed.interruptedAt, Option.filter_map]
    congr 2
    funext interrupt
    simp
  simp only [Process.eventBy, due, delayed.endsAt, add_lt_add_iff_right]
  cases other.interruptedAt.filter (· ≤ time) with
  | some interrupt => rfl
  | none =>
    simp only [Option.map_none]
    split <;> rfl

/-- Looks at the same time after the start see the same. -/
theorem look (limit : Option Binary64) (clock : world.clock = reference.clock + delay)
    (uncancelled : token.any world.tokens.isCancelled = false) :
    (∃ completed after referenceAfter,
      (look token limit process).run world = (.ok (.inl completed), after) ∧
        (Command.look none limit other).run reference = (.ok (.inl completed), referenceAfter)) ∨
      ∃ event, (Command.look token limit process).run world =
          (.ok (.inr (event.delayed delay)), world) ∧
        (Command.look none limit other).run reference = (.ok (.inr event), reference) := by
  have deadline := delayed.deadline limit
  by_cases early : ∀ time ∈ other.deadline limit, reference.clock < time
  · right
    have alsoEarly : ∀ time ∈ process.deadline limit, world.clock < time := by
      intro time known
      obtain ⟨due, also, rfl⟩ := Option.mem_map.mp (deadline ▸ known)
      rw [clock, add_lt_add_iff_right]
      exact early due also
    refine ⟨_, ?_, look_of_early rfl early⟩
    rw [look_of_early uncancelled alsoEarly, deadline, clock, sliceEnd_delayed, delayed.eventBy]
  · left
    push Not at early
    obtain ⟨time, known, due⟩ := early
    cases limit with
    | none => cases known
    | some bound =>
      have alsoKnown : process.deadline (some bound) = some (time + delay) := by
        rw [deadline, Option.mem_def.mp known, Option.map_some]
      have looked : (Command.look token (some bound) process).run world = _ :=
        look_of_due uncancelled alsoKnown (by rwa [clock, add_le_add_iff_right])
      rw [delayed.timedOut] at looked
      exact ⟨_, _, _, looked, look_of_due rfl known due⟩

theorem wait {polls : Nat} (clock : world.clock = reference.clock + delay) :
    ((wait machine token limit process polls).run world).1 =
        ((Command.wait machine none limit other polls).run reference).1 ∨
      Halted token ((Command.wait machine token limit process polls).run world) := by
  -- the clocks stay apart by the delay, since both are moved to the end of the same slice
  induction polls generalizing world reference with
  | zero => exact .inl (congrArg Except.ok delayed.completed)
  | succ polls ih =>
    cases uncancelled : token.any world.tokens.isCancelled with
    | true =>
      right
      rw [wait_of_failed (look_of_cancelled uncancelled)]
      exact ⟨uncancelled, _, rfl⟩
    | false =>
      obtain ⟨completed, after, referenceAfter, looked, also⟩ | ⟨event, looked, also⟩ :=
        delayed.look limit clock uncancelled
      · left
        rw [wait_of_over looked, wait_of_over also]
      · cases event with
        | interrupted time =>
          left
          rw [wait_of_interrupted looked, wait_of_interrupted also, delayed.program]
        | running time =>
          rw [wait_of_running looked, wait_of_running also]
          exact ih rfl
        | ended time =>
          left
          rw [wait_of_ended looked, wait_of_ended also, delayed.completed]

end Delayed

theorem uniform_run (machine : Machine) (options : Options) (command : List String) :
    Uniform fun token => run machine token options command := by
  have comes (token : Option Token) : Comes token (run machine token options command) (do
      let started ← opening machine options command
      let process := Process.begun (.initial false) started
      (wait machine none options.limit process (enoughPolls process)).outcome) := by
    intro world
    have begins := launch_outcome machine token options command world
    have clock := keeps_launch machine token options command silent_clock unstarting_clock world
    have tokens := keeps_launch machine token options command silent_tokens unstarting_tokens world
    rw [run, Action.run_bind]
    cases launched : (launch machine token options command).run world with
    | mk found after =>
      rw [launched] at begins clock tokens
      rcases begins with same | ⟨cancelled, stopped⟩
      · cases opened : opening machine options command with
        | error failure =>
          rw [opened] at same
          cases same
          exact .inl rfl
        | ok started =>
          rw [opened] at same
          cases same
          have delayed : Delayed world.clock (.begun world started)
              (.begun (.initial false) started) := ⟨rfl, rfl, (zero_add _).symm⟩
          exact delayed.wait (clock.trans (zero_add _).symm)
      · cases stopped
        exact .inr ⟨by rw [tokens]; exact cancelled, _, rfl⟩
  exact .of_comes comes

end Command

/-! ## Answers -/

namespace Sandbox

variable (machine : Machine) (manager : Manager) (directory : Path) (question : Question)

theorem uniform_located (output : String) :
    Uniform fun _ => located machine directory question output := by
  refine (uniform_lift _).bind fun found => ?_
  cases found with
  | none => exact (uniform_record _ _ _).bind fun _ => uniform_pure _
  | some path => exact (uniform_record _ _ _).bind fun _ => uniform_pure _

theorem uniform_interpret (completed : Completed) :
    Uniform fun _ => interpret machine directory question completed := by
  have note (text : String) : Uniform fun _ => record .info .environment text :=
    uniform_record _ _ _
  have reads := uniform_located machine directory question completed.output
  refine .ite ((note _).bind fun _ => (note _).bind fun _ => ?_) ?_
  · exact .ite ((note _).bind fun _ => uniform_pure _) reads
  · exact .ite ((note _).bind fun _ => uniform_pure _) reads

theorem uniform_ask : Uniform fun token => ask machine manager token directory question := by
  refine (Command.uniform_run machine _ _).attempt_bind (fun stop => rfl) fun result => ?_
  cases result with
  | ok completed => exact uniform_interpret machine directory question completed
  | error failure =>
    refine .ite ?_ (.ite ?_ (uniform_throw _))
    · exact (uniform_record _ _ _).bind fun _ => uniform_pure _
    · exact (uniform_record _ _ _).bind fun _ => uniform_pure _

/-- What the manager says about a resolved directory. -/
def consult : Except Failure Findings := do
  let environment ← (ask machine manager none directory .environment).outcome
  let project ← (ask machine manager none directory .project).outcome
  return ⟨environment, project⟩

theorem comes_consult (token : Option Token) (memo : Memo) :
    Comes token
      (do
        let environment ← ask machine manager token directory .environment
        let project ← ask machine manager token directory .project
        let findings : Findings := ⟨environment, project⟩
        return (findings, (directory, findings) :: memo))
      ((consult machine manager directory).map fun findings =>
        (findings, (directory, findings) :: memo)) := by
  have asked := (uniform_ask machine manager directory .environment token).bind
    fun environment => (uniform_ask machine manager directory .project token).bind_pure
      fun project =>
        let findings : Findings := ⟨environment, project⟩
        (findings, (directory, findings) :: memo)
  unfold consult
  cases environment : (ask machine manager none directory .environment).outcome with
  | error failure =>
    rw [environment] at asked
    exact asked
  | ok found =>
    rw [environment, ok_bind] at asked
    rw [ok_bind]
    cases project : (ask machine manager none directory .project).outcome with
    | error failure =>
      rw [project] at asked
      exact asked
    | ok also =>
      rw [project] at asked
      exact asked

/-- What the manager says about a directory if it has not been asked before. -/
def probed : Except Failure Findings := do
  consult machine manager (← machine.resolve directory)

/-- The memo holds what the manager would say. -/
def Memo.Sound (memo : Memo) : Prop :=
  ∀ directory findings, memo.lookup directory = some findings →
    consult machine manager directory = .ok findings

variable {machine manager directory}

theorem Memo.Sound.cons {memo : Memo} (sound : memo.Sound machine manager) {findings : Findings}
    (said : consult machine manager directory = .ok findings) :
    Memo.Sound machine manager ((directory, findings) :: memo) := by
  intro other given found
  rw [List.lookup_cons] at found
  split at found
  · next same =>
    cases found
    rw [beq_iff_eq.mp same, said]
  · exact sound other given found

/-- A probe finds what it would find with nothing in its memo, and adds no more than that to it. -/
theorem probe_of_sound {memo : Memo} (sound : memo.Sound machine manager) (token : Option Token)
    (directory : Path) :
    ∃ after : Memo, after.Sound machine manager ∧
      Comes token (probe machine manager token memo directory)
        ((probed machine manager directory).map (·, after)) := by
  unfold probe probed
  cases machine.resolve directory with
  | error failure => exact ⟨memo, sound, .of_run fun _ => rfl⟩
  | ok resolved =>
    simp only [ok_bind]
    cases known : memo.lookup resolved with
    | some findings =>
      refine ⟨memo, sound, .of_run fun world => ?_⟩
      simp only [sound resolved findings known, known, Action.run_bind, Action.run_lift,
        Action.run_pure, Except.map]
    | none =>
      have asked := comes_consult machine manager resolved token memo
      cases said : consult machine manager resolved with
      | error failure =>
        rw [said] at asked
        refine ⟨memo, sound, fun world => ?_⟩
        rw [Action.run_bind, Action.run_lift]
        simp only [known]
        exact asked world
      | ok findings =>
        rw [said] at asked
        refine ⟨_, sound.cons said, fun world => ?_⟩
        rw [Action.run_bind, Action.run_lift]
        simp only [known]
        exact asked world

end Sandbox

/-! ## Toolchains -/

namespace Routing

section Toolchain

variable (machine : Machine) (router : Router) (project : Toolchain)

theorem uniform_executableFor (findings : Sandbox.Findings) (fallback : String) :
    Uniform fun _ => executableFor machine findings fallback := by
  unfold executableFor
  cases findings.environment with
  | none => exact uniform_pure _
  | some root =>
    exact (uniform_lift _).bind fun there =>
      .ite (uniform_pure _) ((uniform_record _ _ _).bind fun _ => uniform_pure _)

/-- The toolchain that findings lead to. -/
def chosen (findings : Sandbox.Findings) : Except Failure Toolchain := do
  let executable ← (executableFor machine findings project.executable).outcome
  let configFile ← configFor machine findings project.configFile
  return ⟨executable, configFile⟩

theorem comes_chosen (token : Option Token) (findings : Sandbox.Findings)
    (kept : Toolchain → Memory) :
    Comes token
      (do
        let executable ← executableFor machine findings project.executable
        let configFile ← configFor machine findings project.configFile
        let toolchain : Toolchain := ⟨executable, configFile⟩
        return (toolchain, kept toolchain))
      ((chosen machine project findings).map fun toolchain => (toolchain, kept toolchain)) := by
  have set (executable : String) := (Comes.of_run fun _ => rfl : Comes token
      (liftM (configFor machine findings project.configFile))
      (configFor machine findings project.configFile)).bind_pure
    fun configFile =>
      let toolchain : Toolchain := ⟨executable, configFile⟩
      (toolchain, kept toolchain)
  have named := (uniform_executableFor machine findings project.executable token).bind set
  unfold chosen
  cases executable : (executableFor machine findings project.executable).outcome with
  | error failure =>
    rw [executable] at named
    exact named
  | ok name =>
    rw [executable] at named
    cases configured : configFor machine findings project.configFile with
    | error failure =>
      simp only [configured] at named ⊢
      exact named
    | ok configFile =>
      simp only [configured] at named ⊢
      exact named

/-- The toolchain of a directory for a router that has learnt nothing. -/
def toolchain (directory : Path) : Except Failure Toolchain :=
  if router.autodetect then do
    chosen machine project (← Sandbox.probed machine router.manager directory)
  else .ok project

structure Memory.Sound (memory : Memory) : Prop where
  memo : memory.memo.Sound machine router.manager
  cache : ∀ cache ∈ memory.cache, ∀ directory given, Cache.get? cache directory = some given →
    toolchain machine router project directory = .ok given

end Toolchain

variable {machine : Machine} {router : Router} {project : Toolchain} {memory : Memory}

theorem Memory.Sound.learn (sound : memory.Sound machine router project) {memo : Sandbox.Memo}
    (said : memo.Sound machine router.manager) {directory : Path} {given : Toolchain}
    (fresh : toolchain machine router project directory = .ok given) :
    Memory.Sound machine router project
      ⟨memo, memory.cache.map (Cache.put directory given)⟩ := by
  refine ⟨said, fun cache member other found known => ?_⟩
  obtain ⟨old, there, rfl⟩ := Option.mem_map.mp member
  rw [Cache.get?_put] at known
  split at known
  · next same =>
    cases known
    rw [same, fresh]
  · exact sound.cache old there other found known

theorem resolve_cached {directory : Path} {given : Toolchain} (auto : router.autodetect = true)
    (cached : memory.cache.bind (Cache.get? · directory) = some given) :
    resolve machine router memory directory project = pure (given, memory) := by
  simp only [resolve, auto, cached, Bool.not_true, Bool.false_eq_true, if_false]

theorem resolve_uncached {directory : Path} (auto : router.autodetect = true)
    (uncached : memory.cache.bind (Cache.get? · directory) = none) :
    resolve machine router memory directory project = (do
      let (findings, memo) ←
        Sandbox.probe machine router.manager router.token memory.memo directory
      let executable ← executableFor machine findings project.executable
      let configFile ← configFor machine findings project.configFile
      let toolchain : Toolchain := ⟨executable, configFile⟩
      return (toolchain, ⟨memo, memory.cache.map (Cache.put directory toolchain)⟩)) := by
  simp only [resolve, auto, uncached, Bool.not_true, Bool.false_eq_true, if_false]

/-- What a router has learnt changes no toolchain. -/
theorem resolve_of_sound (sound : memory.Sound machine router project) (directory : Path) :
    ∃ after : Memory, after.Sound machine router project ∧
      Comes router.token (resolve machine router memory directory project)
        ((toolchain machine router project directory).map (·, after)) := by
  cases auto : router.autodetect with
  | false =>
    refine ⟨memory, sound, .of_run fun world => ?_⟩
    simp only [resolve, toolchain, auto]
    rfl
  | true =>
    cases known : memory.cache.bind (Cache.get? · directory) with
    | some given =>
      obtain ⟨cache, there, found⟩ := Option.bind_eq_some_iff.mp known
      refine ⟨memory, sound, .of_run fun world => ?_⟩
      rw [sound.cache cache there directory given found, resolve_cached auto known]
      rfl
    | none =>
      obtain ⟨memo, said, probes⟩ := Sandbox.probe_of_sound sound.memo router.token directory
      have fresh : toolchain machine router project directory =
          Sandbox.probed machine router.manager directory >>= chosen machine project := by
        simp only [toolchain, auto, if_true]
      have comes : Comes router.token (resolve machine router memory directory project)
          ((Sandbox.probed machine router.manager directory).map (·, memo) >>= fun found =>
            (chosen machine project found.1).map fun toolchain =>
              (toolchain, ⟨found.2, memory.cache.map (Cache.put directory toolchain)⟩)) := by
        rw [resolve_uncached auto known]
        exact probes.bind fun found =>
          comes_chosen machine project router.token found.1 fun toolchain =>
            ⟨found.2, memory.cache.map (Cache.put directory toolchain)⟩
      rw [fresh]
      -- a failure on the way leaves nothing behind; else the toolchain of the directory is kept
      cases probed : Sandbox.probed machine router.manager directory with
      | error failure =>
        rw [probed] at comes
        exact ⟨memory, sound, comes⟩
      | ok findings =>
        rw [probed, ok_bind] at fresh
        rw [probed] at comes
        rw [ok_bind]
        cases given : chosen machine project findings with
        | error failure =>
          simp only [Except.map, ok_bind, given] at comes
          exact ⟨memory, sound, comes⟩
        | ok toolchain =>
          simp only [Except.map, ok_bind, given] at comes
          exact ⟨_, sound.learn said (fresh.trans given), comes⟩

end Routing

end CheckRouter
