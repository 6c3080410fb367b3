import CheckRouter.Preflight

/-!
# What actions leave alone

An action `Keeps` an observation of the world if it is the same before and after, whatever else the
action does. What a command keeps depends only on whether the observation sees records, started
programs and the clock.
-/

namespace CheckRouter

variable {α β γ : Type} {observe : World → γ}

namespace Action

def Keeps (observe : World → γ) (action : Action α) : Prop :=
  ∀ world : World, observe (action.run world).2 = observe world

theorem keeps_pure (value : α) : Keeps observe (pure value) := fun _ => rfl

theorem keeps_throw (failure : Failure) : Keeps observe (throw failure : Action α) := fun _ => rfl

theorem keeps_lift (outcome : Except Failure α) : Keeps observe (liftM outcome : Action α) :=
  fun _ => rfl

theorem lift_bind (outcome : Except Failure α) (next : α → Except Failure β) :
    (liftM (outcome >>= next) : Action β) = liftM outcome >>= fun value => liftM (next value) := by
  cases outcome <;> rfl

theorem keeps_get : Keeps observe (get : Action World) := fun _ => rfl

theorem keeps_isCancelled (token : Option Token) : Keeps observe (isCancelled token) := by
  intro world
  rw [run_isCancelled]

theorem keeps_checkpoint (token : Option Token) : Keeps observe (checkpoint token) := by
  intro world
  rw [run_checkpoint]

theorem keeps_proceed {token : Option Token}
    (halted : ∀ (world : World) stop, observe (world.withHalt stop) = observe world) :
    Keeps observe (proceed token) := by
  intro world
  rw [run_proceed]
  split
  · exact halted world .byCaller
  · rfl

theorem Keeps.bind {action : Action α} {next : α → Action β} (first : Keeps observe action)
    (second : ∀ value, Keeps observe (next value)) : Keeps observe (action >>= next) := by
  intro world
  rw [run_bind]
  have before := first world
  cases ran : action.run world with
  | mk outcome after =>
    rw [ran] at before
    cases outcome with
    | ok value => exact (second value after).trans before
    | error failure => exact before

theorem Keeps.attempt {action : Action α} (keeps : Keeps observe action) :
    Keeps observe (attempt action) :=
  keeps

theorem Keeps.ite {condition : Prop} [Decidable condition] {action other : Action α}
    (one : Keeps observe action) (two : Keeps observe other) :
    Keeps observe (if condition then action else other) := by
  split
  · exact one
  · exact two

end Action

open CheckRouter.Action

/-- An observation that sees neither records nor notices. -/
structure Unnoting (observe : World → γ) : Prop where
  note : ∀ (world : World) level component text,
    observe (world.note level component text) = observe world
  notify : ∀ (world : World) (notice : Notice),
    observe { world with journal := world.journal ++ [.notice notice] } = observe world

/-- An observation that sees neither records nor notices, nor whether programs were killed or
commands stopped. -/
structure Silent (observe : World → γ) : Prop extends Unnoting observe where
  kill : ∀ (world : World) number, observe (world.withKilled number) = observe world
  halt : ∀ (world : World) stop, observe (world.withHalt stop) = observe world

/-- An observation that does not see programs being started. -/
def Unstarting (observe : World → γ) : Prop :=
  ∀ (world : World) launch, observe (world.withStarted launch) = observe world

/-- An observation that does not see the clock being moved. -/
def Timeless (machine : Machine) (observe : World → γ) : Prop :=
  ∀ (world : World) time, observe (world.movedTo machine time) = observe world

namespace Unnoting

variable (unnoting : Unnoting observe)
include unnoting

theorem keeps_record (level : Level) (component : Component) (text : String) :
    Keeps observe (record level component text) :=
  fun world => unnoting.note world level component text

theorem keeps_notify (notice : Notice) : Keeps observe (Action.notify notice) :=
  fun world => unnoting.notify world notice

end Unnoting

theorem Silent.keeps_kill (silent : Silent observe) (number : Nat) :
    Keeps observe (Action.kill number) :=
  fun world => silent.kill world number

theorem Silent.keeps_halt (silent : Silent observe) (stop : Stop) :
    Keeps observe (Action.halt stop : Action α) :=
  fun world => silent.halt world stop

theorem silent_clock : Silent World.clock where
  note := fun _ _ _ _ => rfl
  notify := fun _ _ => rfl
  kill := fun _ _ => rfl
  halt := fun _ _ => rfl

theorem silent_tokens : Silent World.tokens where
  note := fun _ _ _ _ => rfl
  notify := fun _ _ => rfl
  kill := fun _ _ => rfl
  halt := fun _ _ => rfl

theorem unstarting_clock : Unstarting World.clock := fun _ _ => rfl

theorem unstarting_tokens : Unstarting World.tokens := fun _ _ => rfl

/-! ## Commands -/

namespace Command

variable (machine : Machine) (token : Option Token) (options : Options) (command : List String)
  (limit : Option Binary64) (process : Process)

theorem keeps_start (unstarting : Unstarting observe) (launch : Launch) :
    Keeps observe (start machine launch) := by
  have noted : Keeps observe (noteStart launch) := fun world => unstarting world launch
  refine (keeps_lift _).bind fun _ => noted.bind fun number => ?_
  cases machine.respond launch with
  | error error => exact keeps_throw _
  | ok behaviour => exact keeps_get.bind fun world => keeps_pure _

theorem keeps_launch (silent : Silent observe) (unstarting : Unstarting observe) :
    Keeps observe (launch machine token options command) :=
  (keeps_lift _).bind fun _ =>
    (keeps_proceed silent.halt).bind fun _ => keeps_start machine unstarting _

theorem keeps_look (silent : Silent observe) : Keeps observe (look token limit process) := by
  refine (keeps_isCancelled token).bind fun cancelled => ?_
  cases cancelled with
  | true => exact (silent.keeps_kill process.number).bind fun _ => silent.keeps_halt _
  | false =>
    refine keeps_get.bind fun world => ?_
    dsimp only
    split
    · exact (silent.keeps_kill process.number).bind fun _ =>
        (silent.keeps_record _ _ _).bind fun _ => keeps_pure _
    · exact keeps_pure _

theorem keeps_meet (silent : Silent observe) (timeless : Timeless machine observe)
    (event : Event) : Keeps observe (meet machine process event) := by
  have moved (time : Rat) : Keeps observe (moveClock machine time) :=
    fun world => timeless world time
  cases event with
  | interrupted time =>
    exact (moved time).bind fun _ => (silent.keeps_kill process.number).bind fun _ =>
      silent.keeps_halt _
  | running time => exact (moved time).bind fun _ => keeps_pure _
  | ended time => exact (moved time).bind fun _ => keeps_pure _

theorem keeps_wait (silent : Silent observe) (timeless : Timeless machine observe) (polls : Nat) :
    Keeps observe (wait machine token limit process polls) := by
  induction polls with
  | zero =>
    have moved : Keeps observe (moveClock machine process.endsAt) :=
      fun world => timeless world process.endsAt
    exact moved.bind fun _ => keeps_pure _
  | succ polls ih =>
    refine Keeps.bind ?_ fun result => ?_
    · refine (keeps_look token limit process silent).bind fun seen => ?_
      cases seen with
      | inl completed => exact keeps_pure _
      | inr event => exact keeps_meet machine process silent timeless event
    · cases result with
      | some completed => exact keeps_pure _
      | none => exact ih

theorem keeps_run (silent : Silent observe) (unstarting : Unstarting observe)
    (timeless : Timeless machine observe) : Keeps observe (run machine token options command) :=
  (keeps_launch machine token options command silent unstarting).bind fun process =>
    keeps_wait machine token options.limit process silent timeless _

end Command

/-! ## Checkers -/

namespace Checker

variable (checker : Checker) (machine : Machine) (bucket : Bucket)

theorem keeps_begin (silent : Silent observe) (unstarting : Unstarting observe) :
    Keeps observe (checker.begin machine bucket) := by
  refine (keeps_lift _).bind fun prepared => (silent.keeps_record _ _ _).bind fun _ =>
    (Command.keeps_launch _ _ _ _ silent unstarting).attempt.bind fun outcome => ?_
  cases outcome with
  | ok process => exact keeps_pure process
  | error failure =>
    have fails : Keeps observe (do
        record .info .runner ("Command Line string: " ++ Text.ShellWords.join prepared.1)
        throw (.checkerFailed 127 failure.message prepared.1) : Action Command.Process) :=
      (silent.keeps_record _ _ _).bind fun _ => keeps_throw _
    exact .ite ((keeps_throw _).bind fun _ => fails) fails

theorem keeps_conclude (unnoting : Unnoting observe) (completed : Completed) (issues : List Issue) :
    Keeps observe (checker.conclude completed issues) := by
  have fails : Keeps observe
      (throw (.checkerFailed completed.status completed.errors completed.arguments) :
        Action (List Issue)) := keeps_throw _
  have notes : Keeps observe (do
      record .info .runner
        ("mypy returned " ++ toString completed.status ++ ", but also reported issues")
      return issues : Action (List Issue)) :=
    (unnoting.keeps_record _ _ _).bind fun _ => keeps_pure _
  refine .ite (keeps_pure _) (.ite (.ite ?_ ?_) notes)
  · exact (unnoting.keeps_notify _).bind fun _ => fails.bind fun _ => notes
  · exact fails.bind fun _ => notes

theorem keeps_issuesOf (unnoting : Unnoting observe) (completed : Completed) :
    Keeps observe (checker.issuesOf bucket completed) :=
  (keeps_lift _).bind fun issues => (unnoting.keeps_record _ _ _).bind fun _ =>
    keeps_conclude checker unnoting completed issues

theorem keeps_execute (silent : Silent observe) (unstarting : Unstarting observe)
    (timeless : Timeless machine observe) : Keeps observe (checker.execute machine bucket) := by
  refine Keeps.bind ?_ fun completed =>
    keeps_issuesOf checker bucket silent.toUnnoting completed
  exact (keeps_begin checker machine bucket silent unstarting).bind fun process =>
    Command.keeps_wait machine _ _ process silent timeless _

theorem keeps_judge (unnoting : Unnoting observe) (completed : Completed) :
    Keeps observe (judge completed) := by
  unfold judge
  dsimp only
  have ends : Keeps observe (if (!completed.ok) = true then do
      record .warning .runner ("mypy path check exited with " ++ toString completed.status)
      pure completed.ok
    else pure completed.ok) :=
    .ite ((unnoting.keeps_record _ _ _).bind fun _ => keeps_pure _) (keeps_pure _)
  have prints : Keeps observe (if (Text.strip completed.output != "") = true then do
      record .debug .runner ("mypy path check output: " ++ Text.strip completed.output)
      if (!completed.ok) = true then do
        record .warning .runner ("mypy path check exited with " ++ toString completed.status)
        pure completed.ok
      else pure completed.ok
    else if (!completed.ok) = true then do
      record .warning .runner ("mypy path check exited with " ++ toString completed.status)
      pure completed.ok
    else pure completed.ok) :=
    .ite ((unnoting.keeps_record _ _ _).bind fun _ => ends) ends
  exact .ite ((unnoting.keeps_record _ _ _).bind fun _ => (unnoting.keeps_record _ _ _).bind fun _ =>
    prints) prints

/-- The last part of a validation: what is made of the version query. -/
def weigh (command : List String) : Except Failure Completed → Action Bool
  | .ok completed => judge completed
  | .error failure => do
    if !failure.isRefusal then throw failure
    Action.record .info .runner ("Command Line string: " ++ Text.ShellWords.join command)
    Action.record .warning .runner ("Error while checking mypy path: " ++ failure.message)
    return false

theorem keeps_weigh (unnoting : Unnoting observe) (command : List String)
    (outcome : Except Failure Completed) : Keeps observe (weigh command outcome) := by
  cases outcome with
  | ok completed => exact keeps_judge unnoting completed
  | error failure =>
    have fails := (unnoting.keeps_record .info .runner
      ("Command Line string: " ++ Text.ShellWords.join command)).bind fun _ =>
        (unnoting.keeps_record .warning .runner
          ("Error while checking mypy path: " ++ failure.message)).bind fun _ => keeps_pure false
    exact .ite ((keeps_throw _).bind fun _ => fails) fails

/-- What a validation finds before it starts anything: no file, or a command to run. -/
inductive Examined
  | noFile (path : Path)
  | file (command : List String) (options : Command.Options)

/-- The first part of a validation, which only looks. -/
def examine (checker : Checker) (machine : Machine) (executable : String) :
    Except Failure Examined := do
  let path ← checker.settings.resolve machine executable
  if !(← machine.holdsFile path) then return .noFile path
  let words ← checker.launcher machine executable
  let environment ← environmentFor machine path
  return .file (words ++ ["-V"]) ⟨some checker.settings.projectRoot, some environment, none⟩

/-- The rest of a validation. -/
def inquire (checker : Checker) (machine : Machine) : Examined → Action Bool
  | .noFile path => do
    Action.record .warning .runner
      ("Error while checking mypy path " ++ path.toString ++ ": not exists or not a file path")
    return false
  | .file command options =>
    Action.attempt (Command.run machine checker.token options command) >>= weigh command

theorem validate_eq (checker : Checker) (machine : Machine) (executable : String) :
    checker.validate machine executable =
      if executable = "" then pure false
      else liftM (checker.examine machine executable) >>= checker.inquire machine := by
  unfold validate
  split
  · rfl
  · simp only [examine, lift_bind, bind_assoc]
    refine congrArg _ (funext fun path => congrArg _ (funext fun there => ?_))
    cases there with
    | false => rfl
    | true =>
      simp only [Bool.not_true, Bool.false_eq_true, if_false, lift_bind, bind_assoc]
      rfl

theorem keeps_validate (silent : Silent observe) (unstarting : Unstarting observe)
    (timeless : Timeless machine observe) (executable : String) :
    Keeps observe (checker.validate machine executable) := by
  rw [validate_eq]
  refine .ite (keeps_pure _) ((keeps_lift _).bind fun examined => ?_)
  cases examined with
  | noFile path => exact (silent.keeps_record _ _ _).bind fun _ => keeps_pure _
  | file command options =>
    exact (Command.keeps_run machine _ _ _ silent unstarting timeless).attempt.bind fun outcome =>
      keeps_weigh silent.toUnnoting command outcome

end Checker

/-! ## Questions -/

namespace Sandbox

/-- How the manager is run to be asked about a directory. -/
def manner (machine : Machine) (manager : Manager) (directory : Path) : Command.Options :=
  ⟨some directory, some (Variables.set "PIPENV_MAX_DEPTH" (toString manager.maxDepth)
    machine.environment), manager.limit⟩

/-- What is made of the end of a question. -/
def heard (machine : Machine) (directory : Path) (question : Question) :
    Except Failure Completed → Action (Option Path)
  | .ok completed => interpret machine directory question completed
  | .error failure =>
    if failure.isNotFound then do
      Action.record .debug .environment
        ("Skipping " ++ question.label ++ " lookup: " ++ failure.message)
      return none
    else if failure.isRefusal then do
      Action.record .warning .environment
        ("Error while locating " ++ question.label ++ " in " ++ directory.toString ++ ": " ++
          failure.message)
      return none
    else throw failure

theorem ask_eq (machine : Machine) (manager : Manager) (token : Option Token) (directory : Path)
    (question : Question) :
    ask machine manager token directory question =
      attempt (Command.run machine token (manner machine manager directory)
        [manager.command, question.option]) >>= heard machine directory question := by
  unfold ask
  dsimp only
  congr 1

end Sandbox

/-! ## Preflight and routing -/

section Noting

variable (machine : Machine) (unnoting : Unnoting observe)
include unnoting

theorem Preflight.keeps_searched : Keeps observe (searched machine) := by
  unfold searched
  split
  · exact (unnoting.keeps_record _ _ _).bind fun _ => keeps_pure _
  · exact (unnoting.keeps_record _ _ _).bind fun _ => keeps_pure _

theorem Preflight.keeps_executable (settings : Settings) :
    Keeps observe (executable machine settings) := by
  have search := keeps_searched machine unnoting
  refine .ite (keeps_pure _) ((keeps_lift _).bind fun interpreter => ?_)
  cases interpreter with
  | none => exact search
  | some interpreter =>
    refine (keeps_lift _).bind fun root => ?_
    cases root with
    | none => exact search
    | some root => exact (keeps_lift _).bind fun there => keeps_pure _

theorem Preflight.keeps_advise (settings : Settings) : Keeps observe (advise machine settings) := by
  refine (keeps_lift _).bind fun interpreter => ?_
  cases interpreter with
  | none => exact unnoting.keeps_notify _
  | some _ => exact unnoting.keeps_notify _

theorem Sandbox.keeps_located (directory : Path) (question : Question) (output : String) :
    Keeps observe (located machine directory question output) := by
  refine (keeps_lift _).bind fun found => ?_
  cases found with
  | none => exact (unnoting.keeps_record _ _ _).bind fun _ => keeps_pure _
  | some path => exact (unnoting.keeps_record _ _ _).bind fun _ => keeps_pure _

theorem Sandbox.keeps_interpret (directory : Path) (question : Question) (completed : Completed) :
    Keeps observe (interpret machine directory question completed) := by
  have note (text : String) : Keeps observe (record .info .environment text) :=
    unnoting.keeps_record _ _ _
  have reads := keeps_located machine unnoting directory question completed.output
  refine .ite ((note _).bind fun _ => (note _).bind fun _ => ?_) ?_
  · exact .ite ((note _).bind fun _ => keeps_pure _) reads
  · exact .ite ((note _).bind fun _ => keeps_pure _) reads

theorem Sandbox.keeps_heard (directory : Path) (question : Question)
    (outcome : Except Failure Completed) :
    Keeps observe (heard machine directory question outcome) := by
  cases outcome with
  | ok completed => exact keeps_interpret machine unnoting directory question completed
  | error failure =>
    refine .ite ?_ (.ite ?_ (keeps_throw _))
    · exact (unnoting.keeps_record _ _ _).bind fun _ => keeps_pure _
    · exact (unnoting.keeps_record _ _ _).bind fun _ => keeps_pure _

theorem Routing.keeps_executableFor (findings : Sandbox.Findings) (fallback : String) :
    Keeps observe (executableFor machine findings fallback) := by
  unfold executableFor
  split
  · exact keeps_pure _
  · exact (keeps_lift _).bind fun there =>
      .ite (keeps_pure _) ((unnoting.keeps_record _ _ _).bind fun _ => keeps_pure _)

end Noting

section Routing

variable (machine : Machine) (silent : Silent observe) (unstarting : Unstarting observe)
  (timeless : Timeless machine observe)
include silent unstarting timeless

theorem Preflight.keeps_check (checker : Checker) (notifies : Bool) :
    Keeps observe (check machine checker notifies) := by
  refine (keeps_executable machine silent.toUnnoting checker.settings).bind fun found => ?_
  have ends : Keeps observe (do
      if notifies then advise machine checker.settings
      return ⟨found, false⟩ : Action Availability) :=
    .ite ((keeps_advise machine silent.toUnnoting checker.settings).bind fun _ => keeps_pure _)
      (keeps_pure _)
  refine .ite ?_ ends
  refine (checker.keeps_validate machine silent unstarting timeless found).bind fun works => ?_
  exact .ite (keeps_pure _) ends

theorem Sandbox.keeps_ask (manager : Manager) (token : Option Token) (directory : Path)
    (question : Question) : Keeps observe (ask machine manager token directory question) := by
  rw [ask_eq]
  exact (Command.keeps_run machine _ _ _ silent unstarting timeless).attempt.bind fun outcome =>
    keeps_heard machine silent.toUnnoting directory question outcome

theorem Sandbox.keeps_probe (manager : Manager) (token : Option Token) (memo : Memo)
    (directory : Path) : Keeps observe (probe machine manager token memo directory) := by
  refine (keeps_lift _).bind fun resolved => ?_
  split
  · exact keeps_pure _
  · exact (keeps_ask machine silent unstarting timeless manager token resolved _).bind fun _ =>
      (keeps_ask machine silent unstarting timeless manager token resolved _).bind fun _ =>
        keeps_pure _

theorem Routing.keeps_resolve (router : Router) (memory : Memory) (directory : Path)
    (project : Toolchain) :
    Keeps observe (resolve machine router memory directory project) := by
  refine .ite (keeps_pure _) ?_
  split
  · exact keeps_pure _
  · exact (Sandbox.keeps_probe machine silent unstarting timeless _ _ _ _).bind fun found =>
      (keeps_executableFor machine silent.toUnnoting _ _).bind fun executable =>
        (keeps_lift _).bind fun configFile => keeps_pure _

theorem Routing.keeps_distribute (router : Router) (project : Toolchain) (memory : Memory)
    (buckets : List Bucket) (files : List String) :
    Keeps observe (distribute machine router project memory buckets files) := by
  induction files generalizing memory buckets with
  | nil => exact keeps_pure _
  | cons file rest ih =>
    have goesOn := (keeps_resolve machine silent unstarting timeless router memory
      (Path.ofString file).parent project).bind fun found => ih found.2 (insert found.1 file buckets)
    exact (keeps_lift _).bind fun there => .ite ((keeps_throw _).bind fun _ => goesOn) goesOn

theorem Routing.keeps_partition (router : Router) (project : Toolchain) (files : List String) :
    Keeps observe (partition machine router project files) := by
  refine (keeps_distribute machine silent unstarting timeless _ _ _ _ _).bind fun buckets => ?_
  exact .ite ((silent.keeps_record _ _ _).bind fun _ => keeps_pure _) (keeps_pure _)

end Routing

end CheckRouter
