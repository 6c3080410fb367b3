import CheckRouter.Proofs.Supervision
import CheckRouter.Scan

/-!
# Scans as sequences of commands

What a scan does to programs it does through commands, one after the other, as long as it checks its
buckets in turn. An action `Follows` a token if that is so and a command that is stopped is the last
thing it does: nothing turns the stop into an answer or into another failure.
-/

namespace CheckRouter

open CheckRouter.Action

/-- A command, and the world in which it is run. -/
structure Call where
  options : Command.Options
  command : List String
  before : World

def Call.result (machine : Machine) (token : Token) (call : Call) :
    Except Failure Completed × World :=
  (Command.run machine (some token) call.options call.command).run call.before

/-- Commands that lead from one world to another. Between them nothing happens to programs. -/
inductive Traced (machine : Machine) (token : Token) : World → List Call → World → Prop
  | done {world after : World} (same : after.deeds = world.deeds) :
      Traced machine token world [] after
  | call {world last : World} {call : Call} {rest : List Call}
      (same : call.before.deeds = world.deeds)
      (goesOn : Traced machine token (call.result machine token).2 rest last) :
      Traced machine token world (call :: rest) last

/-- A command that was stopped is the last one, and its stop is the outcome. -/
def Heeded {α : Type} (machine : Machine) (token : Token) (calls : List Call)
    (outcome : Except Failure α) : Prop :=
  ∀ front call back stop, calls = front ++ call :: back →
    (call.result machine token).1 = .error (.stopped stop) →
      back = [] ∧ outcome = .error (.stopped stop)

/-- No command was stopped between a world and a result, or one was, no program was started after
that, and its stop is the outcome. -/
def Obeys {α : Type} (world : World) (result : Except Failure α × World) : Prop :=
  result.2.halts = world.halts ∨ ∃ stop, result.1 = .error (.stopped stop) ∧
    result.2.halts = world.halts ++ [⟨stop, result.2.started.length⟩]

/-- An action that runs commands of some kind. -/
def Follows {α : Type} (machine : Machine) (token : Token) (kind : List String → Prop)
    (action : Action α) : Prop :=
  ∀ world, ∃ calls, Traced machine token world calls (action.run world).2 ∧
    Heeded machine token calls (action.run world).1 ∧ ∀ call ∈ calls, kind call.command

variable {α β : Type} {machine : Machine} {token : Token} {kind : List String → Prop}
  {world after last : World} {calls more : List Call} {call : Call}

namespace Traced

theorem of_same (traced : Traced machine token after calls last)
    (same : after.deeds = world.deeds) : Traced machine token world calls last := by
  cases traced with
  | done kept => exact .done (kept.trans same)
  | call kept goesOn => exact .call (kept.trans same) goesOn

theorem append (traced : Traced machine token world calls after)
    (others : Traced machine token after more last) :
    Traced machine token world (calls ++ more) last := by
  induction traced with
  | done same => exact others.of_same same
  | call same _ ih => exact .call same (ih others)

end Traced

namespace Heeded

theorem nil (outcome : Except Failure α) : Heeded machine token [] outcome := by
  intro front call back stop same
  simp at same

theorem passOn {outcome : Except Failure α} {other : Except Failure β}
    (heeded : Heeded machine token calls outcome)
    (passes : ∀ stop, outcome = .error (.stopped stop) → other = .error (.stopped stop)) :
    Heeded machine token calls other := by
  intro front call back stop split stopped
  obtain ⟨rfl, ended⟩ := heeded front call back stop split stopped
  exact ⟨rfl, passes stop ended⟩

theorem unstopped {value : α} (heeded : Heeded machine token calls (.ok value : Except Failure α)) :
    ∀ call ∈ calls, ∀ stop, (call.result machine token).1 ≠ .error (.stopped stop) := by
  intro call member stop stopped
  obtain ⟨front, back, same⟩ := List.append_of_mem member
  cases (heeded front call back stop same stopped).2

theorem tail {outcome : Except Failure α} (heeded : Heeded machine token (call :: calls) outcome) :
    Heeded machine token calls outcome :=
  fun front other back stop split stopped =>
    heeded (call :: front) other back stop (congrArg (call :: ·) split) stopped

theorem singleton {outcome : Except Failure α} (same : ∀ stop,
    (call.result machine token).1 = .error (.stopped stop) → outcome = .error (.stopped stop)) :
    Heeded machine token [call] outcome := by
  intro front other back stop split stopped
  obtain ⟨rfl, rfl, rfl⟩ : front = [] ∧ other = call ∧ back = [] := by
    cases front with
    | nil => simpa [eq_comm] using split
    | cons first rest => simp at split
  exact ⟨rfl, same stop stopped⟩

theorem append {outcome : Except Failure α} (heeded : Heeded machine token more outcome)
    (unstopped : ∀ call ∈ calls, ∀ stop, (call.result machine token).1 ≠ .error (.stopped stop)) :
    Heeded machine token (calls ++ more) outcome := by
  intro front call back stop split stopped
  rcases List.append_eq_append_iff.mp split with ⟨rest, rfl, same⟩ | ⟨rest, same, others⟩
  · exact heeded rest call back stop same stopped
  · cases rest with
    | nil => exact heeded [] call back stop others.symm stopped
    | cons first rest =>
      obtain ⟨rfl, -⟩ := List.cons.inj others
      exact absurd stopped (unstopped call (by simp [same]) stop)

end Heeded

/-! ## Programs of commands -/

theorem Call.supervised (machine : Machine) (token : Token) (call : Call) :
    Command.Supervised machine (some token) call.options call.command call.before
      (call.result machine token) :=
  Command.supervised machine (some token) call.options call.command call.before

/-- A command has started nothing, since it could not or was stopped before, or one program, at a
time when nobody had cancelled, and that one has been released. -/
inductive Call.Settled (machine : Machine) (token : Token) (first last : World) (call : Call) : Prop
  | unstarted (failure : Failure) (ordinary : failure.isStop = false)
      (same : call.result machine token = (.error failure, call.before))
  | forgone (cancelled : call.before.tokens.isCancelled token = true)
      (same : call.result machine token =
        (.error (.stopped .byCaller), call.before.withHalt .byCaller))
  | started (arguments : List String)
      (uncancelled : call.before.tokens.isCancelled token = false)
      (found : Command.lookup machine call.command = .ok arguments)
      (one : (call.result machine token).2.started.length = call.before.started.length + 1)
      (released : Released machine first last call.before.started.length
        (call.options.toLaunch arguments) call.before.clock (call.result machine token).1)

theorem Call.settled (machine : Machine) (token : Token) (call : Call) :
    call.before.Grows (call.result machine token).2 ∧
      call.Settled machine token call.before (call.result machine token).2 := by
  have supervised := call.supervised machine token
  generalize ran : call.result machine token = result at supervised ⊢
  cases supervised with
  | unstarted failure ordinary => exact ⟨.refl _, .unstarted failure ordinary ran⟩
  | forgone cancelled => exact ⟨((World.Passes.refl _).withHalt _).grows, .forgone cancelled ran⟩
  | started arguments told after uncancelled found grows one remembers released =>
    refine ⟨grows, .started arguments uncancelled found ?_ ?_⟩
    · rw [ran]
      exact one
    · rw [ran]
      exact released

/-- A command that is stopped is remembered, and no other. -/
theorem Call.remembers (machine : Machine) (token : Token) (call : Call) :
    call.before.Remembers (call.result machine token) := by
  have supervised := call.supervised machine token
  generalize call.result machine token = result at supervised ⊢
  cases supervised with
  | unstarted failure ordinary => exact World.remembers_of_ordinary ordinary rfl
  | forgone cancelled => rfl
  | started arguments told after uncancelled found grows one remembers released => exact remembers

theorem Call.Settled.mono {first : World} (settled : call.Settled machine token world after)
    (earlier : first.Grows world) (later : after.Grows last) :
    call.Settled machine token first last := by
  cases settled with
  | unstarted failure ordinary same => exact .unstarted failure ordinary same
  | forgone cancelled same => exact .forgone cancelled same
  | started arguments uncancelled found one released =>
    exact .started arguments uncancelled found one ((released.later later).earlier earlier)

namespace Traced

theorem grows (traced : Traced machine token world calls last) : world.Grows last := by
  induction traced with
  | done same => exact (World.Passes.of_deeds same).grows
  | @call world last call rest same goesOn ih =>
    exact ((World.Passes.of_deeds same).grows.trans (call.settled machine token).1).trans ih

theorem settled (traced : Traced machine token world calls last) :
    ∀ call ∈ calls, call.Settled machine token world last := by
  induction traced with
  | done same => simp
  | @call world last call rest same goesOn ih =>
    obtain ⟨grows, settled⟩ := call.settled machine token
    have before := (World.Passes.of_deeds same).grows
    intro other member
    rcases List.mem_cons.mp member with rfl | member
    · exact settled.mono before goesOn.grows
    · exact (ih other member).mono (before.trans grows) (.refl _)

/-- Every program that was started is that of one of the commands. -/
theorem released (traced : Traced machine token world calls last) {number : Nat}
    (new : world.started.length ≤ number) (there : number < last.started.length) :
    ∃ launch start told, Released machine world last number launch start told := by
  induction traced with
  | @done world last same =>
    rw [(World.Passes.of_deeds same).started] at there
    omega
  | @call world last call rest same goesOn ih =>
    have passes := World.Passes.of_deeds same
    obtain ⟨grows, settled⟩ := call.settled machine token
    by_cases mine : number < (call.result machine token).2.started.length
    · rw [← passes.started] at new
      cases settled with
      | unstarted failure ordinary failed =>
        rw [failed] at mine
        exact absurd mine (Nat.not_lt_of_le new)
      | forgone cancelled stopped =>
        rw [stopped] at mine
        exact absurd mine (Nat.not_lt_of_le new)
      | started arguments uncancelled found one released =>
        obtain rfl : number = call.before.started.length := by omega
        exact ⟨_, _, _, (released.later goesOn.grows).earlier passes.grows⟩
    · obtain ⟨launch, start, told, released⟩ := ih (Nat.le_of_not_lt mine) there
      exact ⟨launch, start, told, released.earlier (passes.grows.trans grows)⟩

/-- What a stopped command leaves is remembered at the end, with the number of programs started up to
then. -/
theorem obeys {outcome : Except Failure α} (traced : Traced machine token world calls last)
    (heeded : Heeded machine token calls outcome) : Obeys world (outcome, last) := by
  induction traced with
  | done same => exact .inl (World.halts_of_deeds same)
  | @call world last call rest same goesOn ih =>
    have before := World.halts_of_deeds same
    have remembers := call.remembers machine token
    by_cases halted : ∃ stop, (call.result machine token).1 = .error (.stopped stop)
    · obtain ⟨stop, halted⟩ := halted
      obtain ⟨rfl, rfl⟩ := heeded [] call rest stop rfl halted
      cases goesOn with
      | done kept =>
        have after := World.Passes.of_deeds kept
        refine .inr ⟨stop, rfl, ?_⟩
        rw [World.halts_of_deeds kept, after.started, remembers, before, halted]
        rfl
    · have silent : (call.result machine token).2.halts = world.halts := by
        rw [remembers, World.haltOf_of_unstopped (not_exists.mp halted), List.append_nil, before]
      exact (ih heeded.tail).imp (·.trans silent) fun ⟨stop, ended, more⟩ =>
        ⟨stop, ended, by rw [more, silent]⟩

theorem halts_of_unstopped (traced : Traced machine token world calls last)
    (unstopped : ∀ call ∈ calls, ∀ stop, (call.result machine token).1 ≠ .error (.stopped stop)) :
    last.halts = world.halts := by
  have heeded : Heeded machine token calls (.ok () : Except Failure Unit) := by
    intro front call back stop split stopped
    exact absurd stopped (unstopped call (by simp [split]) stop)
  exact (traced.obeys heeded).resolve_right (by simp)

theorem launches (traced : Traced machine token world calls last) :
    ∃ more, last.launches = world.launches ++ more ∧ ∀ launch ∈ more, ∃ call ∈ calls, ∃ arguments,
      Command.lookup machine call.command = .ok arguments ∧
        launch = call.options.toLaunch arguments := by
  induction traced with
  | done same =>
    refine ⟨[], ?_, by simp⟩
    rw [World.launches, (World.Passes.of_deeds same).started, List.append_nil, World.launches]
  | @call world last call rest same goesOn ih =>
    obtain ⟨part, started, each⟩ :=
      Command.run_launches machine (some token) call.options call.command call.before
    obtain ⟨more, later, others⟩ := ih
    have before : call.before.launches = world.launches :=
      congrArg (List.map Started.launch) (World.Passes.of_deeds same).started
    refine ⟨part.toList ++ more, ?_, fun launch member => ?_⟩
    · rw [later, Call.result, started, before, List.append_assoc]
    · rcases List.mem_append.mp member with there | there
      · obtain ⟨arguments, found⟩ := each launch (Option.mem_toList.mp there)
        exact ⟨call, List.mem_cons_self, arguments, found⟩
      · obtain ⟨other, made, found⟩ := others launch there
        exact ⟨other, List.mem_cons_of_mem _ made, found⟩

end Traced

/-! ## Actions that follow a token -/

namespace Follows

theorem of_keeps {action : Action α} (keeps : Keeps World.deeds action) :
    Follows machine token kind action :=
  fun world => ⟨[], .done (keeps world), .nil _, by simp⟩

theorem bind {action : Action α} {next : α → Action β} (first : Follows machine token kind action)
    (second : ∀ value, Follows machine token kind (next value)) :
    Follows machine token kind (action >>= next) := by
  intro world
  obtain ⟨calls, traced, heeded, kinds⟩ := first world
  rw [run_bind]
  cases ran : action.run world with
  | mk outcome after =>
    rw [ran] at traced heeded
    cases outcome with
    | ok value =>
      obtain ⟨more, others, heeds, also⟩ := second value after
      refine ⟨calls ++ more, traced.append others, heeds.append heeded.unstopped, ?_⟩
      intro call member
      exact (List.mem_append.mp member).elim (kinds call) (also call)
    | error failure =>
      refine ⟨calls, traced, fun front call back stop split stopped => ?_, kinds⟩
      obtain ⟨rfl, same⟩ := heeded front call back stop split stopped
      cases same
      exact ⟨rfl, rfl⟩

theorem lift_bind {outcome : Except Failure α} {next : α → Action β}
    (second : ∀ value, outcome = .ok value → Follows machine token kind (next value)) :
    Follows machine token kind ((liftM outcome : Action α) >>= next) := by
  cases outcome with
  | error failure => exact .of_keeps (keeps_throw failure)
  | ok value => exact second value rfl

theorem ite {condition : Prop} [Decidable condition] {action other : Action α}
    (one : Follows machine token kind action) (two : Follows machine token kind other) :
    Follows machine token kind (if condition then action else other) := by
  split
  · exact one
  · exact two

/-- Whoever runs a command has to pass on that it was stopped. -/
theorem command (options : Command.Options) (command : List String) (allowed : kind command)
    {next : Except Failure Completed → Action α}
    (goesOn : ∀ outcome, Follows machine token kind (next outcome))
    (stopped : ∀ stop, next (.error (.stopped stop)) = throw (.stopped stop)) :
    Follows machine token kind
      (attempt (Command.run machine (some token) options command) >>= next) := by
  intro world
  let call : Call := ⟨options, command, world⟩
  have ran : (attempt (Command.run machine (some token) options command) >>= next).run world =
      (next (call.result machine token).1).run (call.result machine token).2 := by
    rw [run_bind, run_attempt]
    rfl
  rw [ran]
  by_cases halted : ∃ stop, (call.result machine token).1 = .error (.stopped stop)
  · obtain ⟨stop, halted⟩ := halted
    rw [halted, stopped stop]
    refine ⟨[call], .call rfl (.done rfl), .singleton fun other same => ?_, by simpa using allowed⟩
    rw [halted] at same
    cases same
    rfl
  · obtain ⟨calls, traced, heeded, kinds⟩ :=
      goesOn (call.result machine token).1 (call.result machine token).2
    have unstopped : ∀ other ∈ [call], ∀ stop,
        (other.result machine token).1 ≠ .error (.stopped stop) := by
      simpa using halted
    exact ⟨call :: calls, .call rfl traced, heeded.append unstopped,
      List.forall_mem_cons.mpr ⟨allowed, kinds⟩⟩

end Follows

/-- The programs that such an action starts are those of its commands. -/
theorem Follows.launches {action : Action α} (follows : Follows machine token kind action)
    (world : World) :
    ∃ more, (action.run world).2.launches = world.launches ++ more ∧
      ∀ launch ∈ more, ∃ command arguments, kind command ∧
        Command.lookup machine command = .ok arguments ∧ launch.arguments = arguments := by
  obtain ⟨calls, traced, -, kinds⟩ := follows world
  obtain ⟨more, same, each⟩ := traced.launches
  refine ⟨more, same, fun launch member => ?_⟩
  obtain ⟨call, made, arguments, found, rfl⟩ := each launch member
  exact ⟨call.command, arguments, kinds call made, found, rfl⟩

/-- A command that is too short for the check of a bucket: a question for a version, or for what
governs a directory. -/
def Brief (command : List String) : Prop := command.length ≤ 3

theorem Follows.launches_of_brief {action : Action α} (follows : Follows machine token Brief action)
    (world : World) :
    ∃ more, (action.run world).2.launches = world.launches ++ more ∧
      ∀ launch ∈ more, Brief launch.arguments := by
  obtain ⟨more, same, each⟩ := follows.launches world
  refine ⟨more, same, fun launch member => ?_⟩
  obtain ⟨command, arguments, brief, found, rfl⟩ := each launch member
  have tails := congrArg List.length (Command.tail_lookup found)
  simp only [List.length_tail] at tails
  unfold Brief at brief ⊢
  omega

/-! ## Checkers -/

namespace Checker

variable {checker : Checker}

/-- A refusal becomes a failure of the checker, and whatever else a command fails with stays. -/
def reworded (command : List String) : Except Failure Completed → Action Completed
  | .ok completed => return completed
  | .error failure => do
    if !failure.isRefusal then throw failure
    Action.record .info .runner ("Command Line string: " ++ Text.ShellWords.join command)
    throw (.checkerFailed 127 failure.message command)

theorem limit_of_prepare {bucket : Bucket} {command : List String} {options : Command.Options}
    (prepared : checker.prepare machine bucket = .ok (command, options)) :
    options.limit = checker.settings.timeout := by
  obtain ⟨path, extra, environment, -, -, -, -, rfl⟩ := prepare_eq_ok.mp prepared
  rfl

/-- The program of a bucket is run by a command. -/
theorem run_eq (checker : Checker) (machine : Machine) (bucket : Bucket) :
    checker.run machine bucket = (do
      let (command, options) ← checker.prepare machine bucket
      Action.record .info .runner ("Running command: " ++ Text.ShellWords.join command)
      reworded command (← attempt (Command.run machine checker.token options command))) := by
  funext world
  show (checker.run machine bucket).run world = Action.run _ world
  simp only [run, begin, run_bind, run_lift]
  cases prepared : checker.prepare machine bucket with
  | error failure => rfl
  | ok result =>
    obtain ⟨command, options⟩ := result
    simp only [run_record, run_attempt, Command.run, run_bind, limit_of_prepare prepared]
    have begins := Command.launched machine checker.token options command
      (world.note .info .runner ("Running command: " ++ Text.ShellWords.join command))
    generalize (Command.launch machine checker.token options command).run _ = ran at begins ⊢
    cases begins with
    | unstarted failure ordinary =>
      simp only [reworded]
      cases failure.isRefusal <;> rfl
    | stopped cancelled => rfl
    | refused arguments error uncancelled found responds => rfl
    | started arguments behaviour uncancelled found responds =>
      simp only [run_pure]
      let noted := world.note .info .runner ("Running command: " ++ Text.ShellWords.join command)
      let process : Command.Process := .begun noted (arguments, behaviour)
      have ends : Command.Waited process _ ((Command.wait machine checker.token
          checker.settings.timeout process (Command.enoughPolls process)).run _) :=
        Command.waited_of_begun noted (options.toLaunch arguments) (arguments, behaviour) _
      generalize (Command.wait machine checker.token _ process _).run _ = ran at ends ⊢
      cases ends with
      | collected after passes silent ended => rfl
      | stopped stop after passes told => rfl
      | expired bound after passes silent => rfl

theorem follows_run (checker : Checker) (watched : checker.token = some token) (bucket : Bucket) :
    Follows machine token (fun _ => True) (checker.run machine bucket) := by
  rw [run_eq, watched]
  refine Follows.bind (.of_keeps (keeps_lift _)) fun prepared => ?_
  refine Follows.bind (.of_keeps (unnoting_deeds.keeps_record _ _ _)) fun _ => ?_
  refine Follows.command _ _ trivial (fun outcome => ?_) fun stop => rfl
  cases outcome with
  | ok completed => exact .of_keeps (keeps_pure _)
  | error failure =>
    have rewords : Keeps World.deeds (do
        Action.record .info .runner ("Command Line string: " ++ Text.ShellWords.join prepared.1)
        throw (.checkerFailed 127 failure.message prepared.1) : Action Completed) :=
      (unnoting_deeds.keeps_record _ _ _).bind fun _ => keeps_throw _
    exact .of_keeps (.ite ((keeps_throw _).bind fun _ => rewords) rewords)

theorem follows_execute (checker : Checker) (watched : checker.token = some token)
    (bucket : Bucket) : Follows machine token (fun _ => True) (checker.execute machine bucket) :=
  (checker.follows_run watched bucket).bind fun completed =>
    .of_keeps (checker.keeps_issuesOf bucket unnoting_deeds completed)

theorem length_launcher {words : List String} {executable : String}
    (worded : checker.launcher machine executable = .ok words) : words.length ≤ 2 := by
  cases resolved : checker.settings.resolve machine executable with
  | error failure =>
    rw [launcher, resolved] at worded
    cases worded
  | ok path =>
    obtain ⟨failure, -, fails⟩ | ⟨before, beside, launches⟩ := launcher_of_resolve resolved
    · cases worded.symm.trans fails
    cases worded.symm.trans launches
    rcases beside with rfl | ⟨rfl, -⟩
    · exact Nat.le_succ 1
    · exact Nat.le_refl 2

theorem follows_validate (checker : Checker) (watched : checker.token = some token)
    (executable : String) : Follows machine token Brief (checker.validate machine executable) := by
  rw [validate_eq]
  refine Follows.ite (.of_keeps (keeps_pure _)) (Follows.lift_bind fun examined found => ?_)
  cases examined with
  | noFile path =>
    exact .of_keeps ((unnoting_deeds.keeps_record _ _ _).bind fun _ => keeps_pure _)
  | file command options =>
    obtain ⟨path, words, environment, -, -, worded, -, rfl, -⟩ := examine_eq_file.mp found
    have brief : Brief (words ++ ["-V"]) := by
      rw [Brief, List.length_append]
      exact Nat.add_le_add_right (length_launcher worded) 1
    rw [inquire, watched]
    refine Follows.command _ _ brief (fun outcome => ?_) fun stop => rfl
    exact .of_keeps (keeps_weigh unnoting_deeds (words ++ ["-V"]) outcome)

end Checker

/-! ## Preparations -/

theorem Preflight.follows_check {checker : Checker} (watched : checker.token = some token)
    (notifies : Bool) : Follows machine token Brief (check machine checker notifies) := by
  have ends (found : String) : Keeps World.deeds (do
      if notifies then advise machine checker.settings
      return ⟨found, false⟩ : Action Availability) :=
    .ite ((keeps_advise machine unnoting_deeds checker.settings).bind fun _ => keeps_pure _)
      (keeps_pure _)
  refine Follows.bind (.of_keeps (keeps_executable machine unnoting_deeds _)) fun found => ?_
  refine Follows.ite ?_ (.of_keeps (ends found))
  refine (checker.follows_validate watched found).bind fun works => ?_
  exact .ite (.of_keeps (keeps_pure _)) (.of_keeps (ends found))

theorem Sandbox.follows_ask (manager : Manager) (directory : Path) (question : Question) :
    Follows machine token Brief (ask machine manager (some token) directory question) := by
  have brief : Brief [manager.command, question.option] := Nat.le_succ 2
  rw [ask_eq]
  exact Follows.command _ _ brief
    (fun outcome => .of_keeps (keeps_heard machine unnoting_deeds directory question outcome))
    fun stop => rfl

theorem Sandbox.follows_probe (manager : Manager) (memo : Memo) (directory : Path) :
    Follows machine token Brief (probe machine manager (some token) memo directory) := by
  refine Follows.bind (.of_keeps (keeps_lift _)) fun resolved => ?_
  split
  · exact .of_keeps (keeps_pure _)
  · exact (follows_ask manager resolved .environment).bind fun _ =>
      (follows_ask manager resolved .project).bind fun _ => .of_keeps (keeps_pure _)

namespace Routing

variable {router : Router} (watched : router.token = some token)
include watched

theorem follows_resolve (memory : Memory) (directory : Path) (project : Toolchain) :
    Follows machine token Brief (resolve machine router memory directory project) := by
  apply Follows.ite (.of_keeps (keeps_pure _))
  split
  · exact .of_keeps (keeps_pure _)
  · rw [watched]
    refine (Sandbox.follows_probe router.manager memory.memo directory).bind fun found => ?_
    exact .of_keeps ((keeps_executableFor machine unnoting_deeds found.1 project.executable).bind
      fun _ => (keeps_lift _).bind fun _ => keeps_pure _)

theorem follows_distribute (project : Toolchain) (memory : Memory) (buckets : List Bucket)
    (files : List String) :
    Follows machine token Brief (distribute machine router project memory buckets files) := by
  induction files generalizing memory buckets with
  | nil => exact .of_keeps (keeps_pure _)
  | cons file rest ih =>
    have goesOn := (follows_resolve watched memory (Path.ofString file).parent project).bind
      fun found => ih found.2 (insert found.1 file buckets)
    refine (Follows.of_keeps (keeps_lift _)).bind fun there => ?_
    exact .ite ((Follows.of_keeps (keeps_throw _)).bind fun _ => goesOn) goesOn

theorem follows_partition (project : Toolchain) (files : List String) :
    Follows machine token Brief (partition machine router project files) := by
  refine (follows_distribute watched project _ _ files).bind fun buckets => ?_
  exact .ite (.of_keeps ((unnoting_deeds.keeps_record _ _ _).bind fun _ => keeps_pure _))
    (.of_keeps (keeps_pure _))

end Routing

theorem Scan.follows_inTurn {checker : Checker} (watched : checker.token = some token)
    (buckets : List Bucket) :
    Follows machine token (fun _ => True) (inTurn machine checker token buckets) := by
  induction buckets with
  | nil => exact .of_keeps (keeps_pure _)
  | cons bucket rest ih =>
    refine Follows.bind (.of_keeps (keeps_checkpoint _)) fun _ => ?_
    refine (checker.follows_execute watched bucket).bind fun issues => ?_
    exact ih.bind fun more => .of_keeps (keeps_pure _)

end CheckRouter
