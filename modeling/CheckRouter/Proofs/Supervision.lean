import CheckRouter.Proofs.Starts

/-!
# Programs under supervision

Nobody who starts a program leaves it behind. `Released` says of a program that was started how it
came to its end, and what was told of it: the system refused to run it, it ended by itself, or it was
killed once because it was to be stopped or ran out of time. `Command.run_released` says that the
one program of a command is released when the command is over.
-/

namespace CheckRouter

open CheckRouter.Action

variable {first world after last : World} {number : Nat} {launch : Launch} {killed : Bool}

namespace World

/-- What a world tells of programs: the time, who has been cancelled, what was started, what was
killed and which commands were stopped. -/
def deeds (world : World) : Rat × Tokens × List Started × List Nat × List Halt :=
  (world.clock, world.tokens, world.started, world.kills, world.halts)

/-- Time goes on, and of the programs that were there before none is killed. -/
structure Grows (world after : World) : Prop where
  clock : world.clock ≤ after.clock
  started : world.started <+: after.started
  kills : ∃ more, after.kills = world.kills ++ more ∧
    ∀ number ∈ more, world.started.length ≤ number ∧ number < after.started.length

theorem Grows.refl (world : World) : world.Grows world :=
  ⟨le_rfl, List.prefix_refl _, [], by simp, by simp⟩

theorem Grows.trans (one : first.Grows world) (other : world.Grows after) : first.Grows after := by
  obtain ⟨early, before, kills⟩ := one.kills
  obtain ⟨late, since, kills'⟩ := other.kills
  refine ⟨one.clock.trans other.clock, one.started.trans other.started, early ++ late, ?_, ?_⟩
  · rw [since, before, List.append_assoc]
  · intro number member
    rcases List.mem_append.mp member with member | member
    · exact ⟨(kills number member).1, (kills number member).2.trans_le other.started.length_le⟩
    · exact ⟨one.started.length_le.trans (kills' number member).1, (kills' number member).2⟩

theorem grows_withStarted (world : World) (launch : Launch) :
    world.Grows (world.withStarted launch) :=
  ⟨le_rfl, List.prefix_append _ _, [], (List.append_nil _).symm, by simp⟩

theorem Grows.withKilled (grows : first.Grows world) (new : first.started.length ≤ number)
    (there : number < world.started.length) : first.Grows (world.withKilled number) := by
  obtain ⟨more, kills, each⟩ := grows.kills
  refine ⟨grows.clock, ?_, more ++ [number], ?_, ?_⟩
  · apply List.prefix_iff_getElem?.mpr
    intro place below
    have before := List.prefix_iff_getElem?.mp grows.started place below
    have apart : number ≠ place := (below.trans_le new).ne'
    simp [World.withKilled, apart, before]
  · rw [World.withKilled, kills, List.append_assoc]
  · have same : (world.withKilled number).started.length = world.started.length :=
      List.length_modify _ _ _
    intro other member
    rw [same]
    rcases List.mem_append.mp member with member | member
    · exact each other member
    · obtain rfl := List.mem_singleton.mp member
      exact ⟨new, there⟩

/-- Time goes on, and no program is started or killed. -/
structure Passes (world after : World) : Prop where
  clock : world.clock ≤ after.clock
  started : after.started = world.started
  kills : after.kills = world.kills

theorem Passes.refl (world : World) : world.Passes world := ⟨le_rfl, rfl, rfl⟩

theorem Passes.trans (one : first.Passes world) (other : world.Passes after) : first.Passes after :=
  ⟨one.clock.trans other.clock, other.started.trans one.started, other.kills.trans one.kills⟩

theorem Passes.of_deeds (same : after.deeds = world.deeds) : world.Passes after := by
  simp only [deeds, Prod.mk.injEq] at same
  exact ⟨same.1.ge, same.2.2.1, same.2.2.2.1⟩

theorem halts_of_deeds (same : after.deeds = world.deeds) : after.halts = world.halts := by
  simp only [deeds, Prod.mk.injEq] at same
  exact same.2.2.2.2

theorem passes_movedTo {machine : Machine} {time : Rat} (later : world.clock ≤ time) :
    world.Passes (world.movedTo machine time) :=
  ⟨later, rfl, rfl⟩

theorem Passes.withKilled (passes : world.Passes after) (number : Nat) :
    (world.withKilled number).Passes (after.withKilled number) := by
  refine ⟨passes.clock, ?_, ?_⟩
  · simp only [World.withKilled, passes.started]
  · simp only [World.withKilled, passes.kills]

theorem Passes.withHalt (passes : world.Passes after) (stop : Stop) :
    world.Passes (after.withHalt stop) :=
  ⟨passes.clock, passes.started, passes.kills⟩

theorem Passes.grows (passes : world.Passes after) : world.Grows after :=
  ⟨passes.clock, passes.started ▸ List.prefix_refl _, [], by simp [passes.kills], by simp⟩

/-- A stop of which an outcome tells, as it is remembered after it. -/
def haltOf {α : Type} (outcome : Except Failure α) (begun : Nat) : List Halt :=
  match outcome with
  | .error (.stopped stop) => [⟨stop, begun⟩]
  | _ => []

theorem haltOf_of_unstopped {α : Type} {outcome : Except Failure α} {begun : Nat}
    (unstopped : ∀ stop, outcome ≠ .error (.stopped stop)) : haltOf outcome begun = [] := by
  unfold haltOf
  split
  · next stop => exact absurd rfl (unstopped stop)
  · rfl

/-- Of the stops of commands a world remembers one more just if that is the outcome. -/
def Remembers {α : Type} (world : World) (result : Except Failure α × World) : Prop :=
  result.2.halts = world.halts ++ haltOf result.1 result.2.started.length

theorem remembers_ok {α : Type} {value : α} (same : after.halts = world.halts) :
    world.Remembers ((.ok value, after) : Except Failure α × World) :=
  same.trans (List.append_nil _).symm

theorem remembers_of_ordinary {α : Type} {failure : Failure} (ordinary : failure.isStop = false)
    (same : after.halts = world.halts) :
    world.Remembers ((.error failure, after) : Except Failure α × World) := by
  cases failure with
  | stopped stop => cases ordinary
  | _ => exact same.trans (List.append_nil _).symm

end World

theorem unnoting_deeds : Unnoting World.deeds where
  note := fun _ _ _ _ => rfl
  notify := fun _ _ => rfl

/-! ## Standing -/

/-- A program that was started since some time, and has been killed once since or not at all. -/
structure Standing (first world : World) (number : Nat) (launch : Launch) (killed : Bool) :
    Prop where
  new : first.started.length ≤ number
  started : world.started[number]? = some ⟨launch, killed⟩
  kills : world.kills.count number = first.kills.count number + killed.toNat

namespace Standing

theorem lt (standing : Standing first world number launch killed) : number < world.started.length :=
  (List.getElem?_eq_some_iff.mp standing.started).1

theorem later (standing : Standing first world number launch killed) (grows : world.Grows after) :
    Standing first after number launch killed := by
  obtain ⟨more, kills, each⟩ := grows.kills
  have spared : more.count number = 0 := by
    refine List.count_eq_zero.mpr fun member => ?_
    exact absurd standing.lt (Nat.not_lt_of_le (each number member).1)
  refine ⟨standing.new, ?_, ?_⟩
  · obtain ⟨rest, started⟩ := grows.started
    rw [← started, List.getElem?_append_left standing.lt, standing.started]
  · rw [kills, List.count_append, spared, standing.kills, Nat.add_zero]

theorem earlier (standing : Standing world after number launch killed) (grows : first.Grows world) :
    Standing first after number launch killed := by
  obtain ⟨more, kills, each⟩ := grows.kills
  have spared : more.count number = 0 := by
    refine List.count_eq_zero.mpr fun member => ?_
    exact absurd standing.new (Nat.not_le_of_lt (each number member).2)
  refine ⟨grows.started.length_le.trans standing.new, standing.started, ?_⟩
  rw [standing.kills, kills, List.count_append, spared, Nat.add_zero]

theorem of_start (grows : first.Grows world) (launch : Launch) :
    Standing first (world.withStarted launch) world.started.length launch false := by
  obtain ⟨more, kills, each⟩ := grows.kills
  have spared : more.count world.started.length = 0 := by
    refine List.count_eq_zero.mpr fun member => ?_
    exact absurd (each _ member).2 (Nat.lt_irrefl _)
  refine ⟨grows.started.length_le, List.getElem?_concat_length, ?_⟩
  rw [World.withStarted, kills, List.count_append, spared]
  rfl

theorem kill (standing : Standing first world number launch false) :
    Standing first (world.withKilled number) number launch true := by
  refine ⟨standing.new, ?_, ?_⟩
  · simp [World.withKilled, standing.started]
  · rw [World.withKilled, List.count_append, standing.kills, List.count_singleton_self]
    rfl

theorem withKilled (standing : Standing first world number launch killed) {other : Nat}
    (apart : other ≠ number) : Standing first (world.withKilled other) number launch killed := by
  refine ⟨standing.new, ?_, ?_⟩
  · simp [World.withKilled, apart, standing.started]
  · have spared : [other].count number = 0 := List.count_eq_zero.mpr (by simpa using apart.symm)
    rw [World.withKilled, List.count_append, standing.kills, spared, Nat.add_zero]

end Standing

/-! ## Release -/

open Command (Process)

/-- The process of a program that was started at a time. -/
structure Command.Process.IsOf (machine : Machine) (number : Nat) (launch : Launch) (start : Rat)
    (process : Process) : Prop where
  number : process.number = number
  arguments : process.arguments = launch.arguments
  responds : machine.respond launch = .ok process.behaviour
  startedAt : process.startedAt = start

/-- How a program that was started at a time came to its end, and what was told of it: it was refused
in the end, it ended by itself before now, or it was killed, once, because it was stopped or because
it ran out of time. -/
inductive Released (machine : Machine) (first world : World) (number : Nat) (launch : Launch)
    (start : Rat) : Except Failure Completed → Prop
  | refused (error : SystemError) (standing : Standing first world number launch false)
      (responds : machine.respond launch = .error error) :
      Released machine first world number launch start
        (.error (.system error (launch.arguments.headD "")))
  | collected (process : Process) (isOf : process.IsOf machine number launch start)
      (standing : Standing first world number launch false)
      (ended : process.endsAt ≤ world.clock) :
      Released machine first world number launch start (.ok process.completed)
  | stopped (stop : Stop) (standing : Standing first world number launch true) :
      Released machine first world number launch start (.error (.stopped stop))
  | expired (process : Process) (bound : Binary64) (isOf : process.IsOf machine number launch start)
      (standing : Standing first world number launch true) :
      Released machine first world number launch start (.ok (process.timedOut bound))

namespace Released

variable {machine : Machine} {start : Rat} {told : Except Failure Completed}

theorem mono {other : World} (released : Released machine first world number launch start told)
    (clock : world.clock ≤ after.clock)
    (stands : ∀ killed, Standing first world number launch killed →
      Standing other after number launch killed) :
    Released machine other after number launch start told := by
  cases released with
  | refused error standing responds => exact .refused error (stands _ standing) responds
  | collected process isOf standing ended =>
    exact .collected process isOf (stands _ standing) (ended.trans clock)
  | stopped stop standing => exact .stopped stop (stands _ standing)
  | expired process bound isOf standing => exact .expired process bound isOf (stands _ standing)

theorem standing (released : Released machine first world number launch start told) :
    ∃ killed, Standing first world number launch killed := by
  cases released with
  | refused error standing responds => exact ⟨_, standing⟩
  | collected process isOf standing ended => exact ⟨_, standing⟩
  | stopped stop standing => exact ⟨_, standing⟩
  | expired process bound isOf standing => exact ⟨_, standing⟩

theorem later (released : Released machine first world number launch start told)
    (grows : world.Grows after) : Released machine first after number launch start told :=
  released.mono grows.clock fun _ standing => standing.later grows

theorem earlier (released : Released machine world after number launch start told)
    (grows : first.Grows world) : Released machine first after number launch start told :=
  released.mono le_rfl fun _ standing => standing.earlier grows

end Released

/-! ## Waiting -/

namespace Command

variable {machine : Machine} {token : Option Token} {limit : Option Binary64} {process : Process}
  {result : Except Failure Completed × World}

/-- What somebody finds who looks after a process: it is to be stopped, it is out of time, or it may
go on up to an event. -/
inductive Looked (process : Process) (world : World) :
    Except Failure (Completed ⊕ Event) × World → Prop
  | stopped : Looked process world
      (.error (.stopped (.cancelledRunning process.program)),
        (world.withKilled process.number).withHalt (.cancelledRunning process.program))
  | expired (bound : Binary64) (text : String) : Looked process world
      (.ok (.inl (process.timedOut bound)),
        (world.withKilled process.number).note .warning .process text)
  | goesOn (time : Rat) (later : world.clock ≤ time) : Looked process world
      (.ok (.inr (process.eventBy time)), world)

theorem clock_le_sliceEnd {now : Rat} {deadline : Option Rat}
    (early : ∀ time ∈ deadline, now < time) : now ≤ sliceEnd now deadline := by
  have slice_pos : (0 : Rat) < slice := by
    unfold slice
    norm_num
  have next : now ≤ now + slice := le_add_of_nonneg_right slice_pos.le
  cases deadline with
  | none => exact next
  | some time =>
    show now ≤ if time < now + slice then time else now + slice
    split
    · exact (early time rfl).le
    · exact next

theorem looked (token : Option Token) (limit : Option Binary64) (process : Process)
    (world : World) : Looked process world ((look token limit process).run world) := by
  cases cancelled : token.any world.tokens.isCancelled with
  | true =>
    rw [look_of_cancelled cancelled]
    exact .stopped
  | false =>
    by_cases early : ∀ time ∈ process.deadline limit, world.clock < time
    · rw [look_of_early cancelled early]
      exact .goesOn _ (clock_le_sliceEnd early)
    · obtain ⟨time, known, due⟩ : ∃ time ∈ process.deadline limit, time ≤ world.clock := by
        simpa using early
      cases limit with
      | none => cases known
      | some bound =>
        rw [look_of_due cancelled known due]
        exact .expired bound _

/-- The end of the wait for a process: it was collected when it had ended, or it was killed. -/
inductive Waited (process : Process) (world : World) : Except Failure Completed × World → Prop
  | collected (after : World) (passes : world.Passes after) (silent : after.halts = world.halts)
      (ended : process.endsAt ≤ after.clock) :
      Waited process world (.ok process.completed, after)
  | stopped (stop : Stop) (after : World) (passes : (world.withKilled process.number).Passes after)
      (told : after.halts = world.halts ++ [⟨stop, world.started.length⟩]) :
      Waited process world (.error (.stopped stop), after)
  | expired (bound : Binary64) (after : World)
      (passes : (world.withKilled process.number).Passes after)
      (silent : after.halts = world.halts) :
      Waited process world (.ok (process.timedOut bound), after)

theorem Waited.later (waited : Waited process world result) (passes : first.Passes world)
    (same : world.halts = first.halts) : Waited process first result := by
  cases waited with
  | collected after since silent ended =>
    exact .collected after (passes.trans since) (silent.trans same) ended
  | stopped stop after since told =>
    refine .stopped stop after ((passes.withKilled _).trans since) ?_
    rw [told, same, passes.started]
  | expired bound after since silent =>
    exact .expired bound after ((passes.withKilled _).trans since) (silent.trans same)

theorem told_withKilled (process : Process) (world : World) (stop : Stop) :
    ((world.withKilled process.number).withHalt stop).halts =
      world.halts ++ [⟨stop, world.started.length⟩] := by
  simp only [World.withHalt, World.withKilled, List.length_modify]

theorem waited {polls : Nat} (running : world.clock ≤ process.endsAt)
    (uninterrupted : ∀ due ∈ process.interruptedAt, world.clock ≤ due) :
    Waited process world ((wait machine token limit process polls).run world) := by
  induction polls generalizing world with
  | zero => exact .collected _ (World.passes_movedTo running) rfl le_rfl
  | succ polls ih =>
    have seen := looked token limit process world
    cases ran : (look token limit process).run world with
    | mk outcome after =>
      rw [ran] at seen
      cases seen with
      | stopped =>
        rw [wait_of_failed ran]
        exact .stopped _ _ ((World.Passes.refl _).withHalt _) (told_withKilled process world _)
      | expired bound text =>
        rw [wait_of_over ran]
        exact .expired bound _ (.of_deeds rfl) rfl
      | goesOn time later =>
        rcases eventBy_cases process time with
          ⟨due, known, event⟩ | ⟨undisturbed, ⟨lasts, event⟩ | ⟨past, event⟩⟩
        · rw [event] at ran
          rw [wait_of_interrupted ran]
          have passes : world.Passes (world.movedTo machine due) :=
            World.passes_movedTo (uninterrupted due known)
          exact .stopped _ _ ((passes.withKilled _).withHalt _)
            (told_withKilled process (world.movedTo machine due) _)
        · rw [event] at ran
          rw [wait_of_running ran]
          have goesOn := @ih (world.movedTo machine time) lasts.le fun due known =>
            (undisturbed due known).le
          exact goesOn.later (World.passes_movedTo later) rfl
        · rw [event] at ran
          rw [wait_of_ended ran]
          exact .collected _ (World.passes_movedTo running) rfl le_rfl

theorem waited_of_begun (world : World) (launch : Launch) (started : List String × Behaviour)
    (polls : Nat) :
    Waited (.begun world started) (world.withStarted launch)
      ((wait machine token limit (.begun world started) polls).run (world.withStarted launch)) :=
  waited (startedAt_le_endsAt (.begun world started)) fun _ known => startedAt_le_interruptedAt known

/-- A command has started no program, or one that was released when the command was over. If it was
stopped, that is remembered. -/
inductive Supervised (machine : Machine) (token : Option Token) (options : Options)
    (command : List String) (world : World) : Except Failure Completed × World → Prop
  | unstarted (failure : Failure) (ordinary : failure.isStop = false) :
      Supervised machine token options command world (.error failure, world)
  | forgone (cancelled : token.any world.tokens.isCancelled = true) :
      Supervised machine token options command world
        (.error (.stopped .byCaller), world.withHalt .byCaller)
  | started (arguments : List String) (told : Except Failure Completed) (after : World)
      (uncancelled : token.any world.tokens.isCancelled = false)
      (found : lookup machine command = .ok arguments) (grows : world.Grows after)
      (one : after.started.length = world.started.length + 1)
      (remembers : world.Remembers (told, after))
      (released : Released machine world after world.started.length (options.toLaunch arguments)
        world.clock told) :
      Supervised machine token options command world (told, after)

theorem supervised_of_waited {options : Options} {command arguments : List String}
    {behaviour : Behaviour} (uncancelled : token.any world.tokens.isCancelled = false)
    (found : lookup machine command = .ok arguments)
    (responds : machine.respond (options.toLaunch arguments) = .ok behaviour)
    (waited : Waited (.begun world (arguments, behaviour))
      (world.withStarted (options.toLaunch arguments)) result) :
    Supervised machine token options command world result := by
  let launch := options.toLaunch arguments
  have isOf : (Process.begun world (arguments, behaviour)).IsOf machine world.started.length
      launch world.clock := ⟨rfl, rfl, responds, rfl⟩
  have grows := world.grows_withStarted launch
  have standing := Standing.of_start (.refl world) launch
  have one : (world.withStarted launch).started.length = world.started.length + 1 :=
    List.length_append
  have killed : world.Grows ((world.withStarted launch).withKilled world.started.length) :=
    grows.withKilled le_rfl (by omega)
  have same : ((world.withStarted launch).withKilled world.started.length).started.length =
      world.started.length + 1 := by
    rw [← one]
    exact List.length_modify ..
  cases waited with
  | collected after passes silent ended =>
    have released : Released machine world after world.started.length launch world.clock _ :=
      .collected _ isOf (standing.later passes.grows) ended
    exact .started arguments _ after uncancelled found (grows.trans passes.grows)
      (by rw [passes.started, one]) (World.remembers_ok silent) released
  | stopped stop after passes told =>
    have released : Released machine world after world.started.length launch world.clock _ :=
      .stopped stop (standing.kill.later passes.grows)
    have begun : after.started.length = world.started.length + 1 := by
      rw [passes.started]
      exact same
    have remembers : world.Remembers
        ((.error (.stopped stop), after) : Except Failure Completed × World) := by
      rw [World.Remembers, told, begun, ← one]
      rfl
    exact .started arguments _ after uncancelled found (killed.trans passes.grows) begun remembers
      released
  | expired bound after passes silent =>
    have released : Released machine world after world.started.length launch world.clock _ :=
      .expired _ bound isOf (standing.kill.later passes.grows)
    exact .started arguments _ after uncancelled found (killed.trans passes.grows)
      (by rw [passes.started]; exact same) (World.remembers_ok silent) released

theorem supervised (machine : Machine) (token : Option Token) (options : Options)
    (command : List String) (world : World) :
    Supervised machine token options command world
      ((run machine token options command).run world) := by
  have begins := launched machine token options command world
  rw [run, run_bind]
  generalize (launch machine token options command).run world = ran at begins ⊢
  cases begins with
  | unstarted failure ordinary => exact .unstarted failure ordinary
  | stopped cancelled => exact .forgone cancelled
  | refused arguments error uncancelled found responds =>
    refine .started arguments _ _ uncancelled found (world.grows_withStarted _)
      List.length_append (List.append_nil _).symm ?_
    exact .refused error (.of_start (.refl world) _) responds
  | started arguments behaviour uncancelled found responds =>
    exact supervised_of_waited uncancelled found responds (waited_of_begun world _ _ _)

end Command

end CheckRouter
