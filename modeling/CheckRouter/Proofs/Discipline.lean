import CheckRouter.Proofs.Calls
import CheckRouter.Proofs.Pool.Custody
import CheckRouter.Proofs.Scan

/-!
# Scans leave no program behind

Whatever a scan comes to, every program that it started has been released by then, and none was
started after its token had been cancelled. A scan that checks its buckets in turn ends with the
first command that is stopped. One that uses a pool has run its preparations in this way, and the
pool has released what it started.
-/

namespace CheckRouter.Scan

open CheckRouter.Action

variable {α β : Type} {machine : Machine} {checker : Checker} {token : Token}
  {kind : List String → Prop} {pools : List Bucket → World → Prop} {world after : World}
  {result : Except Failure α × World}

/-- How programs fared from a world to a result. There may have been a pool at the end; `pools` says
for which buckets, and from which world on. -/
inductive Disciplined {α : Type} (machine : Machine) (checker : Checker) (token : Token)
    (pools : List Bucket → World → Prop) (world : World) (result : Except Failure α × World) : Prop
  | inTurn (calls : List Call) (traced : Traced machine token world calls result.2)
      (settled : ∀ call ∈ calls, call.Settled machine token world result.2)
      (heeded : Heeded machine token calls result.1) (obeys : Obeys world result)
  | pooled (calls : List Call) (buckets : List Bucket) (routed : World)
      (routes : pools buckets routed)
      (several : 1 < min checker.settings.jobs buckets.length)
      (traced : Traced machine token world calls routed)
      (settled : ∀ call ∈ calls, call.Settled machine token world result.2)
      (unstopped : ∀ call ∈ calls, ∀ stop, (call.result machine token).1 ≠ .error (.stopped stop))
      (unhalted : routed.halts = world.halts)
      (turns : List Turn) (last : Pool.State) (outcome : Except Failure (List Issue))
      (programs : List (Option Pool.Program))
      (complete : Pool.Complete machine checker token buckets routed turns last outcome)
      (relieved : Pool.Relieved
        (Pool.withSiblings machine checker token (routed.tokens.child token).1)
        (Pool.opened token buckets routed) turns routed last programs)
      (same : result.2.deeds = last.world.deeds)

theorem Disciplined.of_follows {action : Action α} (follows : Follows machine token kind action)
    (world : World) : Disciplined machine checker token pools world (action.run world) := by
  obtain ⟨calls, traced, heeded, -⟩ := follows world
  exact .inTurn calls traced traced.settled heeded (traced.obeys heeded)

theorem Disciplined.of_keeps {action : Action α} (keeps : Keeps World.deeds action)
    (world : World) : Disciplined machine checker token pools world (action.run world) :=
  .of_follows (Follows.of_keeps keeps : Follows machine token (fun _ => True) action) world

theorem Disciplined.prepend {first between : World} {calls : List Call}
    (disciplined : Disciplined machine checker token pools between result)
    (traced : Traced machine token first calls between)
    (unstopped : ∀ call ∈ calls, ∀ stop, (call.result machine token).1 ≠ .error (.stopped stop)) :
    Disciplined machine checker token pools first result := by
  cases disciplined with
  | inTurn more others settled heeded obeys =>
    have whole := traced.append others
    have heeds := heeded.append unstopped
    exact .inTurn _ whole whole.settled heeds (whole.obeys heeds)
  | pooled more buckets routed routes several others settled unstopped' unhalted turns last outcome
      programs complete relieved same =>
    have whole := traced.append others
    have grows : routed.Grows result.2 := relieved.grows.trans (World.Passes.of_deeds same).grows
    refine .pooled _ buckets routed routes several whole (fun call member => ?_) (fun call member => ?_)
      (unhalted.trans (traced.halts_of_unstopped unstopped)) turns last outcome programs complete
      relieved same
    · exact (whole.settled call member).mono (.refl _) grows
    · rcases List.mem_append.mp member with member | member
      · exact unstopped call member
      · exact unstopped' call member

theorem Disciplined.bind {action : Action α} {next : α → Action β}
    (first : Follows machine token kind action)
    (second : ∀ value after, action.run world = (.ok value, after) →
      Disciplined machine checker token pools after ((next value).run after)) :
    Disciplined machine checker token pools world ((action >>= next).run world) := by
  obtain ⟨calls, traced, heeded, -⟩ := first world
  rw [run_bind]
  cases ran : action.run world with
  | mk outcome between =>
    rw [ran] at traced heeded
    cases outcome with
    | ok value => exact (second value between ran).prepend traced heeded.unstopped
    | error failure =>
      have heeds : Heeded machine token calls (.error failure : Except Failure β) :=
        heeded.passOn fun stop stopped => by rw [Except.error.inj stopped]
      exact .inTurn calls traced traced.settled heeds (traced.obeys heeds)

theorem Disciplined.finish {other : Except Failure β × World}
    (disciplined : Disciplined machine checker token pools world result)
    (same : other.2.deeds = result.2.deeds)
    (passedOn : ∀ stop, result.1 = .error (.stopped stop) → other.1 = .error (.stopped stop)) :
    Disciplined machine checker token pools world other := by
  have grows : result.2.Grows other.2 := (World.Passes.of_deeds same).grows
  cases disciplined with
  | inTurn calls traced settled heeded obeys =>
    have whole := traced.append (.done same)
    rw [List.append_nil] at whole
    have heeds := heeded.passOn passedOn
    exact .inTurn calls whole whole.settled heeds (whole.obeys heeds)
  | pooled calls buckets routed routes several traced settled unstopped unhalted turns last outcome
      programs complete relieved ended =>
    exact .pooled calls buckets routed routes several traced
      (fun call member => (settled call member).mono (.refl _) grows) unstopped unhalted turns last
      outcome programs complete relieved (same.trans ended)

theorem Disciplined.bind_keeps {action : Action α} {next : α → Action β}
    (first : Disciplined machine checker token pools world (action.run world))
    (second : ∀ value, Keeps World.deeds (next value)) :
    Disciplined machine checker token pools world ((action >>= next).run world) := by
  rw [run_bind]
  cases ran : action.run world with
  | mk outcome between =>
    rw [ran] at first
    cases outcome with
    | ok value =>
      refine first.finish (second value between) fun stop stopped => ?_
      cases stopped
    | error failure =>
      refine first.finish rfl fun stop stopped => ?_
      cases stopped
      rfl

theorem disciplined_execute (watched : checker.token = some token) {buckets : List Bucket}
    (routes : pools buckets world) :
    Disciplined machine checker token pools world
      ((execute machine checker token buckets).run world) := by
  unfold execute
  split
  · exact .of_follows (follows_inTurn watched buckets) world
  · next several =>
    obtain ⟨turns, last, outcome, complete, -, ran⟩ :=
      Pool.exists_complete machine checker token buckets world
    obtain ⟨programs, relieved⟩ := complete.relieved
    rw [ran]
    exact .pooled [] buckets world routes (Int.lt_of_not_ge several) (.done rfl) (by simp) (by simp)
      rfl turns last outcome programs complete relieved rfl

theorem disciplined_check {settings : Settings} {notifies : Bool} {executable : String}
    {files : List String} {entered checked : World}
    (answers : (Preflight.check machine ⟨settings, notifies, some token⟩ notifies).run entered =
      (.ok ⟨executable, true⟩, checked)) :
    Disciplined machine ⟨settings, notifies, some token⟩ token
      (Routed machine settings notifies token files entered) checked
      ((check machine ⟨settings, notifies, some token⟩ token executable files).run checked) := by
  have reads : Follows machine token Brief (liftM (settings.configFile machine)) :=
    .of_keeps (keeps_lift _)
  refine Disciplined.bind reads fun configFile after configured => ?_
  obtain ⟨known, rfl⟩ := Prod.mk.inj ((run_lift _ _).symm.trans configured)
  refine Disciplined.bind (Routing.follows_partition rfl _ files) fun buckets routed parts => ?_
  have routes : Routed machine settings notifies token files entered buckets routed :=
    ⟨executable, configFile, _, answers, known, parts⟩
  refine (disciplined_execute rfl routes).bind_keeps fun issues => ?_
  exact (unnoting_deeds.keeps_record _ _ _).bind fun _ => keeps_pure _

theorem Disciplined.grows (disciplined : Disciplined machine checker token pools world result) :
    world.Grows result.2 := by
  cases disciplined with
  | inTurn calls traced settled heeded obeys => exact traced.grows
  | pooled calls buckets routed routes several traced settled unstopped unhalted turns last outcome
      programs complete relieved same =>
    exact traced.grows.trans (relieved.grows.trans (World.Passes.of_deeds same).grows)

theorem Disciplined.released (disciplined : Disciplined machine checker token pools world result)
    {number : Nat} (new : world.started.length ≤ number)
    (there : number < result.2.started.length) :
    ∃ launch start told, Released machine world result.2 number launch start told := by
  cases disciplined with
  | inTurn calls traced settled heeded obeys => exact traced.released new there
  | pooled calls buckets routed routes several traced settled unstopped unhalted turns last outcome
      programs complete relieved same =>
    have passes := World.Passes.of_deeds same
    by_cases prepared : number < routed.started.length
    · obtain ⟨launch, start, told, released⟩ := traced.released new prepared
      exact ⟨launch, start, told, released.later (relieved.grows.trans passes.grows)⟩
    · have ended : number < last.world.started.length := by
        rw [← passes.started]
        exact there
      obtain ⟨launch, start, told, released⟩ :=
        relieved.released (Nat.le_of_not_lt prepared) ended
      exact ⟨launch, start, told, (released.later passes.grows).earlier traced.grows⟩

/-- A scan either is given no files and does nothing, or leaves no program behind when it returns or
fails. The programs that it started are those of commands, one after the other, or of a pool. None of
them was started after the token had been cancelled that was to stop it; each has ended by itself and
been collected, or has been killed once, in which case it was stopped or ran out of time. Without a
pool, a command that is stopped, before or after its start, is the last thing that a scan does, and
its stop is the outcome. -/
theorem run_disciplined (machine : Machine) (settings : Settings) (notifies : Bool)
    (given : Option Token) (files : List String) (world : World) :
    let result := (run machine settings notifies given files).run world
    files = [] ∧ result = (.error .noSources, world) ∨
      ∃ token entered, (tokenFor given).run world = (.ok token, entered) ∧
        entered.started = world.started ∧ entered.kills = world.kills ∧
        entered.halts = world.halts ∧
        Disciplined machine ⟨settings, notifies, some token⟩ token
          (Routed machine settings notifies token files entered) entered result ∧
        ∀ number, entered.started.length ≤ number → number < result.2.started.length →
          ∃ launch start told, Released machine entered result.2 number launch start told := by
  intro result
  cases files with
  | nil => exact .inl ⟨rfl, rfl⟩
  | cons file others =>
    right
    obtain ⟨token, entered, opened, started, kills, ran⟩ :=
      run_of_filled machine settings notifies given world (List.cons_ne_nil file others)
    have disciplined : Disciplined machine ⟨settings, notifies, some token⟩ token
        (Routed machine settings notifies token (file :: others) entered) entered result := by
      show Disciplined machine _ token _ entered ((run _ _ _ _ _).run world)
      rw [ran]
      refine Disciplined.bind (Preflight.follows_check rfl notifies) fun found checked answers => ?_
      obtain ⟨executable, available⟩ := found
      cases available with
      | true => exact disciplined_check answers
      | false =>
        exact .of_keeps ((unnoting_deeds.keeps_record _ _ _).bind fun _ => keeps_pure _) checked
    have halts : entered.halts = world.halts := by
      cases given <;> cases opened <;> rfl
    exact ⟨token, entered, opened, started, kills, halts, disciplined, fun number =>
      disciplined.released⟩

end CheckRouter.Scan
