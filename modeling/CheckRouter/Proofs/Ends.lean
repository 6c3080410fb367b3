import CheckRouter.Proofs.Stops
import CheckRouter.Proofs.Supervision

/-!
# How a command ends

A command cannot be started, is stopped, ends in time, or runs out of time. The system refuses to
start a command without null characters only for causes that a caller is prepared for.
-/

namespace CheckRouter

open CheckRouter.Action

/-! ## Commands that are waited for -/

namespace Command

variable {machine : Machine} {token : Option Token} {limit : Option Binary64} {process : Process}
  {options : Options} {command : List String} {world : World}

/-- A program that behaves so ends within a limit. Nothing ends within a limit that is over when it
begins. -/
def InTime (limit : Option Binary64) (behaviour : Behaviour) : Prop :=
  ∀ time ∈ deadline 0 limit, 0 < time ∧ Behaviour.fromZero behaviour.duration ≤ time

theorem inTime_iff (process : Process) (limit : Option Binary64) :
    InTime limit process.behaviour ↔
      ∀ time ∈ process.deadline limit, process.startedAt < time ∧ process.endsAt ≤ time := by
  rw [Process.deadline, deadline_eq_map]
  simp [InTime, Process.endsAt]

/-- How the wait for a process ends: the process ended in time, it ran out of time, or it was killed
because somebody had cancelled or the wait was interrupted. -/
inductive Fated (token : Option Token) (limit : Option Binary64) (process : Process) :
    Except Failure Completed × World → Prop
  | ended (after : World) (inTime : InTime limit process.behaviour) :
      Fated token limit process (.ok process.completed, after)
  | expired (bound : Binary64) (after : World) (late : ¬InTime limit process.behaviour) :
      Fated token limit process (.ok (process.timedOut bound), after)
  | cancelled (after : World) (cancelled : token.any after.tokens.isCancelled = true) :
      Fated token limit process
        (.error (.stopped (.cancelledRunning process.program)), after)
  | interrupted (after : World) (due : Rat) (known : due ∈ process.interruptedAt) :
      Fated token limit process
        (.error (.stopped (.interruptedRunning process.program)), after)

theorem fated_of_ready {polls number : Nat} (ready : Ready limit process polls number)
    (positive : ∀ time ∈ process.deadline limit, process.startedAt < time)
    (clock : world.clock = process.instant limit number) :
    Fated token limit process ((wait machine token limit process polls).run world) := by
  induction polls generalizing number world with
  | zero => exact absurd rfl ready.polls_ne_zero
  | succ polls ih =>
    cases seen : token.any world.tokens.isCancelled with
    | true =>
      rw [wait_of_failed (look_of_cancelled seen)]
      exact .cancelled _ seen
    | false =>
      by_cases early : ∀ time ∈ process.deadline limit, process.instant limit number < time
      · have looked : (look token limit process).run world = _ :=
          look_of_early seen (by rwa [clock])
        rw [clock, sliceEnd_instant early] at looked
        rcases eventBy_cases process (process.instant limit (number + 1)) with
          ⟨due, known, event⟩ | ⟨-, ⟨running, event⟩ | ⟨ended, event⟩⟩
        · rw [event] at looked
          rw [wait_of_interrupted looked]
          exact .interrupted _ due known
        · rw [event] at looked
          rw [wait_of_running looked]
          exact ih (ready.succ early running) rfl
        · rw [event] at looked
          rw [wait_of_ended looked]
          refine .ended _ ((inTime_iff process limit).mpr fun time known => ?_)
          exact ⟨positive time known, ended.trans (instant_within _ _ (number + 1) time known)⟩
      · obtain ⟨time, known, due⟩ : ∃ time ∈ process.deadline limit,
            time ≤ process.instant limit number := by
          simpa using early
        obtain ⟨-, running⟩ := ready.pos_of_due (positive time known) due
        cases limit with
        | none => cases known
        | some bound =>
          rw [wait_of_over (look_of_due seen known (clock ▸ due))]
          refine .expired bound _ fun inTime => ?_
          exact absurd ((inTime_iff process _).mp inTime time known).2 (not_le.mpr running)

theorem fated (machine : Machine) (clock : world.clock = process.startedAt) :
    Fated token limit process
      ((wait machine token limit process (enoughPolls process)).run world) := by
  by_cases positive : ∀ time ∈ process.deadline limit, process.startedAt < time
  · refine fated_of_ready (ready_of_enoughPolls le_rfl) positive ?_
    have whole : process.instant limit 0 = process.startedAt + (0 : Nat) * slice :=
      instant_of_lt fun time known =>
        lt_of_le_of_lt (instant_le _ _ 0) (by simpa using positive time known)
    simpa [clock] using whole.symm
  · obtain ⟨time, known, passed⟩ : ∃ time ∈ process.deadline limit, time ≤ process.startedAt := by
      simpa using positive
    have some_polls : enoughPolls process = (process.behaviour.duration * 10).ceil.toNat + 2 + 1 :=
      rfl
    rw [some_polls]
    cases seen : token.any world.tokens.isCancelled with
    | true =>
      rw [wait_of_failed (look_of_cancelled seen)]
      exact .cancelled _ seen
    | false =>
      cases limit with
      | none => cases known
      | some bound =>
        rw [wait_of_over (look_of_due seen known (clock ▸ passed))]
        refine .expired bound _ fun inTime => ?_
        exact absurd ((inTime_iff process _).mp inTime time known).1 (not_lt.mpr passed)

/-- The wait for the program of a command may be interrupted. -/
def Interrupted (machine : Machine) (options : Options) (command : List String) : Prop :=
  ∃ arguments behaviour, opening machine options command = .ok (arguments, behaviour) ∧
    behaviour.interruptedAfter ≠ none

/-- What a command comes to: its program cannot be started, it is stopped, or it ends, in time or
not. -/
inductive Concluded (machine : Machine) (token : Option Token) (options : Options)
    (command : List String) : Except Failure Completed × World → Prop
  | unopened (failure : Failure) (after : World)
      (refused : opening machine options command = .error failure) :
      Concluded machine token options command (.error failure, after)
  | stopped (stop : Stop) (after : World)
      (why : token.any after.tokens.isCancelled = true ∨ Interrupted machine options command) :
      Concluded machine token options command (.error (.stopped stop), after)
  | ended (process : Process) (after : World)
      (opened : opening machine options command = .ok (process.arguments, process.behaviour))
      (inTime : InTime options.limit process.behaviour) :
      Concluded machine token options command (.ok process.completed, after)
  | expired (process : Process) (bound : Binary64) (after : World)
      (opened : opening machine options command = .ok (process.arguments, process.behaviour))
      (late : ¬InTime options.limit process.behaviour) :
      Concluded machine token options command (.ok (process.timedOut bound), after)

theorem concluded (machine : Machine) (token : Option Token) (options : Options)
    (command : List String) (world : World) :
    Concluded machine token options command ((run machine token options command).run world) := by
  have begins := launch_outcome machine token options command world
  have clock := keeps_launch machine token options command silent_clock unstarting_clock world
  have tokens := keeps_launch machine token options command silent_tokens unstarting_tokens world
  rw [run, run_bind]
  cases launched : (launch machine token options command).run world with
  | mk outcome between =>
    rw [launched] at begins clock tokens
    rcases begins with same | ⟨cancelled, stopped⟩
    · cases opened : opening machine options command with
      | error failure =>
        rw [opened] at same
        cases same
        exact .unopened failure _ opened
      | ok started =>
        rw [opened] at same
        cases same
        have fated : Fated token options.limit (.begun world started) _ :=
          fated machine clock
        dsimp only
        generalize (wait machine token options.limit _ _).run between = ran at fated ⊢
        cases fated with
        | ended after inTime => exact .ended (.begun world started) after opened inTime
        | expired bound after late => exact .expired (.begun world started) bound after opened late
        | cancelled after cancelled => exact .stopped _ after (.inl cancelled)
        | interrupted after due known =>
          refine .stopped _ after (.inr ⟨started.1, started.2, opened, fun quiet => ?_⟩)
          obtain ⟨time, given, -⟩ := Option.map_eq_some_iff.mp known
          have given : started.2.interruptedAfter = some time := given
          rw [quiet] at given
          cases given
    · cases stopped
      refine .stopped .byCaller between (.inl ?_)
      rw [← cancelled]
      exact congrArg (fun found => token.any found.isCancelled) tokens

end Command

/-! ## Commands without null characters -/

theorem Machine.holdsNull_of_isProgram {machine : Machine} {name : String}
    (program : machine.isProgram name = true) : holdsNull name = false := by
  unfold isProgram at program
  split at program
  · next there => exact (exists_of_look there).1
  · cases program

theorem Machine.isProgram_of_which {machine : Machine} {name program : String}
    (found : machine.which name = some program) : machine.isProgram program = true := by
  unfold which at found
  split at found
  · split at found
    · next isProgram =>
      cases found
      exact isProgram
    · cases found
  · exact List.find?_some found

namespace Command

variable {machine : Machine} {options : Options} {head : String} {rest arguments : List String}

theorem holdsNull_of_lookup (clean : (head :: rest).any Machine.holdsNull = false)
    (found : lookup machine (head :: rest) = .ok arguments) :
    arguments.any Machine.holdsNull = false := by
  rw [List.any_cons, Bool.or_eq_false_iff] at clean
  have any_cons {program : String} (clear : Machine.holdsNull program = false) :
      (program :: rest).any Machine.holdsNull = false := by
    rw [List.any_cons, clear, clean.2, Bool.or_false]
  unfold lookup at found
  dsimp only at found
  split at found
  · cases found
    exact any_cons (Machine.holdsNull_ofString clean.1)
  · split at found
    · next program located =>
      cases found
      exact any_cons (Machine.holdsNull_of_isProgram (Machine.isProgram_of_which located))
    · cases found

theorem refused_lookup (machine : Machine) (head : String) (rest : List String) :
    FailsOnly (fun failure => failure.isRefusal = true) (lookup machine (head :: rest)) := by
  unfold lookup
  dsimp only
  split
  · exact failsOnly_ok _
  · split
    · exact failsOnly_ok _
    · exact failsOnly_error rfl

/-- A program of a command without null characters is refused, if it cannot be started. -/
theorem refused_opening (clean : (head :: rest).any Machine.holdsNull = false)
    (place : ∀ directory ∈ options.directory, Machine.holdsNull directory.toString = false) :
    FailsOnly (fun failure => failure.isRefusal = true)
      (opening machine options (head :: rest)) := by
  apply FailsOnly.bind
  · exact refused_lookup machine head rest
  · intro arguments found
    refine FailsOnly.bind ?_ fun _ _ => ?_
    · have clear : (options.toLaunch arguments).arguments.any Machine.holdsNull = false :=
        holdsNull_of_lookup clean found
      rw [permit, clear]
      refine FailsOnly.bind ?_ fun _ _ => ?_
      · cases given : options.directory with
        | none =>
          simp only [Options.toLaunch, given]
          exact failsOnly_ok _
        | some directory =>
          simp only [Options.toLaunch, given]
          show FailsOnly _ (enter machine (some directory.toString))
          rw [enter, place directory given]
          simp only [Bool.false_eq_true, if_false]
          split
          · exact failsOnly_error rfl
          · exact failsOnly_ok _
          · exact failsOnly_error rfl
      · unfold permitProgram
        dsimp only
        split
        · exact failsOnly_ok ()
        · exact failsOnly_error rfl
    · split
      · exact failsOnly_error rfl
      · exact failsOnly_ok _

end Command

end CheckRouter
