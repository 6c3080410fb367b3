import CheckRouter.Proofs.Pool.Verdict
import CheckRouter.Proofs.Scan
import CheckRouter.Proofs.Stops

/-!
# Pools and turns

When nobody cancels and no wait is interrupted, a pool finds what is found when the buckets are
checked one after the other, whatever the order of its turns, and a failure of the pool is that of
some bucket alone. `Refined` is what every turn keeps.
-/

namespace CheckRouter

/-! ## One after the other -/

def together (alone : Bucket → Except Failure (List Issue)) :
    List Bucket → Except Failure (List Issue)
  | [] => .ok []
  | bucket :: rest => do
    let issues ← alone bucket
    let more ← together alone rest
    return issues ++ more

section Together

variable {alone : Bucket → Except Failure (List Issue)} {buckets : List Bucket}

theorem together_of_finished {parts : List (List Issue)}
    (finished : buckets.map alone = parts.map .ok) : together alone buckets = .ok parts.flatten := by
  induction buckets generalizing parts with
  | nil =>
    obtain rfl : parts = [] := by simpa using finished.symm
    rfl
  | cons bucket rest ih =>
    cases parts with
    | nil => simp at finished
    | cons issues parts =>
      rw [List.map_cons, List.map_cons, List.cons.injEq] at finished
      rw [together, finished.1, ok_bind, ih finished.2]
      rfl

theorem finished_of_together {issues : List Issue} (found : together alone buckets = .ok issues) :
    ∃ parts : List (List Issue), buckets.map alone = parts.map .ok ∧ issues = parts.flatten := by
  induction buckets generalizing issues with
  | nil =>
    cases found
    exact ⟨[], rfl, rfl⟩
  | cons bucket rest ih =>
    rw [together] at found
    cases first : alone bucket with
    | error failure => rw [first] at found; cases found
    | ok part =>
      rw [first, ok_bind] at found
      cases others : together alone rest with
      | error failure => rw [others] at found; cases found
      | ok more =>
        rw [others] at found
        cases found
        obtain ⟨parts, finished, rfl⟩ := ih others
        exact ⟨part :: parts, by simp [first, finished], rfl⟩

theorem blamed_of_together {failure : Failure} (fails : together alone buckets = .error failure) :
    ∃ bucket ∈ buckets, alone bucket = .error failure := by
  induction buckets with
  | nil => cases fails
  | cons bucket rest ih =>
    rw [together] at fails
    cases first : alone bucket with
    | error other =>
      rw [first] at fails
      cases fails
      exact ⟨bucket, List.mem_cons_self, first⟩
    | ok issues =>
      rw [first, ok_bind] at fails
      cases others : together alone rest with
      | error other =>
        rw [others] at fails
        cases fails
        obtain ⟨blamed, member, alone⟩ := ih others
        exact ⟨blamed, List.mem_cons_of_mem _ member, alone⟩
      | ok more => rw [others] at fails; cases fails

theorem together_of_first {front rest : List Bucket} {bucket : Bucket} {failure : Failure}
    (before : ∀ other ∈ front, ∃ issues, alone other = .ok issues)
    (fails : alone bucket = .error failure) :
    together alone (front ++ bucket :: rest) = .error failure := by
  induction front with
  | nil =>
    rw [List.nil_append, together, fails]
    rfl
  | cons other front ih =>
    obtain ⟨issues, found⟩ := before other List.mem_cons_self
    rw [List.cons_append, together, found, ok_bind,
      ih fun next member => before next (List.mem_cons_of_mem _ member)]
    rfl

end Together

theorem Scan.inTurn_outcome {machine : Machine} {checker : Checker} {token : Token}
    (calm : machine.Calm) (watched : checker.token = some token) (buckets : List Bucket)
    {world : World} (uncancelled : world.tokens.isCancelled token = false) :
    ((inTurn machine checker token buckets).run world).1 =
      together (checker.alone machine) buckets := by
  induction buckets generalizing world with
  | nil => rfl
  | cons bucket rest ih =>
    have outcome : ((checker.execute machine bucket).run world).1 = checker.alone machine bucket :=
      Checker.execute_outcome calm (by simpa [watched] using uncancelled)
    have tokens := checker.keeps_tokens machine calm bucket world
    rw [inTurn_cons, uncancelled, if_neg Bool.false_ne_true, together]
    cases ran : (checker.execute machine bucket).run world with
    | mk found after =>
      rw [ran] at outcome tokens
      simp only at outcome tokens
      rw [← outcome]
      cases found with
      | error failure => rfl
      | ok issues =>
        have more : ((inTurn machine checker token rest).run after).1 = _ :=
          ih (by rw [tokens, uncancelled])
        simp only [ok_bind, more]
        cases together (checker.alone machine) rest <;> rfl

/-! ## Side by side -/

namespace Pool

variable {pool : Pool} {state next : State} {turn : Turn}

/-- A task whose check fails alone with the failure that was recorded for it. -/
def Blamed (pool : Pool) (task : Task) : Prop :=
  ∃ failure, task.status = .failed failure ∧
    pool.checker.alone pool.machine task.bucket = .error failure

/-- What every turn keeps when nobody disturbs a pool: until the siblings are stopped, tasks fail as
they would alone, and there is such a failure afterwards. -/
structure Refined (pool : Pool) (state : State) : Prop where
  caller : state.world.tokens.isCancelled pool.caller = false
  siblings : state.phase = .watching ∨ state.phase = .stopping →
    state.world.tokens.isCancelled pool.siblings = false
  recorded : ∀ task ∈ state.tasks, ∀ failure, task.status = .failed failure →
    pool.checker.alone pool.machine task.bucket = .error failure ∨
      failure.isStop = true ∧ state.phase ≠ .watching ∧ state.phase ≠ .stopping
  blamed : state.phase ≠ .watching → (∀ issues, state.phase ≠ .ended (.ok issues)) →
    ∃ task ∈ state.tasks, Blamed pool task

theorem tokens_workOn_of_calm (calm : pool.machine.Calm) (sound : state.Sound pool) (number : Nat)
    {task : Task} (member : task ∈ state.tasks) :
    (pool.workOn state number task).world.tokens = state.world.tokens := by
  rcases tokens_workOn sound number member with same | same
  · exact same
  · rw [same]
    simp [World.movedTo, calm.uncancelled]

theorem blamed_transition (moved : Transition pool state turn next)
    (blamed : ∃ task ∈ state.tasks, Blamed pool task) : ∃ task ∈ next.tasks, Blamed pool task := by
  obtain ⟨task, member, failure, failed, alone⟩ := blamed
  have settled : task.status.isSettled = true := by rw [failed]; rfl
  exact ⟨task, mem_of_isSettled member settled moved, failure, failed, alone⟩

theorem recorded_workOn (calm : pool.machine.Calm)
    (watched : pool.checker.token = some pool.siblings) (sound : state.Sound pool)
    (refined : Refined pool state) {number : Nat} {task : Task}
    (found : state.tasks[number]? = some task)
    (ready : state.mayGoOn pool.checker.settings.jobs task.status = true) :
    ∀ other ∈ (pool.workOn state number task).tasks, ∀ failure, other.status = .failed failure →
      pool.checker.alone pool.machine other.bucket = .error failure ∨
        failure.isStop = true ∧ state.phase ≠ .watching ∧ state.phase ≠ .stopping := by
  have member := List.mem_of_getElem? found
  have faithful := work_faithful (isSettled_eq_false_of_mayGoOn ready) (sound task member)
  have tokens := tokens_workOn_of_calm calm sound number member
  intro other among failure failed
  rcases List.mem_or_eq_of_mem_set among with same | rfl
  · exact refined.recorded other same failure failed
  · rcases faithful.accounted failure (faithful.eq_error failed) with
      alone | ⟨stop, cancelled | disturbed⟩
    · exact .inl alone
    · have stopped : state.world.tokens.isCancelled pool.siblings = true := by
        rw [watched] at cancelled
        exact (congrArg (·.isCancelled pool.siblings) tokens).symm.trans cancelled
      refine .inr ⟨stop, fun phase => ?_, fun phase => ?_⟩
      · rw [refined.siblings (.inl phase)] at stopped
        cases stopped
      · rw [refined.siblings (.inr phase)] at stopped
        cases stopped
    · exact absurd calm disturbed

theorem Refined.advance (refined : Refined pool state) {phase : Phase} {waits : Nat}
    (begun : phase ≠ .watching ∧ phase ≠ .stopping)
    (blamed : (∀ issues, phase ≠ .ended (.ok issues)) → ∃ task ∈ state.tasks, Blamed pool task) :
    Refined pool { state with phase, world := { state.world with waits } } where
  caller := refined.caller
  siblings := fun early => early.elim (absurd · begun.1) (absurd · begun.2)
  recorded := fun task member failure failed =>
    (refined.recorded task member failure failed).imp_right fun stop => ⟨stop.1, begun⟩
  blamed := fun _ => blamed

theorem refined_transition (calm : pool.machine.Calm)
    (watched : pool.checker.token = some pool.siblings) (apart : ¬pool.siblings <:+ pool.caller)
    {done : List Turn} (uninterrupted : .interrupt ∉ done)
    (quiet : turn ≠ .cancel ∧ turn ≠ .interrupt) (sound : state.Sound pool)
    (account : Account pool done state) (refined : Refined pool state)
    (moved : Transition pool state turn next) : Refined pool next := by
  cases moved with
  | worked number task found ready =>
    have tokens := tokens_workOn_of_calm calm sound number (List.mem_of_getElem? found)
    have moved : Transition pool state (.worker number) _ := .worked number task found ready
    refine ⟨?_, fun phase => ?_, recorded_workOn calm watched sound refined found ready,
      fun one other => blamed_transition moved (refined.blamed one other)⟩
    · rw [tokens]
      exact refined.caller
    · rw [tokens]
      exact refined.siblings phase
  | sawFailure phase failed =>
    have alone : ∀ task ∈ state.tasks, ∀ failure, task.status = .failed failure →
        pool.checker.alone pool.machine task.bucket = .error failure :=
      fun task member failure recorded =>
        (refined.recorded task member failure recorded).resolve_right fun stop =>
          stop.2.1 phase
    obtain ⟨task, member, failed⟩ := failed
    obtain ⟨failure, recorded⟩ : ∃ failure, task.status = .failed failure := by
      cases status : task.status <;> simp_all [Status.isFailed]
    exact ⟨refined.caller, fun _ => refined.siblings (.inl phase),
      fun task member failure recorded => .inl (alone task member failure recorded),
      fun _ _ => ⟨task, member, failure, recorded, alone task member failure recorded⟩⟩
  | sawEnd phase unfailed settled =>
    exact refined.advance ⟨by simp, by simp⟩ fun ends => absurd rfl (ends _)
  | stopped phase =>
    have blamed := refined.blamed (by simp [phase]) (by simp [phase])
    refine ⟨?_, by simp, fun task member failure recorded => ?_, fun _ _ => blamed⟩
    · by_contra cancelled
      rw [Bool.not_eq_false, Tokens.isCancelled_cancel, refined.caller] at cancelled
      exact apart (cancelled.resolve_left (by simp)).2
    · exact (refined.recorded task member failure recorded).imp_right fun stop =>
        ⟨stop.1, by simp, by simp⟩
  | dropped number rest phase =>
    have blamed := refined.blamed (by simp [phase]) (by simp [phase])
    refine ⟨refined.caller, by simp, fun task member failure recorded => ?_,
      fun _ _ => blamed_transition (.dropped number rest phase) blamed⟩
    have before : ∃ old ∈ state.tasks, old.bucket = task.bucket ∧ old.status = .failed failure := by
      rcases mem_of_mem_modify member with same | ⟨old, there, rfl⟩
      · exact ⟨task, same, rfl, recorded⟩
      · refine ⟨old, there, rfl, ?_⟩
        cases status : old.status <;> simp_all [Status.drop]
    obtain ⟨old, there, same, recorded⟩ := before
    rw [← same]
    exact (refined.recorded old there failure recorded).imp_right fun stop =>
      ⟨stop.1, by simp, by simp⟩
  | waits phase =>
    have blamed := refined.blamed (by simp [phase]) (by simp [phase])
    exact refined.advance ⟨by simp, by simp⟩ fun _ => blamed
  | concluded phase settled =>
    have blamed := refined.blamed (by simp [phase]) (by simp [phase])
    exact refined.advance ⟨by simp, by simp⟩ fun _ => blamed
  | left phase gone =>
    simp only [Account, phase] at account
    exact absurd account.1 uninterrupted
  | cancelled => exact absurd rfl quiet.1
  | interrupted phase => exact absurd rfl quiet.2

variable {machine : Machine} {checker : Checker} {number : Nat} {above : Token}
  {buckets : List Bucket} {world : World} {turns : List Turn} {last : State}
  {outcome : Except Failure (List Issue)}

theorem refined_start (uncancelled : world.tokens.isCancelled (number :: above) = false) :
    Refined (withSiblings machine checker (number :: above) (world.tokens.child (number :: above)).1)
      (opened (number :: above) buckets world) := by
  refine ⟨?_, fun _ => ?_, fun task member failure failed => ?_, fun begun => absurd rfl begun⟩
  · simpa [opened, start, withSiblings] using uncancelled
  · have fresh := world.tokens.isCancelled_child (number :: above)
    simpa [opened, start, withSiblings, fresh] using uncancelled
  · obtain ⟨bucket, -, rfl⟩ := List.mem_map.mp member
    cases failed

theorem Complete.refined (calm : machine.Calm)
    (uncancelled : world.tokens.isCancelled (number :: above) = false)
    (quiet : ∀ turn ∈ turns, turn ≠ .cancel ∧ turn ≠ .interrupt)
    (complete : Complete machine checker (number :: above) buckets world turns last outcome) :
    Refined (withSiblings machine checker (number :: above) (world.tokens.child (number :: above)).1)
      last := by
  let pool := withSiblings machine checker (number :: above) (world.tokens.child (number :: above)).1
  let first := opened (number :: above) buckets world
  have kept : (∀ turn ∈ turns, turn ≠ .cancel ∧ turn ≠ .interrupt) →
      Kept pool first turns last ∧ Refined pool last := by
    refine course_induction (motive := fun done state =>
      (∀ turn ∈ done, turn ≠ .cancel ∧ turn ≠ .interrupt) →
        Kept pool first done state ∧ Refined pool state) complete.reached
      (fun _ => ⟨kept_start _ _ _, refined_start uncancelled⟩) ?_
    intro done turn state next holds moved quiet
    obtain ⟨kept, refined⟩ := holds fun other member => quiet other (by simp [member])
    have apart := not_child_suffix world.tokens (number :: above)
    refine ⟨kept.step (List.cons_ne_nil _ _) apart moved, ?_⟩
    exact refined_transition calm rfl apart
      (fun interrupt => (quiet _ (List.mem_append_left _ interrupt)).2 rfl)
      (quiet turn (by simp)) kept.sound kept.account refined (transition_of_step moved)
  exact (kept quiet).2

theorem map_alone_of_finished {alone : Bucket → Except Failure (List Issue)} {tasks : List Task}
    (finished : ∀ task ∈ tasks, ∃ found,
      task.status = .finished found ∧ alone task.bucket = .ok found) :
    (tasks.map (·.bucket)).map alone = (tasks.filterMap (·.status.issues?)).map .ok := by
  induction tasks with
  | nil => rfl
  | cons task rest ih =>
    obtain ⟨found, status, outcome⟩ := finished task List.mem_cons_self
    have issues : task.status.issues? = some found := by rw [status]; rfl
    have others := ih fun other member => finished other (List.mem_cons_of_mem _ member)
    simp only [List.map_cons, List.filterMap_cons, issues, outcome, others]

/-- The outcome of an undisturbed pool: the issues of all buckets, each as alone, or the failure of
one of them, as alone. -/
theorem Complete.outcome_cases (calm : machine.Calm)
    (uncancelled : world.tokens.isCancelled (number :: above) = false)
    (quiet : ∀ turn ∈ turns, turn ≠ .cancel ∧ turn ≠ .interrupt)
    (complete : Complete machine checker (number :: above) buckets world turns last outcome) :
    (∃ parts : List (List Issue), outcome = .ok parts.flatten ∧
      buckets.map (checker.alone machine) = parts.map .ok) ∨
    ∃ failure, outcome = .error failure ∧ failure.isStop = false ∧
      ∃ bucket ∈ buckets, checker.alone machine bucket = .error failure := by
  have judged := complete.judged
  have refined := complete.refined calm uncancelled quiet
  have sound := complete.kept.sound
  have uninterrupted : .interrupt ∉ turns := fun member => (quiet _ member).2 rfl
  cases outcome with
  | ok issues =>
    left
    obtain ⟨rfl, finished⟩ := judged.finished issues rfl
    refine ⟨last.tasks.filterMap (·.status.issues?), rfl, ?_⟩
    rw [← judged.buckets]
    refine map_alone_of_finished fun task member => ?_
    obtain ⟨found, status⟩ := finished task member
    have agrees := sound task member
    rw [status] at agrees
    exact ⟨found, status, agrees⟩
  | error failure =>
    right
    obtain ⟨task, member, other, failed, alone⟩ :=
      refined.blamed (by simp [complete.ended]) (by simp [complete.ended])
    have unstopped : other.isStop = false := Checker.unstopped_alone _ _ _ other alone
    have recorded : other ∈ last.failures :=
      List.mem_filterMap.mpr ⟨task, member, by simp [failed, Status.failure?]⟩
    rcases judged.first failure rfl uninterrupted refined.caller with found | ⟨stops, -⟩
    · obtain ⟨task, member, failed⟩ := List.mem_filterMap.mp (List.mem_of_find?_eq_some found)
      have goesOn : failure.isStop = false := by simpa using List.find?_some found
      have failed : task.status = .failed failure := by
        cases status : task.status <;> simp_all [Status.failure?]
      refine ⟨failure, rfl, goesOn, task.bucket, ?_, ?_⟩
      · rw [← judged.buckets]
        exact List.mem_map_of_mem member
      · refine (refined.recorded task member failure failed).resolve_right fun stop => ?_
        rw [stop.1] at goesOn
        cases goesOn
    · rw [stops other recorded] at unstopped
      cases unstopped

end Pool

/-! ## Scans -/

/-- Nobody cancels and nothing is interrupted, in pools neither. -/
structure Machine.Undisturbed (machine : Machine) : Prop extends machine.Calm where
  uninterrupted : machine.interruptedWait = none
  turns : ∀ turn ∈ machine.turns, turn ≠ .cancel ∧ turn ≠ .interrupt

def Checker.withJobs (checker : Checker) (jobs : Int) (positive : 1 ≤ jobs) : Checker :=
  { checker with settings := { checker.settings with jobs, jobs_pos := positive } }

theorem Checker.alone_withJobs (checker : Checker) (jobs : Int) (positive : 1 ≤ jobs)
    (machine : Machine) : (checker.withJobs jobs positive).alone machine = checker.alone machine :=
  rfl

namespace Scan

/-- What checking buckets side by side has to do with checking them in turn. -/
structure Refines (alone : Bucket → Except Failure (List Issue)) (buckets : List Bucket)
    (concurrent sequential : Except Failure (List Issue)) : Prop where
  same : ∀ issues, concurrent = .ok issues ↔ sequential = .ok issues
  ordered : ∀ issues, concurrent = .ok issues →
    ∃ parts : List (List Issue), buckets.map alone = parts.map .ok ∧ issues = parts.flatten
  blamed : ∀ failure, concurrent = .error failure →
    failure.isStop = false ∧ ∃ bucket ∈ buckets, alone bucket = .error failure
  /-- When one bucket fails alone and no other does, that is the failure of both. -/
  single : ∀ front bucket rest failure, buckets = front ++ bucket :: rest →
    alone bucket = .error failure → (∀ other ∈ front ++ rest, ∃ issues, alone other = .ok issues) →
      concurrent = .error failure ∧ sequential = .error failure

theorem refines_of_cases {alone : Bucket → Except Failure (List Issue)} {buckets : List Bucket}
    {concurrent : Except Failure (List Issue)}
    (cases : (∃ parts : List (List Issue), concurrent = .ok parts.flatten ∧
        buckets.map alone = parts.map .ok) ∨
      ∃ failure, concurrent = .error failure ∧ failure.isStop = false ∧
        ∃ bucket ∈ buckets, alone bucket = .error failure) :
    Refines alone buckets concurrent (together alone buckets) := by
  have finished_of_ok (issues : List Issue) (ends : concurrent = .ok issues) :
      ∃ parts : List (List Issue), buckets.map alone = parts.map .ok ∧ issues = parts.flatten := by
    rcases cases with ⟨parts, found, finished⟩ | ⟨failure, fails, -⟩
    · cases found.symm.trans ends
      exact ⟨parts, finished, rfl⟩
    · cases fails.symm.trans ends
  have no_failure (parts : List (List Issue)) (finished : buckets.map alone = parts.map .ok)
      (bucket : Bucket) (member : bucket ∈ buckets) (failure : Failure) :
      alone bucket ≠ .error failure := by
    intro fails
    have there := finished ▸ List.mem_map_of_mem (f := alone) member
    obtain ⟨issues, -, found⟩ := List.mem_map.mp there
    cases found.trans fails
  have blamed (failure : Failure) (fails : concurrent = .error failure) :
      failure.isStop = false ∧ ∃ bucket ∈ buckets, alone bucket = .error failure := by
    rcases cases with ⟨parts, found, -⟩ | ⟨other, ends, goesOn, blamed⟩
    · cases found.symm.trans fails
    · cases ends.symm.trans fails
      exact ⟨goesOn, blamed⟩
  refine ⟨fun issues => ⟨fun ends => ?_, fun ends => ?_⟩, finished_of_ok, blamed, ?_⟩
  · obtain ⟨parts, finished, rfl⟩ := finished_of_ok issues ends
    exact together_of_finished finished
  · obtain ⟨parts, finished, rfl⟩ := finished_of_together ends
    rcases cases with ⟨others, found, also⟩ | ⟨failure, -, -, bucket, member, fails⟩
    · obtain rfl : others = parts :=
        (List.map_inj_right fun _ _ => Except.ok.inj).mp (also.symm.trans finished)
      exact found
    · exact absurd fails (no_failure parts finished bucket member failure)
  · rintro front bucket rest failure rfl fails others
    refine ⟨?_, together_of_first (fun other member => others other (by simp [member])) fails⟩
    rcases cases with ⟨parts, -, finished⟩ | ⟨other, ends, -, blamed, member, alone⟩
    · exact absurd fails (no_failure parts finished bucket (by simp) failure)
    · rcases List.mem_append.mp member with there | there
      · obtain ⟨issues, found⟩ := others blamed (by simp [there])
        cases found.symm.trans alone
      · rcases List.mem_cons.mp there with rfl | there
        · cases alone.symm.trans fails
          exact ends
        · obtain ⟨issues, found⟩ := others blamed (by simp [there])
          cases found.symm.trans alone

/-- Several jobs find what one job finds, in whatever order they take turns; and their failure is
that of some bucket alone. -/
theorem execute_refines (machine : Machine) (checker : Checker) (jobs : Int) (number : Nat)
    (above : Token) (buckets : List Bucket) (world : World) (several : 2 ≤ jobs)
    (undisturbed : machine.Undisturbed) (watched : checker.token = some (number :: above))
    (uncancelled : world.tokens.isCancelled (number :: above) = false) :
    let token := number :: above
    let concurrent := checker.withJobs jobs (Int.le_trans (by decide) several)
    let alone := fun bucket => ((checker.execute machine bucket).run world).1
    let sequential :=
      ((execute machine (checker.withJobs 1 (Int.le_refl 1)) token buckets).run world).1
    Refines alone buckets ((execute machine concurrent token buckets).run world).1 sequential ∧
      ∀ turns last outcome, (∀ turn ∈ turns, turn ≠ .cancel ∧ turn ≠ .interrupt) →
        Pool.Complete machine concurrent token buckets world turns last outcome →
          Refines alone buckets outcome sequential := by
  intro token concurrent alone sequential
  have calm := undisturbed.toCalm
  have alone_eq : alone = checker.alone machine := by
    funext bucket
    exact Checker.execute_outcome calm (by simpa [watched] using uncancelled)
  have inTurn_eq (jobs : Int) (positive : 1 ≤ jobs) :
      ((inTurn machine (checker.withJobs jobs positive) token buckets).run world).1 =
        together (checker.alone machine) buckets := by
    have same : (checker.withJobs jobs positive).token = some token := watched
    rw [← checker.alone_withJobs jobs positive machine]
    exact inTurn_outcome calm same buckets uncancelled
  have sequential_eq : sequential = together (checker.alone machine) buckets := by
    have few : min (checker.withJobs 1 (Int.le_refl 1)).settings.jobs (buckets.length : Int) ≤ 1 :=
      min_le_left _ _
    simp only [sequential, execute, if_pos few, inTurn_eq]
  have unstopped (bucket : Bucket) : Unstopped (checker.alone machine bucket) :=
    checker.unstopped_alone machine bucket
  have of_complete (turns : List Turn) (last : Pool.State) (outcome : Except Failure (List Issue))
      (quiet : ∀ turn ∈ turns, turn ≠ .cancel ∧ turn ≠ .interrupt)
      (complete : Pool.Complete machine concurrent token buckets world turns last outcome) :
      Refines (checker.alone machine) buckets outcome
        (together (checker.alone machine) buckets) := by
    rw [← checker.alone_withJobs jobs (Int.le_trans (by decide) several) machine]
    exact refines_of_cases (complete.outcome_cases calm uncancelled quiet)
  rw [alone_eq, sequential_eq]
  refine ⟨?_, of_complete⟩
  unfold execute
  split
  · rw [inTurn_eq]
    apply refines_of_cases
    cases found : together (checker.alone machine) buckets with
    | ok issues =>
      obtain ⟨parts, finished, rfl⟩ := finished_of_together found
      exact .inl ⟨parts, rfl, finished⟩
    | error failure =>
      obtain ⟨bucket, member, fails⟩ := blamed_of_together found
      exact .inr ⟨failure, rfl, unstopped bucket failure fails, bucket, member, fails⟩
  · obtain ⟨turns, last, outcome, complete, calmly, ran⟩ :=
      Pool.exists_complete machine concurrent token buckets world
    rw [ran]
    refine of_complete turns last outcome (fun turn member => ?_) complete
    rcases calmly turn member with given | ⟨other, wait⟩
    · exact undisturbed.turns turn given
    · exact ⟨other, fun interrupt => wait interrupt undisturbed.uninterrupted⟩

def reporting : Machine :=
  Command.oneProgram
    { output := "a:1: note: x".toUTF8.toList, status := 1, duration := 3 / 10 } none

theorem reporting_undisturbed : reporting.Undisturbed where
  uncancelled := rfl
  quiet := by
    rintro launch _ ⟨⟩
    rfl
  uninterrupted := rfl
  turns := by simp [reporting, Command.oneProgram]

theorem execute_refines_reporting :
    let checker : Checker :=
      { settings := { projectRoot := Path.ofString "/" }, token := some callerToken }
    let bucket : Bucket := ⟨"/bin/tool", "", ["a"]⟩
    let issue : Issue := ⟨"a", 1, 1, .note, "x", by decide, by decide⟩
    ((execute reporting (checker.withJobs 2 (by decide)) callerToken [bucket, bucket]).run
      (World.initial false)).1 = .ok [issue, issue] := by
  intro checker bucket issue
  have refines := (execute_refines reporting checker 2 0 [] [bucket, bucket] (World.initial false)
    le_rfl reporting_undisturbed rfl (by decide)).1
  refine (refines.same [issue, issue]).mpr ?_
  decide +kernel

end Scan

end CheckRouter
