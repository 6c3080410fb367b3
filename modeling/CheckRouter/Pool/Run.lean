import CheckRouter.Pool.Progress

/-!
# Runs of pools

A run takes the turns that the machine gives. When they are used up, it goes on by itself: the owner
as soon as it can, else a busy worker, else the worker of the next waiting task.
-/

namespace CheckRouter.Pool

/-- The numbers below `count` in the order in which a machine finishes them. -/
def order (machine : Machine) (count : Nat) : List Nat :=
  machine.finishOrder.filter (· < count) ++
    (List.range count).filter (!machine.finishOrder.contains ·)

theorem mem_order {machine : Machine} {count number : Nat} (below : number < count) :
    number ∈ order machine count := by
  by_cases named : number ∈ machine.finishOrder <;> simp [order, named, below]

def busyNumbers (state : State) : List Nat :=
  (List.range state.tasks.length).filter fun number =>
    state.tasks[number]?.any (·.status.isBusy)

/-- The turns that are tried, the first that is possible is taken, when no turns are given. -/
def candidates (pool : Pool) (state : State) : List Turn :=
  (if pool.machine.interruptedWait = some state.world.waits then [.interrupt] else []) ++
    .owner :: (busyNumbers state ++ order pool.machine state.tasks.length).map .worker

theorem cancel_not_mem_candidates (pool : Pool) (state : State) :
    .cancel ∉ pool.candidates state := by
  unfold candidates
  split <;> simp

def finish (pool : Pool) (state : State) : State :=
  match _found : (pool.candidates state).findSome? (pool.step state) with
  | none => state
  | some next => finish pool next
termination_by state.rank
decreasing_by
  obtain ⟨turn, member, moved⟩ := List.exists_of_findSome?_eq_some _found
  exact step_below moved fun same => cancel_not_mem_candidates pool state (same ▸ member)

theorem isOver_of_findSome?_eq_none {pool : Pool} {state : State}
    (stuck : (pool.candidates state).findSome? (pool.step state) = none) :
    isOver state = true := by
  rw [List.findSome?_eq_none_iff] at stuck
  cases goesOn : isOver state with
  | true => rfl
  | false =>
    rcases exists_step pool goesOn with ⟨number, task, found, -, possible⟩ | possible
    · have below := (List.getElem?_eq_some_iff.mp found).1
      rw [stuck (.worker number) (by simp [candidates, mem_order below])] at possible
      cases possible
    · rw [stuck .owner (by simp [candidates])] at possible
      cases possible

theorem isOver_finish (pool : Pool) (state : State) : isOver (pool.finish state) = true := by
  fun_induction finish pool state with
  | case1 state stuck => exact isOver_of_findSome?_eq_none stuck
  | case2 state next moved ih => exact ih

def outcome (state : State) (ended : isOver state = true) : Except Failure (List Issue) :=
  match phase : state.phase with
  | .ended outcome => outcome
  | .watching | .stopping | .dropping _ | .draining | .leaving =>
    absurd ended (by simp [isOver, phase])

/-- The state in which a pool begins: nothing is done, and the owner has begun to wait. -/
def start (buckets : List Bucket) (world : World) : State :=
  { tasks := buckets.map fun bucket => { bucket }
    world := { world with waits := world.waits + 1 } }

def last (pool : Pool) (buckets : List Bucket) (world : World) : State :=
  pool.finish (pool.play (start buckets world) pool.machine.turns)

theorem isOver_last (pool : Pool) (buckets : List Bucket) (world : World) :
    isOver (pool.last buckets world) = true :=
  isOver_finish _ _

def withSiblings (machine : Machine) (checker : Checker) (token siblings : Token) : Pool :=
  ⟨machine, { checker with token := some siblings }, token, siblings⟩

def run (machine : Machine) (checker : Checker) (token : Token) (buckets : List Bucket) :
    Action (List Issue) := do
  let siblings ← Action.newToken token
  let last := (withSiblings machine checker token siblings).last buckets (← get)
  set last.world
  outcome last (isOver_last ..)

end CheckRouter.Pool
