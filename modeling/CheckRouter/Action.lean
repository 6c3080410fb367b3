import CheckRouter.Machine
import CheckRouter.Notice
import CheckRouter.Token

/-!
# Actions

An action changes a `World`: it takes time, starts programs, writes records, notifies the user and
cancels tokens. It ends with a value or a failure, and what it did before a failure stays done.
-/

namespace CheckRouter

inductive Level
  | debug
  | info
  | warning
  deriving DecidableEq, Repr

inductive Component
  | process
  | environment
  | resolver
  | partition
  | runner
  | availability
  | scanner
  deriving DecidableEq, Repr

def Component.name : Component → String
  | .process => "process"
  | .environment => "environment"
  | .resolver => "resolver"
  | .partition => "partition"
  | .runner => "runner"
  | .availability => "availability"
  | .scanner => "scanner"

/-- A record of what the program does. The letter N stands where a record tells how long something
took. -/
structure Record where
  level : Level
  component : Component
  text : String
  deriving DecidableEq, Repr

inductive JournalEntry
  | record (r : Record)
  | notice (n : Notice)
  deriving DecidableEq, Repr

namespace JournalEntry

def record? : JournalEntry → Option Record
  | .record r => some r
  | .notice _ => none

def notice? : JournalEntry → Option Notice
  | .record _ => none
  | .notice n => some n

end JournalEntry

/-- A program that was started, and whether it was killed. -/
structure Started where
  launch : Launch
  killed : Bool := false
  deriving DecidableEq, Repr

/-- The stop of a command, and the number of programs that had been started before it. -/
structure Halt where
  stop : Stop
  begun : Nat
  deriving DecidableEq, Repr

structure World where
  clock : Rat := 0
  tokens : Tokens := {}
  started : List Started := []
  /-- The numbers of the programs that were killed, as often as they were. -/
  kills : List Nat := []
  /-- The stops of commands, one after the other. -/
  halts : List Halt := []
  journal : List JournalEntry := []
  /-- The number of waits for a pool so far. -/
  waits : Nat := 0

namespace World

def records (world : World) : List Record := world.journal.filterMap JournalEntry.record?

def notices (world : World) : List Notice := world.journal.filterMap JournalEntry.notice?

def launches (world : World) : List Launch := world.started.map Started.launch

end World

/-- The token of the caller, the first one of a world. -/
def callerToken : Token := [0]

/-- The world at a time. The caller has cancelled once the time for it has come. -/
def World.movedTo (world : World) (machine : Machine) (time : Rat) : World :=
  { world with
    clock := time
    tokens :=
      if machine.cancelledAt.any (· ≤ time) then world.tokens.cancel callerToken
      else world.tokens }

def World.note (world : World) (level : Level) (component : Component) (text : String) : World :=
  { world with journal := world.journal ++ [.record ⟨level, component, text⟩] }

def World.withStarted (world : World) (launch : Launch) : World :=
  { world with started := world.started ++ [{ launch }] }

def World.withKilled (world : World) (number : Nat) : World :=
  { world with
    started := world.started.modify number fun started => { started with killed := true }
    kills := world.kills ++ [number] }

def World.withHalt (world : World) (stop : Stop) : World :=
  { world with halts := world.halts ++ [⟨stop, world.started.length⟩] }

/-- A world in which nothing has happened, with the token of the caller. -/
def World.initial (cancelled : Bool) : World :=
  let tokens : Tokens := { next := 1 }
  { tokens := if cancelled then tokens.cancel callerToken else tokens }

abbrev Action (α : Type) := ExceptT Failure (StateM World) α

namespace Action

def record (level : Level) (component : Component) (text : String) : Action Unit :=
  modify (·.note level component text)

def notify (notice : Notice) : Action Unit :=
  modify fun world => { world with journal := world.journal ++ [.notice notice] }

def cancel (token : Token) : Action Unit :=
  modify fun world => { world with tokens := world.tokens.cancel token }

def newToken (parent : Token) : Action Token :=
  modifyGet fun world =>
    let (token, tokens) := world.tokens.child parent
    (token, { world with tokens })

def isCancelled : Option Token → Action Bool
  | none => return false
  | some token => return (← get).tokens.isCancelled token

/-- Fails when a token is given and cancelled. -/
def checkpoint (token : Option Token) : Action Unit := do
  if ← isCancelled token then throw (.stopped .byCaller)

/-- Stops a command. -/
def halt {α : Type} (stop : Stop) : Action α := do
  modify (·.withHalt stop)
  throw (.stopped stop)

/-- Stops a command that is about to be started when a token is given and cancelled. -/
def proceed (token : Option Token) : Action Unit := do
  if ← isCancelled token then halt .byCaller

def moveClock (machine : Machine) (time : Rat) : Action Unit :=
  modify (·.movedTo machine time)

def noteStart (launch : Launch) : Action Nat :=
  modifyGet fun world => (world.started.length, world.withStarted launch)

def kill (number : Nat) : Action Unit :=
  modify (·.withKilled number)

/-- The outcome of an action, which never fails itself. -/
def attempt {α : Type} (action : Action α) : Action (Except Failure α) :=
  ExceptT.mk (Except.ok <$> action.run)

/-! ## What actions do to a world -/

section Run

variable {α β : Type} (world : World)

/-- What an action comes to in a world, and the world after it. -/
def run (action : Action α) (world : World) : Except Failure α × World :=
  ExceptT.run action world

@[simp]
theorem run_pure (value : α) : (pure value : Action α).run world = (.ok value, world) := rfl

theorem run_bind (action : Action α) (next : α → Action β) :
    (action >>= next).run world =
      match action.run world with
      | (.ok value, world) => (next value).run world
      | (.error failure, world) => (.error failure, world) := by
  unfold run
  rw [ExceptT.run_bind]
  simp only [bind, StateT.bind]
  cases ExceptT.run action world with
  | mk outcome after => cases outcome <;> rfl

theorem run_bind_eq_ok {action : Action α} {next : α → Action β} {value : β} {after : World} :
    (action >>= next).run world = (.ok value, after) ↔
      ∃ first between, action.run world = (.ok first, between) ∧
        (next first).run between = (.ok value, after) := by
  rw [run_bind]
  cases action.run world with
  | mk outcome between =>
    cases outcome with
    | error failure => simp
    | ok first =>
      constructor
      · exact fun ran => ⟨first, between, rfl, ran⟩
      · rintro ⟨_, _, ⟨⟩, ran⟩
        exact ran

theorem run_map (action : Action α) (f : α → β) :
    (f <$> action).run world = ((action.run world).1.map f, (action.run world).2) := by
  rw [map_eq_pure_bind, run_bind]
  cases action.run world with
  | mk outcome after => cases outcome <;> rfl

@[simp]
theorem run_throw (failure : Failure) :
    (throw failure : Action α).run world = (.error failure, world) := rfl

@[simp]
theorem run_lift (outcome : Except Failure α) :
    (liftM outcome : Action α).run world = (outcome, world) := rfl

@[simp]
theorem run_get : (get : Action World).run world = (.ok world, world) := rfl

@[simp]
theorem run_set (other : World) : (set other : Action Unit).run world = (.ok (), other) := rfl

@[simp]
theorem run_modify (change : World → World) :
    (modify change : Action Unit).run world = (.ok (), change world) := rfl

@[simp]
theorem run_attempt (action : Action α) :
    (attempt action).run world = (.ok (action.run world).1, (action.run world).2) := rfl

@[simp]
theorem run_record (level : Level) (component : Component) (text : String) :
    (record level component text).run world = (.ok (), world.note level component text) := rfl

@[simp]
theorem run_notify (notice : Notice) :
    (notify notice).run world =
      (.ok (), { world with journal := world.journal ++ [.notice notice] }) := rfl

@[simp]
theorem run_cancel (token : Token) :
    (cancel token).run world = (.ok (), { world with tokens := world.tokens.cancel token }) := rfl

@[simp]
theorem run_newToken (parent : Token) :
    (newToken parent).run world =
      (.ok (world.tokens.child parent).1,
        { world with tokens := (world.tokens.child parent).2 }) := rfl

@[simp]
theorem run_isCancelled (token : Option Token) :
    (isCancelled token).run world = (.ok (token.any world.tokens.isCancelled), world) := by
  cases token <;> rfl

theorem run_checkpoint (token : Option Token) :
    (checkpoint token).run world =
      (if token.any world.tokens.isCancelled then .error (.stopped .byCaller) else .ok (),
        world) := by
  simp only [checkpoint, run_bind, run_isCancelled]
  split <;> rfl

@[simp]
theorem run_halt (stop : Stop) :
    (halt stop : Action α).run world = (.error (.stopped stop), world.withHalt stop) := rfl

theorem run_proceed (token : Option Token) :
    (proceed token).run world =
      if token.any world.tokens.isCancelled then
        (.error (.stopped .byCaller), world.withHalt .byCaller)
      else (.ok (), world) := by
  simp only [proceed, run_bind, run_isCancelled]
  split <;> rfl

@[simp]
theorem run_moveClock (machine : Machine) (time : Rat) :
    (moveClock machine time).run world = (.ok (), world.movedTo machine time) := rfl

@[simp]
theorem run_noteStart (launch : Launch) :
    (noteStart launch).run world = (.ok world.started.length, world.withStarted launch) := rfl

@[simp]
theorem run_kill (number : Nat) :
    (kill number).run world = (.ok (), world.withKilled number) := rfl

end Run

end Action

end CheckRouter
