import CheckRouter.Machine.Rule
import CheckRouter.Proofs.Ends
import CheckRouter.Proofs.Probing

/-!
# What a sandbox manager says

An answer of the manager counts if it could be started, ended in time and with status zero, and the
first line with text that it printed names an existing directory. Whatever else happens to one
question leaves the finding for that question open, with two exceptions: a probe fails when that line
is a path whose home directory cannot be told, or one that the system refuses to look up.
-/

namespace CheckRouter

open CheckRouter.Action

namespace Sandbox

/-! ## Answers -/

def Findings.answer (findings : Findings) : Question → Option Path
  | .environment => findings.environment
  | .project => findings.project

/-- The arguments and the behaviour of the manager that is asked, if it can be started. -/
def opening (machine : Machine) (manager : Manager) (directory : Path) (question : Question) :
    Except Failure (List String × Behaviour) :=
  Command.opening machine (manner machine manager directory) [manager.command, question.option]

/-- The first line with text, without the blanks at its ends. -/
def IsFirstLine (output line : String) : Prop :=
  ∃ empty raw rest, Text.lines output = empty ++ raw :: rest ∧
    (∀ other ∈ empty, Text.strip other = "") ∧ Text.strip raw = line ∧ line ≠ ""

/-- The line that counts of what the manager prints: it was started, and has ended in time and with
status zero. -/
def Prints (machine : Machine) (manager : Manager) (directory : Path) (question : Question)
    (line : String) : Prop :=
  ∃ arguments behaviour,
    opening machine manager directory question = .ok (arguments, behaviour) ∧
      behaviour.status = 0 ∧ Command.InTime manager.limit behaviour ∧
        IsFirstLine (Command.Process.textOf behaviour.output) line

/-- The manager names an existing directory. -/
def Reports (machine : Machine) (manager : Manager) (directory : Path) (question : Question)
    (root : Path) : Prop :=
  ∃ line, Prints machine manager directory question line ∧
    machine.expandHome (Path.ofString line) = .ok root ∧ machine.isDirectory root = .ok true

/-- The path that a line names cannot be told, or the system refuses to look it up. -/
def Unsettled (machine : Machine) (line : String) (failure : Failure) : Prop :=
  machine.expandHome (Path.ofString line) = .error failure ∨
    ∃ path, machine.expandHome (Path.ofString line) = .ok path ∧
      machine.look path.toString = .error failure

variable {machine : Machine} {manager : Manager} {token : Option Token} {directory : Path}
  {question : Question} {output line : String} {root : Path} {world : World}

theorem isFirstLine_iff :
    IsFirstLine output line ↔
      ((Text.lines output).map Text.strip).find? (· != "") = some line := by
  rw [List.find?_map, Option.map_eq_some_iff]
  simp only [List.find?_eq_some_iff_append]
  constructor
  · rintro ⟨empty, raw, rest, cut, blank, rfl, text⟩
    exact ⟨raw, ⟨by simpa using text, empty, rest, cut, by simpa using blank⟩, rfl⟩
  · rintro ⟨raw, ⟨text, empty, rest, cut, blank⟩, rfl⟩
    exact ⟨empty, raw, rest, cut, by simpa using blank, rfl, by simpa using text⟩

theorem IsFirstLine.unique {other : String} (one : IsFirstLine output line)
    (two : IsFirstLine output other) : line = other :=
  Option.some.inj ((isFirstLine_iff.mp one).symm.trans (isFirstLine_iff.mp two))

theorem Prints.unique {other : String} (one : Prints machine manager directory question line)
    (two : Prints machine manager directory question other) : line = other := by
  obtain ⟨arguments, behaviour, opened, -, -, first⟩ := one
  obtain ⟨_, _, again, -, -, also⟩ := two
  cases opened.symm.trans again
  exact first.unique also

theorem Reports.unique {other : Path} (one : Reports machine manager directory question root)
    (two : Reports machine manager directory question other) : root = other := by
  obtain ⟨line, prints, expands, -⟩ := one
  obtain ⟨_, again, also, -⟩ := two
  cases prints.unique again
  exact Except.ok.inj (expands.symm.trans also)

theorem reported?_cases (machine : Machine) (output : String) :
    (∀ line, ¬IsFirstLine output line) ∧ reported? machine output = .ok none ∨
      ∃ line, IsFirstLine output line ∧ reported? machine output = (do
        let path ← machine.expandHome (Path.ofString line)
        return if ← machine.isDirectory path then some path else none) := by
  simp only [isFirstLine_iff, reported?]
  cases found : ((Text.lines output).map Text.strip).find? (· != "") with
  | none => exact .inl ⟨by simp, rfl⟩
  | some line =>
    exact .inr ⟨line, rfl, rfl⟩

theorem located_outcome (machine : Machine) (directory : Path) (question : Question)
    (output : String) (world : World) :
    ((located machine directory question output).run world).1 = reported? machine output := by
  rw [located, run_bind, run_lift]
  cases reported? machine output with
  | error failure => rfl
  | ok found => cases found <;> rfl

theorem interpret_outcome (machine : Machine) (directory : Path) (question : Question)
    (completed : Completed) (world : World) :
    ((interpret machine directory question completed).run world).1 =
      if completed.ok then reported? machine completed.output else .ok none := by
  have reads := located_outcome machine directory question completed.output
  simp only [interpret]
  by_cases silent : Text.strip completed.errors = "" <;> cases completed.ok <;>
    simp [silent, run_bind, run_map, reads, Except.map]

theorem heard_refusal {failure : Failure} (refusal : failure.isRefusal = true) (world : World) :
    ((heard machine directory question (.error failure)).run world).1 = .ok none := by
  simp only [heard, refusal, if_true]
  split <;> rfl

theorem heard_grave {failure : Failure} (grave : failure.isRefusal = false) (world : World) :
    (heard machine directory question (.error failure)).run world = (.error failure, world) := by
  have found : failure.isNotFound = false := by
    cases failure with
    | notOnSearchPath program => cases grave
    | system error path => cases grave
    | _ => rfl
  rw [heard, found, grave]
  rfl

/-- How asking one thing ends: with an answer that is exactly what the manager reports, because it is
stopped, because the manager cannot be started for another cause than that the system refuses to, or
because the path that its line names cannot be told or looked up. -/
inductive Asked (machine : Machine) (manager : Manager) (token : Option Token) (directory : Path)
    (question : Question) : Except Failure (Option Path) → World → Prop
  | answered (found : Option Path) (after : World)
      (faithful : ∀ root, found = some root ↔ Reports machine manager directory question root) :
      Asked machine manager token directory question (.ok found) after
  | stopped (stop : Stop) (after : World)
      (why : token.any after.tokens.isCancelled = true ∨ Command.Interrupted machine
        (manner machine manager directory) [manager.command, question.option]) :
      Asked machine manager token directory question (.error (.stopped stop)) after
  | unopened (failure : Failure) (after : World)
      (refused : opening machine manager directory question = .error failure)
      (grave : failure.isRefusal = false) :
      Asked machine manager token directory question (.error failure) after
  | unsettled (line : String) (failure : Failure) (after : World)
      (prints : Prints machine manager directory question line)
      (fails : Unsettled machine line failure) :
      Asked machine manager token directory question (.error failure) after

theorem asked_none {after : World}
    (silent : ∀ line, ¬Prints machine manager directory question line) :
    Asked machine manager token directory question (.ok none) after := by
  refine .answered none after fun root => ?_
  constructor
  · intro found
    cases found
  · rintro ⟨line, prints, -⟩
    exact absurd prints (silent line)

theorem asked_of_ended {behaviour : Behaviour} {arguments : List String} {after : World}
    (opened : opening machine manager directory question = .ok (arguments, behaviour))
    (inTime : Command.InTime manager.limit behaviour) (succeeded : behaviour.status = 0) :
    Asked machine manager token directory question
      (reported? machine (Command.Process.textOf behaviour.output)) after := by
  have prints_iff (line : String) : Prints machine manager directory question line ↔
      IsFirstLine (Command.Process.textOf behaviour.output) line := by
    constructor
    · rintro ⟨_, _, again, -, -, first⟩
      cases opened.symm.trans again
      exact first
    · exact fun first => ⟨arguments, behaviour, opened, succeeded, inTime, first⟩
  rcases reported?_cases machine (Command.Process.textOf behaviour.output) with
    ⟨empty, same⟩ | ⟨line, first, same⟩
  · rw [same]
    exact asked_none fun line prints => empty line ((prints_iff line).mp prints)
  · have prints := (prints_iff line).mpr first
    rw [same]
    cases expanded : machine.expandHome (Path.ofString line) with
    | error failure => exact .unsettled line failure after prints (.inl expanded)
    | ok path =>
      cases looked : machine.isDirectory path with
      | error failure =>
        have refused := Machine.map_look_eq_error_iff.mp looked
        simp only [ok_bind, looked, error_bind]
        exact .unsettled line failure after prints (.inr ⟨path, expanded, refused⟩)
      | ok there =>
        simp only [ok_bind, looked]
        refine .answered (if there then some path else none) after fun root => ?_
        constructor
        · intro found
          split at found
          · next directory =>
            cases found
            exact ⟨line, prints, expanded, by rw [looked, directory]⟩
          · cases found
        · rintro ⟨other, also, expands, directory⟩
          cases prints.unique also
          cases expanded.symm.trans expands
          cases looked.symm.trans directory
          rfl

theorem asked (machine : Machine) (manager : Manager) (token : Option Token) (directory : Path)
    (question : Question) (world : World) :
    let result := (ask machine manager token directory question).run world
    Asked machine manager token directory question result.1 result.2 := by
  have concluded := Command.concluded machine token (manner machine manager directory)
    [manager.command, question.option] world
  rw [ask_eq, run_bind, run_attempt]
  generalize (Command.run machine token _ _).run world = ran at concluded ⊢
  dsimp only
  cases concluded with
  | unopened failure after refused =>
    cases refusal : failure.isRefusal with
    | false =>
      rw [heard_grave refusal]
      exact .unopened failure after refused refusal
    | true =>
      rw [heard_refusal refusal]
      refine asked_none ?_
      rintro line ⟨arguments, behaviour, opened, -⟩
      cases refused.symm.trans opened
  | stopped stop after why => exact .stopped stop after why
  | ended process after opened inTime =>
    show Asked _ _ _ _ _ ((interpret machine directory question process.completed).run after).1 _
    rw [interpret_outcome]
    split
    · next succeeded => exact asked_of_ended opened inTime (beq_iff_eq.mp succeeded)
    · next fails =>
      refine asked_none ?_
      rintro line ⟨arguments, behaviour, again, succeeded, -⟩
      cases opened.symm.trans again
      exact absurd (beq_iff_eq.mpr succeeded) fails
  | expired process bound after opened late =>
    show Asked _ _ _ _ _
      ((interpret machine directory question (process.timedOut bound)).run after).1 _
    rw [interpret_outcome]
    refine asked_none ?_
    rintro line ⟨arguments, behaviour, again, -, inTime, -⟩
    cases opened.symm.trans again
    exact absurd inTime late


/-! ## Probes -/

/-- The memos that probes leave behind. -/
inductive Memo.Learnt (machine : Machine) (manager : Manager) : Memo → Prop
  | nil : Memo.Learnt machine manager []
  | probed {memo after : Memo} {token : Option Token} {directory : Path} {findings : Findings}
      {world last : World} (learnt : Memo.Learnt machine manager memo)
      (ran : (probe machine manager token memo directory).run world =
        (.ok (findings, after), last)) :
      Memo.Learnt machine manager after

/-- Findings that are what the manager reports. -/
def Findings.Faithful (machine : Machine) (manager : Manager) (directory : Path)
    (findings : Findings) : Prop :=
  ∀ question root,
    findings.answer question = some root ↔ Reports machine manager directory question root

variable {memo : Memo}

theorem Findings.faithful_mk {environment project : Option Path}
    (answers : ∀ root, environment = some root ↔
      Reports machine manager directory .environment root)
    (also : ∀ root, project = some root ↔ Reports machine manager directory .project root) :
    Findings.Faithful machine manager directory ⟨environment, project⟩ := by
  intro question root
  cases question with
  | environment => exact answers root
  | project => exact also root

/-- How a probe of a resolved directory ends: with what the manager reports, which it remembers, or
because one of the two questions fails. -/
inductive Probed (machine : Machine) (manager : Manager) (token : Option Token) (memo : Memo)
    (key : Path) : Except Failure (Findings × Memo) → World → Prop
  | recalled (findings : Findings) (after : World) (known : memo.lookup key = some findings) :
      Probed machine manager token memo key (.ok (findings, memo)) after
  | learnt (findings : Findings) (after : World) (fresh : memo.lookup key = none)
      (faithful : findings.Faithful machine manager key) :
      Probed machine manager token memo key (.ok (findings, (key, findings) :: memo)) after
  | failed (question : Question) (failure : Failure) (after : World)
      (asked : Asked machine manager token key question (.error failure) after) :
      Probed machine manager token memo key (.error failure) after

theorem probe_known {key : Path} {findings : Findings}
    (resolved : machine.resolve directory = .ok key) (known : memo.lookup key = some findings) :
    probe machine manager token memo directory = pure (findings, memo) := by
  rw [probe, resolved, lift_ok_bind]
  simp only [known]

theorem probe_fresh {key : Path} (resolved : machine.resolve directory = .ok key)
    (fresh : memo.lookup key = none) :
    probe machine manager token memo directory = (do
      let environment ← ask machine manager token key .environment
      let project ← ask machine manager token key .project
      let findings : Findings := ⟨environment, project⟩
      return (findings, (key, findings) :: memo)) := by
  rw [probe, resolved, lift_ok_bind]
  simp only [fresh]

theorem probed_cases {key : Path} (resolved : machine.resolve directory = .ok key)
    (memo : Memo) (world : World) :
    let result := (probe machine manager token memo directory).run world
    Probed machine manager token memo key result.1 result.2 := by
  dsimp only
  cases known : memo.lookup key with
  | some findings =>
    rw [probe_known resolved known]
    exact .recalled findings world known
  | none =>
    rw [probe_fresh resolved known]
    have first := asked machine manager token key .environment world
    rw [run_bind]
    cases ran : (ask machine manager token key .environment).run world with
    | mk outcome between =>
      rw [ran] at first
      cases outcome with
      | error failure => exact .failed .environment failure between first
      | ok environment =>
        have second := asked machine manager token key .project between
        dsimp only
        rw [run_bind]
        cases also : (ask machine manager token key .project).run between with
        | mk outcome last =>
          rw [also] at second
          cases outcome with
          | error failure => exact .failed .project failure last second
          | ok project =>
            cases first with | answered _ _ answers
            cases second with | answered _ _ alsoAnswers
            exact .learnt _ last known (Findings.faithful_mk answers alsoAnswers)

theorem probed_of_ok {findings : Findings} {after : Memo} {last : World}
    (ran : (probe machine manager token memo directory).run world =
      (.ok (findings, after), last)) :
    ∃ key, machine.resolve directory = .ok key ∧
      Probed machine manager token memo key (.ok (findings, after)) last := by
  cases resolved : machine.resolve directory with
  | error failure =>
    rw [probe, resolved] at ran
    cases ran
  | ok key =>
    have ends : Probed machine manager token memo key _ _ := probed_cases resolved memo world
    rw [ran] at ends
    exact ⟨key, rfl, ends⟩

theorem Memo.Learnt.faithful (learnt : Memo.Learnt machine manager memo) {key : Path}
    {findings : Findings} (known : memo.lookup key = some findings) :
    findings.Faithful machine manager key := by
  -- a probe adds at most one entry, and only after both questions were answered
  induction learnt with
  | nil => cases known
  | probed learnt ran ih =>
    obtain ⟨place, -, ends⟩ := probed_of_ok ran
    cases ends with
    | recalled => exact ih known
    | learnt _ _ _ faithful =>
      rw [List.lookup_cons] at known
      split at known
      · next same =>
        cases known
        rw [beq_iff_eq.mp same]
        exact faithful
      · exact ih known

theorem Memo.Learnt.faithful_of_probe (learnt : Memo.Learnt machine manager memo)
    {findings : Findings} {after : Memo} {last : World}
    (ran : (probe machine manager token memo directory).run world =
      (.ok (findings, after), last)) :
    ∃ key, machine.resolve directory = .ok key ∧ findings.Faithful machine manager key := by
  obtain ⟨key, resolved, ends⟩ := probed_of_ok ran
  cases ends with
  | recalled _ _ known => exact ⟨key, resolved, learnt.faithful known⟩
  | learnt _ _ _ faithful => exact ⟨key, resolved, faithful⟩

theorem Asked.of_error {failure : Failure} {after : World}
    (asked : Asked machine manager token directory question (.error failure) after)
    (clean : Machine.holdsNull manager.command = false)
    (place : Machine.holdsNull directory.toString = false) :
    (∃ stop, failure = .stopped stop ∧ (token.any after.tokens.isCancelled = true ∨
        Command.Interrupted machine (manner machine manager directory)
          [manager.command, question.option])) ∨
      ∃ line, Prints machine manager directory question line ∧ Unsettled machine line failure := by
  cases asked with
  | stopped stop _ why => exact .inl ⟨stop, rfl, why⟩
  | unsettled line _ _ prints fails => exact .inr ⟨line, prints, fails⟩
  | unopened _ _ refused grave =>
    have words : [manager.command, question.option].any Machine.holdsNull = false := by
      rw [List.any_cons, clean]
      cases question <;> decide
    have refusal := Command.refused_opening words (by rintro _ ⟨⟩; exact place) failure refused
    cases refusal.symm.trans grave

/-- A machine whose sandbox manager prints two texts about the directory `/p`. -/
def managed (environment project : String) : Machine where
  files := ⟨[
    (["bin", "pipenv"], .file ⟨[], true, false⟩), (["v", "bin", "mypy"], .file ⟨[], true, false⟩),
    (["p", "a.py"], .file ⟨[], false, false⟩), (["p", "mypy.ini"], .file ⟨[], false, false⟩)]⟩
  directory := "/"
  environment := []
  accountHome := "/"
  windows := false
  respond := Rule.respond
    [{ directory := some "/p", argument := some "--venv",
       response := .ok { output := environment.toUTF8.toList } },
     { directory := some "/p", argument := some "--where",
       response := .ok { output := project.toUTF8.toList } }]
  cancelledAt := none
  finishOrder := []
  interruptedWait := none

end Sandbox

end CheckRouter
