import CheckRouter.Proofs.Checking
import CheckRouter.Proofs.Issue.Lines

/-!
# What a check can fail with

A failure is a stop if somebody cancelled or interrupted a run, and a configuration failure if what
a run was given is at fault. A check that nobody disturbs does not fail with a stop, and with a
configuration failure only if the arguments of the settings cannot be read.
-/

namespace CheckRouter

variable {α β : Type}

namespace Failure

/-- Whether the settings or the files that were given are at fault. -/
def isConfiguration : Failure → Bool
  | .noSources | .missingConfigFile _ | .invalidSource _ | .badArguments .. => true
  | .malformedProjectFile .. | .sectionNotTable _ | .rejectedSettings _ => true
  | _ => false

def IsOrdinary (failure : Failure) : Prop :=
  failure.isStop = false ∧ failure.isConfiguration = false

end Failure

/-- An outcome that is a failure only of some kind. -/
def FailsOnly (kind : Failure → Prop) (outcome : Except Failure α) : Prop :=
  ∀ failure, outcome = .error failure → kind failure

def Unstopped (outcome : Except Failure α) : Prop :=
  ∀ failure, outcome = .error failure → failure.isStop = false

section FailsOnly

variable {kind more : Failure → Prop}

theorem failsOnly_ok (value : α) : FailsOnly kind (.ok value) := by
  intro failure fails
  cases fails

theorem failsOnly_error {failure : Failure} (allowed : kind failure) :
    FailsOnly kind (.error failure : Except Failure α) := by
  rintro _ ⟨⟩
  exact allowed

theorem FailsOnly.mono {outcome : Except Failure α} (fails : FailsOnly kind outcome)
    (allowed : ∀ failure, kind failure → more failure) : FailsOnly more outcome :=
  fun failure same => allowed failure (fails failure same)

theorem FailsOnly.bind {outcome : Except Failure α} {next : α → Except Failure β}
    (first : FailsOnly kind outcome)
    (second : ∀ value, outcome = .ok value → FailsOnly kind (next value)) :
    FailsOnly kind (outcome >>= next) := by
  cases outcome with
  | ok value => exact second value rfl
  | error failure => exact failsOnly_error (first failure rfl)

theorem FailsOnly.map {outcome : Except Failure α} (first : FailsOnly kind outcome) (f : α → β) :
    FailsOnly kind (outcome.map f) := by
  cases outcome with
  | ok value => exact failsOnly_ok (f value)
  | error failure => exact failsOnly_error (first failure rfl)

end FailsOnly

/-! ## Ordinary failures -/

theorem Machine.ordinary_look (machine : Machine) (name : String) :
    FailsOnly Failure.IsOrdinary (machine.look name) := by
  intro failure fails
  obtain ⟨-, error, -, -, rfl⟩ := look_eq_error_iff.mp fails
  exact ⟨rfl, rfl⟩

theorem Machine.ordinary_isRegularFile (machine : Machine) (path : Path) :
    FailsOnly Failure.IsOrdinary (machine.isRegularFile path) :=
  (machine.ordinary_look _).map _

theorem Virtualenv.ordinary_findRoot (machine : Machine) (program : Path) :
    FailsOnly Failure.IsOrdinary (findRoot machine program) :=
  (machine.ordinary_isRegularFile _).bind fun _ _ => failsOnly_ok _

theorem Settings.ordinary_resolve (settings : Settings) (machine : Machine) (text : String) :
    FailsOnly Failure.IsOrdinary (settings.resolve machine text) := by
  refine FailsOnly.map ?_ _
  unfold Machine.expandHome
  dsimp only
  repeat' split
  all_goals first | exact failsOnly_ok _ | exact failsOnly_error ⟨rfl, rfl⟩

theorem Command.ordinary_permit (machine : Machine) (launch : Launch) :
    FailsOnly Failure.IsOrdinary (permit machine launch) := by
  unfold permit
  split
  · exact failsOnly_error ⟨rfl, rfl⟩
  · refine FailsOnly.bind ?_ fun _ _ => ?_
    · unfold enter
      repeat' split
      all_goals first | exact failsOnly_ok _ | exact failsOnly_error ⟨rfl, rfl⟩
    · unfold permitProgram
      dsimp only
      split
      · exact failsOnly_ok _
      · exact failsOnly_error ⟨rfl, rfl⟩

theorem Command.ordinary_opening (machine : Machine) (options : Options) (command : List String) :
    FailsOnly Failure.IsOrdinary (opening machine options command) := by
  refine FailsOnly.bind ?_ fun arguments _ => (ordinary_permit _ _).bind fun _ _ => ?_
  · unfold lookup
    dsimp only
    repeat' split
    all_goals first | exact failsOnly_ok _ | exact failsOnly_error ⟨rfl, rfl⟩
  · split
    · exact failsOnly_error ⟨rfl, rfl⟩
    · exact failsOnly_ok _

theorem Diagnostic.ordinary_valueOr (fallback : Int) (digits : Option (List Char)) :
    FailsOnly Failure.IsOrdinary (valueOr fallback digits) := by
  cases digits with
  | none => exact failsOnly_ok fallback
  | some digits =>
    simp only [valueOr, value]
    split
    · exact failsOnly_error ⟨rfl, rfl⟩
    · exact failsOnly_ok _

theorem Issue.ordinary_ofDiagnostic (line : String) (diagnostic : Diagnostic) :
    FailsOnly Failure.IsOrdinary (ofDiagnostic line diagnostic) := by
  unfold ofDiagnostic
  dsimp only
  split
  · refine (Diagnostic.ordinary_valueOr _ _).bind fun row _ =>
      (Diagnostic.ordinary_valueOr _ _).bind fun column _ => ?_
    split
    · exact failsOnly_ok _
    · exact failsOnly_error ⟨rfl, rfl⟩
  · exact failsOnly_error ⟨rfl, rfl⟩

theorem Issue.ordinary_ofLine? (text : String) : FailsOnly Failure.IsOrdinary (ofLine? text) := by
  unfold ofLine?
  dsimp only
  split
  · exact failsOnly_ok none
  · split
    · exact (ordinary_ofDiagnostic _ _).map _
    · exact failsOnly_ok none

theorem Issue.ordinary_ofLines (lines : List String) :
    FailsOnly Failure.IsOrdinary (ofLines lines) := by
  intro failure fails
  obtain ⟨_, line, _, _, _, unread⟩ := ofLines_eq_error_iff.mp fails
  exact ordinary_ofLine? line failure unread

/-! ## Checks -/

/-- A failure that says nothing of a configuration, or that its arguments cannot be read. -/
def Settings.Blames (settings : Settings) (failure : Failure) : Prop :=
  failure.IsOrdinary ∨ settings.arguments = .error failure

namespace Checker

theorem ordinary_environmentFor (machine : Machine) (program : Path) :
    FailsOnly Failure.IsOrdinary (environmentFor machine program) :=
  (Virtualenv.ordinary_findRoot machine program).map _

theorem ordinary_launcher (checker : Checker) (machine : Machine) (executable : String) :
    FailsOnly Failure.IsOrdinary (checker.launcher machine executable) := by
  refine (checker.settings.ordinary_resolve machine executable).bind fun path _ => ?_
  dsimp only
  split
  · exact failsOnly_ok _
  · refine (machine.ordinary_isRegularFile _).bind fun there _ => ?_
    split <;> exact failsOnly_ok _

theorem ordinary_examine (checker : Checker) (machine : Machine) (executable : String) :
    FailsOnly Failure.IsOrdinary (checker.examine machine executable) := by
  refine (checker.settings.ordinary_resolve machine executable).bind fun path _ =>
    FailsOnly.bind ?_ fun there _ => ?_
  · rw [Machine.holdsFile_eq]
    exact (machine.ordinary_look _).map _
  · split
    · exact failsOnly_ok _
    · exact (checker.ordinary_launcher machine executable).bind fun words _ =>
        (ordinary_environmentFor machine path).bind fun environment _ => failsOnly_ok _

theorem blames_prepare (checker : Checker) (machine : Machine) (bucket : Bucket) :
    FailsOnly checker.settings.Blames (checker.prepare machine bucket) := by
  have resolves : FailsOnly checker.settings.Blames
      (checker.settings.resolve machine bucket.executable) :=
    (checker.settings.ordinary_resolve machine _).mono fun _ => .inl
  apply FailsOnly.bind
  · intro failure fails
    exact .inr fails
  · intro extra _
    refine (resolves.bind fun path _ => failsOnly_ok _).bind fun command _ => ?_
    refine (resolves.bind fun path _ => ?_).bind fun environment _ => failsOnly_ok _
    exact (ordinary_environmentFor machine path).mono fun _ => .inl

theorem blames_opening (checker : Checker) (machine : Machine) (bucket : Bucket) :
    FailsOnly checker.settings.Blames (checker.opening machine bucket) := by
  refine (checker.blames_prepare machine bucket).bind fun prepared _ => ?_
  obtain ⟨command, options⟩ := prepared
  have other := Command.ordinary_opening machine options command
  cases opened : Command.opening machine options command with
  | ok started =>
    simp only [opened]
    exact failsOnly_ok started
  | error failure =>
    simp only [opened]
    split
    · exact failsOnly_error (.inl ⟨rfl, rfl⟩)
    · exact failsOnly_error (.inl (other failure opened))

theorem ordinary_reading (completed : Completed) :
    FailsOnly Failure.IsOrdinary (reading completed) := by
  refine (Issue.ordinary_ofLines _).bind fun issues _ => ?_
  split
  · exact failsOnly_error ⟨rfl, rfl⟩
  · exact failsOnly_ok issues

theorem blames_alone (checker : Checker) (machine : Machine) (bucket : Bucket) :
    FailsOnly checker.settings.Blames (checker.alone machine bucket) :=
  (checker.blames_opening machine bucket).bind fun _ _ =>
    (ordinary_reading _).mono fun _ => .inl

end Checker

theorem Settings.arguments_eq_error {settings : Settings} {failure : Failure}
    (fails : settings.arguments = .error failure) :
    ∃ fault, failure = .badArguments settings.extraArguments fault := by
  unfold arguments at fails
  cases split : Text.ShellWords.split settings.extraArguments with
  | ok words =>
    rw [split] at fails
    cases fails
  | error fault =>
    rw [split] at fails
    cases fails
    exact ⟨fault, rfl⟩

theorem Checker.unstopped_alone (checker : Checker) (machine : Machine) (bucket : Bucket) :
    Unstopped (checker.alone machine bucket) := by
  intro failure fails
  rcases checker.blames_alone machine bucket failure fails with ordinary | unread
  · exact ordinary.1
  · obtain ⟨fault, rfl⟩ := Settings.arguments_eq_error unread
    rfl

end CheckRouter
