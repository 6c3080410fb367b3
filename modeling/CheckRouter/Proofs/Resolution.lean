import CheckRouter.Proofs.Availability

/-!
# One path for an executable

A checker resolves the name of an executable in four places, each time from the raw text. Under an
absolute project root `resolve_settles` says that all of them mean one absolute path, and that the
text of that path may stand for the name in any of them.
-/

namespace CheckRouter

open CheckRouter.Action

variable {machine : Machine} {checker : Checker} {settings : Settings} {executable : String}
  {path : Path}

theorem Path.toString_ne_empty (absolute : path.isAbsolute = true) : path.toString ≠ "" := by
  intro empty
  have back := ofString_toString absolute
  rw [empty] at back
  rw [← back] at absolute
  exact absurd absolute (by decide)

theorem Command.lookup_toString (absolute : path.isAbsolute = true) (rest : List String) :
    lookup machine (path.toString :: rest) = .ok (path.toString :: rest) := by
  have back := Path.ofString_toString absolute
  rw [lookup_of_isAbsolute (back.symm ▸ absolute), back]

namespace Checker

/-- A checker takes a name for one path wherever it uses it: a file that is unfit, or may not be looked
up, is reported under that path, the version query and the check start that path and nothing else
instead, and both run in the virtual environment of that path. -/
structure Uses (checker : Checker) (machine : Machine) (executable : String) (path : Path) :
    Prop where
  unfit : machine.pathExists path = .ok false ∨ machine.isDirectory path = .ok true → ∀ world,
    (checker.validate machine executable).run world =
      (.ok false, world.note .warning .runner
        ("Error while checking mypy path " ++ path.toString ++ ": not exists or not a file path"))
  refused : ∀ failure, machine.look path.toString = .error failure → ∀ world,
    (checker.validate machine executable).run world = (.error failure, world)
  queried : (∃ failure, machine.look (interpreterBeside machine path).toString = .error failure ∧
      checker.launcher machine executable = .error failure) ∨
    ∃ before, (before = [] ∨ before = [(interpreterBeside machine path).toString]) ∧
      checker.launcher machine executable = .ok (before ++ [path.toString]) ∧
      let command := before ++ [path.toString, "-V"]
      Command.lookup machine command = .ok command ∧
        (machine.pathExists path = .ok true → machine.isDirectory path = .ok false →
          ∀ environment, environmentFor machine path = .ok environment → ∀ world,
            (checker.validate machine executable).run world =
              (attempt (Command.run machine checker.token
                ⟨some checker.settings.projectRoot, some environment, none⟩ command) >>=
                  weigh command).run world)
  checked : ∀ bucket extra, bucket.executable = executable → ∃ rest,
    checker.command machine bucket extra = .ok (path.toString :: rest) ∧
      Command.lookup machine (path.toString :: rest) = .ok (path.toString :: rest)
  environment : checker.environment machine executable = environmentFor machine path

/-- It makes no difference to a checker which of two names it is given. -/
structure Interchangeable (checker : Checker) (machine : Machine) (one other : String) : Prop where
  validate : checker.validate machine one = checker.validate machine other
  launcher : checker.launcher machine one = checker.launcher machine other
  command : ∀ (bucket : Bucket) extra,
    checker.command machine { bucket with executable := one } extra =
      checker.command machine { bucket with executable := other } extra
  environment : checker.environment machine one = checker.environment machine other

theorem validate_of_examine (named : executable ≠ "") {examined : Except Failure Examined}
    (same : checker.examine machine executable = examined) (world : World) :
    (checker.validate machine executable).run world =
      ((liftM examined : Action Examined) >>= checker.inquire machine).run world := by
  rw [validate_eq, if_neg named, same]

theorem examine_of_unfit (resolved : checker.settings.resolve machine executable = .ok path)
    (unfit : machine.pathExists path = .ok false ∨ machine.isDirectory path = .ok true) :
    checker.examine machine executable = .ok (.noFile path) := by
  have held : machine.holdsFile path = .ok false := by
    rw [Machine.holdsFile_eq]
    rcases unfit with missing | directory
    · unfold Machine.pathExists at missing
      cases looked : machine.look path.toString with
      | error failure =>
        rw [looked] at missing
        cases missing
      | ok node =>
        rw [looked] at missing
        cases node with
        | none => rfl
        | some node => cases missing
    · rw [Machine.isDirectory_eq_true_iff.mp directory]
      rfl
  rw [examine, resolved, ok_bind, held]
  rfl

theorem examine_of_refused (resolved : checker.settings.resolve machine executable = .ok path)
    {failure : Failure} (refused : machine.look path.toString = .error failure) :
    checker.examine machine executable = .error failure := by
  rw [examine, resolved, ok_bind, Machine.holdsFile_eq, refused]
  rfl

theorem uses_of_resolve (rooted : checker.settings.projectRoot.isAbsolute = true)
    (named : executable ≠ "") (resolved : checker.settings.resolve machine executable = .ok path) :
    checker.Uses machine executable path where
  unfit unfit world := validate_of_examine named (examine_of_unfit resolved unfit) world
  refused failure refused world :=
    validate_of_examine named (examine_of_refused resolved refused) world
  queried := by
    have absolute := Settings.isAbsolute_of_resolve rooted resolved
    obtain ⟨failure, refused, fails⟩ | ⟨before, found, worded⟩ := launcher_of_resolve resolved
    · exact .inl ⟨failure, Preflight.isRegularFile_eq_error_iff.mp refused, fails⟩
    · have beside := found.imp_right And.left
      refine .inr ⟨before, beside, worded, ?_, fun there file environment made world => ?_⟩
      · rcases beside with rfl | rfl
        · exact Command.lookup_toString absolute _
        · have parent : path.parent.isAbsolute = true := absolute
          exact Command.lookup_toString (Path.isAbsolute_div parent _) _
      · have held := Machine.holdsFile_of_exists there file
        have examined := examine_eq_file.mpr
          ⟨path, _, environment, resolved, held, worded, made, rfl, rfl⟩
        rw [validate_of_examine named examined, List.append_assoc]
        rfl
  checked bucket extra same := by
    have absolute := Settings.isAbsolute_of_resolve rooted resolved
    rw [command, same, resolved]
    exact ⟨_, rfl, Command.lookup_toString absolute _⟩
  environment := by rw [environment, resolved, ok_bind]

theorem interchangeable_of_resolve {one other : String} (named : one ≠ "") (also : other ≠ "")
    (same : checker.settings.resolve machine one = checker.settings.resolve machine other) :
    checker.Interchangeable machine one other where
  validate := by simp only [validate, launcher, if_neg named, if_neg also, same]
  launcher := by simp only [launcher, same]
  command bucket extra := by simp only [command, same]
  environment := by simp only [environment, same]

end Checker

/-- A name whose home directory is known means one absolute path, and the text of that path means
the same. Whoever uses the name of an executable uses that path, and might as well be given its
text. -/
theorem Settings.resolve_settles (rooted : settings.projectRoot.isAbsolute = true)
    (known : ∃ expanded, machine.expandHome (Path.ofString executable) = .ok expanded) :
    ∃ path, settings.resolve machine executable = .ok path ∧ path.isAbsolute = true ∧
      settings.resolve machine path.toString = .ok path ∧
      (executable ≠ "" → ∀ notifies token,
        let checker : Checker := ⟨settings, notifies, token⟩
        checker.Uses machine executable path ∧
          checker.Interchangeable machine executable path.toString) := by
  obtain ⟨path, resolved⟩ := Preflight.exists_resolve known
  have absolute := isAbsolute_of_resolve rooted resolved
  have again := settings.resolve_toString machine absolute
  refine ⟨path, resolved, absolute, again, fun named notifies token => ?_⟩
  exact ⟨Checker.uses_of_resolve rooted named resolved, Checker.interchangeable_of_resolve named
    (Path.toString_ne_empty absolute) (resolved.trans again.symm)⟩

/-- A machine whose home directory is given by a relative path. -/
def relativeHome : Machine where
  files := ⟨[]⟩
  directory := "/w"
  environment := [("HOME", "u/")]
  accountHome := "/"
  windows := false
  respond := fun _ => .ok {}
  cancelledAt := none
  finishOrder := []
  interruptedWait := none

/-- Such a home directory is seen from the project root like any other path. -/
theorem Settings.resolve_settles_relativeHome :
    let settings : Settings := { projectRoot := Path.ofString "//p" }
    let checker : Checker := { settings }
    settings.projectRoot.isAbsolute = true ∧
      (∃ expanded, relativeHome.expandHome (Path.ofString "~//v/./bin/mypy") = .ok expanded) ∧
      checker.Uses relativeHome "~//v/./bin/mypy" (Path.ofString "//p/u/v/bin/mypy") ∧
      checker.Interchangeable relativeHome "~//v/./bin/mypy" "//p/u/v/bin/mypy" := by
  intro settings checker
  have rooted : settings.projectRoot.isAbsolute = true := by decide
  have known : ∃ expanded,
      relativeHome.expandHome (Path.ofString "~//v/./bin/mypy") = .ok expanded :=
    ⟨Path.ofString "u/v/bin/mypy", by decide +kernel⟩
  obtain ⟨path, resolved, -, -, means⟩ := resolve_settles rooted known
  have found : settings.resolve relativeHome "~//v/./bin/mypy" =
      .ok (Path.ofString "//p/u/v/bin/mypy") := by decide +kernel
  cases resolved.symm.trans found
  have text : (Path.ofString "//p/u/v/bin/mypy").toString = "//p/u/v/bin/mypy" := by decide +kernel
  obtain ⟨uses, interchangeable⟩ := means (by decide) false none
  rw [text] at interchangeable
  exact ⟨rooted, known, uses, interchangeable⟩

end CheckRouter
