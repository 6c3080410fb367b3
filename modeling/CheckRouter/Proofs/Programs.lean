import CheckRouter.Proofs.Sources

/-!
# Programs that are looked up and programs that run

A command names its program as the caller sees it, from the working directory and with the search
path of the caller. The system looks for that name once more, from the directory in which the program
is to be started and, if the name has no slash, with the search path that the program is given. Both
come to one file if the name is absolute, or if the program is started where its caller is and as its
caller would search.
-/

namespace CheckRouter

open CheckRouter.Action

/-! ## Walks that are interrupted -/

namespace Disk

open FileTree

variable (disk : Disk)

/-- A walk that goes on along more steps where it arrived or met a link. -/
def Walk.goOn (rest : List String) : Walk → Walk
  | .refused error => .refused error
  | .arrived place node => disk.walk true place node rest
  | .atLink directory target left => .atLink directory target (left ++ rest)

theorem walk_append (place : Place) (node : Node) (steps rest : List String) :
    disk.walk true place node (steps ++ rest) =
      (disk.walk true place node steps).goOn disk rest := by
  induction steps generalizing place node with
  | nil => rfl
  | cons step steps ih =>
    rw [List.cons_append, walk, walk]
    split
    · rfl
    · split
      · exact ih _ _
      · split
        · exact ih _ _
        · cases disk.nodeAt (place ++ [step]) with
          | error error => rfl
          | ok node =>
            cases node with
            | directory => exact ih _ _
            | file file => exact ih _ _
            | link target => simp [Walk.goOn]

/-! ## Places without links on the way -/

/-- A place to which its own steps lead, through directories only. -/
def Straight (place : Place) : Prop :=
  ∀ front step, front ++ [step] <+: place →
    isIdle step = false ∧ step ≠ ".." ∧ disk.nodeAt (front ++ [step]) = .ok .directory

variable {disk} {place : Place} {step : String} {steps rest : List String} {links : Nat}

theorem straight_nil : disk.Straight [] := by
  intro front step before
  simp at before

theorem Straight.dropLast (straight : disk.Straight place) : disk.Straight place.dropLast :=
  fun front step before => straight front step (before.trans (List.dropLast_prefix place))

theorem Straight.concat (straight : disk.Straight place) (moves : isIdle step = false)
    (down : step ≠ "..") (there : disk.nodeAt (place ++ [step]) = .ok .directory) :
    disk.Straight (place ++ [step]) := by
  intro front other before
  rcases List.prefix_concat_iff.mp before with same | inside
  · obtain ⟨rfl, rfl⟩ := List.append_singleton_inj.mp same
    exact ⟨moves, down, there⟩
  · exact straight front other inside

theorem Straight.walk {front : Place} (straight : disk.Straight (front ++ rest)) :
    disk.walk true front .directory rest = .arrived (front ++ rest) .directory := by
  induction rest generalizing front with
  | nil => rw [Disk.walk, List.append_nil]
  | cons step rest ih =>
    have whole : front ++ step :: rest = front ++ [step] ++ rest := by simp
    rw [whole] at straight ⊢
    obtain ⟨moves, down, there⟩ := straight front step (List.prefix_append _ _)
    unfold isIdle at moves
    simp only [Disk.walk, moves, down, there, ne_eq, not_true_eq_false, if_false,
      Bool.false_eq_true]
    exact ih straight

/-- A walk that ends in a directory, or stops at a link in one, has come there without links. -/
def Walk.EndsStraight (disk : Disk) : Walk → Prop
  | .arrived place .directory => disk.Straight place
  | .atLink directory _ _ => disk.Straight directory
  | _ => True

theorem Straight.endsStraight (straight : disk.Straight place) (steps : List String) :
    (disk.walk true place .directory steps).EndsStraight disk := by
  induction steps generalizing place with
  | nil => exact straight
  | cons step rest ih =>
    simp only [Disk.walk, ne_eq, not_true_eq_false, if_false]
    split
    · exact ih straight
    · next moves =>
      split
      · exact ih straight.dropLast
      · next down =>
        cases there : disk.nodeAt (place ++ [step]) with
        | error error => trivial
        | ok node =>
          cases node with
          | directory => exact ih (straight.concat (Bool.eq_false_iff.mpr moves) down there)
          | link target =>
            simp only [Bool.not_true, Bool.and_false, Bool.false_eq_true, if_false]
            exact straight
          | file file =>
            cases rest with
            | nil => trivial
            | cons next rest =>
              have other : Node.file file ≠ .directory := by simp
              simp only [walk_of_ne_directory disk true other (List.cons_ne_nil next rest)]
              trivial

theorem Straight.of_walkLinks (straight : disk.Straight place) {last : Place}
    (leads : disk.walkLinks true links place steps = .ok (last, .directory)) :
    disk.Straight last := by
  induction links using Nat.strongRecOn generalizing place steps with
  | ind links ih =>
    rw [walkLinks.eq_def] at leads
    dsimp only at leads
    split at leads
    · cases leads
    · next node here =>
      by_cases inside : node = .directory
      · subst inside
        have ends := straight.endsStraight steps
        split at leads
        · cases leads
        · next walked =>
          cases leads
          rwa [walked] at ends
        · next directory target rest walked =>
          rw [walked] at ends
          split at leads
          · cases leads
          · next fewer =>
            split at leads
            · cases leads
            · refine ih fewer (Nat.lt_succ_self fewer) ?_ leads
              split
              · exact straight_nil
              · exact ends
      · cases steps with
        | nil =>
          rw [Disk.walk] at leads
          cases leads
          exact absurd rfl inside
        | cons step rest =>
          rw [walk_of_ne_directory disk true inside (List.cons_ne_nil step rest)] at leads
          cases leads

theorem straight_of_find {directory name : String}
    (found : disk.find true directory name = .ok (place, .directory)) : disk.Straight place := by
  unfold find findFrom at found
  split at found
  · cases found
  · split at found <;> exact straight_nil.of_walkLinks found

/-- Steps behind some that lead to a place without a link lead where they lead behind the steps of
that place. -/
theorem walkLinks_append_of_straight (straight : disk.Straight place)
    (leads : disk.walk true [] .directory steps = .arrived place .directory) (more : rest ≠ []) :
    disk.walkLinks true links [] (steps ++ rest) = disk.walkLinks true links [] (place ++ rest) := by
  have same (node : Node) :
      disk.walk true [] node (steps ++ rest) = disk.walk true [] node (place ++ rest) := by
    by_cases inside : node = .directory
    · subst inside
      have again : disk.walk true [] .directory place = .arrived ([] ++ place) .directory :=
        Straight.walk straight
      rw [walk_append, walk_append, leads, again, List.nil_append]
    · rw [walk_of_ne_directory disk true inside (by simp [more]),
        walk_of_ne_directory disk true inside (by simp [more])]
  rw [walkLinks.eq_def, walkLinks.eq_def]
  simp only [same]

theorem findFrom_of_isRooted {base other : List String} {name : String}
    (rooted : isRooted name = true) :
    disk.findFrom true base name = disk.findFrom true other name := by
  simp only [findFrom, rooted, if_true]

/-- A name is seen from a place as it is from a directory the name of which leads there without a
link. -/
theorem findFrom_of_straight (straight : disk.Straight place) {directory : String}
    (leads : disk.walk true [] .directory (FileTree.steps directory) = .arrived place .directory)
    (name : String) : disk.findFrom true place name = disk.find true directory name := by
  have more : FileTree.steps name ≠ [] := List.map_eq_nil_iff.not.mpr (Text.pieces_ne_nil _ _)
  unfold find findFrom
  rw [walkLinks_append_of_straight straight leads more]

end Disk

/-! ## The program that is executed -/

/-- The system executes a file when it starts the program of a launch: the one that the first name
without an obstacle stands for, seen from where the program is started. -/
def Launch.Executes (launch : Launch) (machine : Machine) (place : Place) (file : RegularFile) :
    Prop :=
  ∃ base name, Command.enter machine launch.directory = .ok base ∧
    (Command.programNames machine launch).find?
        (fun name => (Command.obstacle? machine base name).isNone) = some name ∧
      machine.disk.findFrom true base name = .ok (place, .file file) ∧ file.executable = true

namespace Command

variable {machine : Machine} {options : Options} {command arguments base : List String}
  {place : Place} {file : RegularFile} {name : String}

/-- The file that the program of a command was found to be, seen from where its caller works. -/
def Finds (machine : Machine) (arguments : List String) (place : Place) (file : RegularFile) :
    Prop :=
  machine.disk.find true machine.directory (arguments.headD "") = .ok (place, .file file) ∧
    file.executable = true

/-- A directory is the one in which the caller works, under whatever name. -/
def IsWorkingDirectory (machine : Machine) (directory : Path) : Prop :=
  ∃ place, machine.disk.find true machine.directory directory.toString =
      .ok (place, .directory) ∧
    machine.disk.walk true [] .directory (FileTree.steps machine.directory) =
      .arrived place .directory

/-- A program that was found has an absolute name, or is started where its caller works and, if its
name has no slash, with the search path of its caller. -/
def Anchored (machine : Machine) (options : Options) (arguments : List String) : Prop :=
  FileTree.isRooted (arguments.headD "") = true ∨
    (∀ directory ∈ options.directory, IsWorkingDirectory machine directory) ∧
      ('/' ∈ (arguments.headD "").toList ∨
        machine.startPath (options.environment.getD machine.environment) = machine.searchPath)

/-- A program has an absolute name if its command names it so, or if it is found by a search that
takes place in absolute directories only. -/
theorem isRooted_of_lookup (looked : lookup machine command = .ok arguments)
    (rooted : FileTree.isRooted (command.headD "") = true ∨
      '/' ∉ (command.headD "").toList ∧
        ∀ directory ∈ machine.searchPath, FileTree.isRooted directory = true) :
    FileTree.isRooted (arguments.headD "") = true := by
  cases command with
  | nil => cases looked
  | cons head rest =>
    simp only [List.headD_cons] at rooted
    unfold lookup at looked
    dsimp only at looked
    split at looked
    · next absolute =>
      cases looked
      rw [← Path.isAbsolute_ofString, List.headD_cons, Path.ofString_toString absolute, absolute]
    · next relative =>
      rw [Path.isAbsolute_ofString] at relative
      obtain ⟨bare, anchored⟩ := rooted.resolve_left relative
      split at looked
      · next program found =>
        cases looked
        rw [Machine.which, if_neg (by simpa using bare)] at found
        obtain ⟨directory, listed, rfl⟩ := List.mem_map.mp (List.mem_of_find?_eq_some found)
        have front := anchored directory listed
        unfold FileTree.isRooted at front ⊢
        have filled : directory ≠ "" := by
          rintro rfl
          exact absurd front (by decide)
        cases letters : directory.toList with
        | nil => exact absurd (String.toList_eq_nil_iff.mp letters) filled
        | cons c others =>
          rw [letters] at front
          simp only [List.headD_cons, Machine.programIn, if_neg filled]
          split <;> simpa [letters] using front
      · cases looked

theorem isNone_obstacle_iff : (obstacle? machine base name).isNone = true ↔
    Machine.holdsNull name = false ∧ ∃ place file,
      machine.find base name = .ok (place, .file file) ∧ file.executable = true := by
  unfold obstacle?
  cases Machine.holdsNull name with
  | true => simp
  | false =>
    cases machine.find base name with
    | error error => simp
    | ok found =>
      obtain ⟨place, node⟩ := found
      cases node with
      | file file => cases executable : file.executable <;> simp [executable]
      | directory => simp
      | link target => simp

theorem isProgram_iff : machine.isProgram name = true ↔
    Machine.holdsNull name = false ∧ ∃ place file,
      machine.find (FileTree.steps machine.directory) name = .ok (place, .file file) ∧
        file.executable = true := by
  unfold Machine.isProgram Machine.look
  cases Machine.holdsNull name with
  | true => simp
  | false =>
    cases machine.find (FileTree.steps machine.directory) name with
    | error error => cases absent : error.isAbsence <;> simp [absent]
    | ok found =>
      obtain ⟨place, node⟩ := found
      cases node <;> simp

/-- From the working directory every name is seen as its caller sees it. -/
theorem findFrom_of_enter
    (here : ∀ directory ∈ options.directory, IsWorkingDirectory machine directory)
    (entered : enter machine (options.directory.map Path.toString) = .ok base) (name : String) :
    machine.disk.findFrom true base name = machine.disk.find true machine.directory name := by
  cases given : options.directory with
  | none =>
    rw [given] at entered
    cases entered
    rfl
  | some directory =>
    obtain ⟨place, found, works⟩ := here directory given
    rw [given, Option.map_some, enter] at entered
    split at entered
    · cases entered
    · split at entered
      · cases entered
      · next other finds =>
        cases found.symm.trans (Machine.findFrom_of_find finds)
        cases entered
        exact Disk.findFrom_of_straight (Disk.straight_of_find found) works name
      · cases entered

theorem find_of_enter
    (here : ∀ directory ∈ options.directory, IsWorkingDirectory machine directory)
    (entered : enter machine (options.directory.map Path.toString) = .ok base) (name : String) :
    machine.find base name = machine.find (FileTree.steps machine.directory) name := by
  rw [Machine.find, findFrom_of_enter here entered name]
  rfl

theorem mem_slash_programIn {directory : String} (filled : directory ≠ "") (name : String) :
    '/' ∈ (Machine.programIn directory name).toList := by
  rw [Machine.programIn, if_neg filled]
  split
  · next slash => simp [List.mem_of_getLast? slash]
  · simp

/-- A program whose name has no slash is the first one of its name on the search path. -/
theorem which_of_bare (looked : lookup machine command = .ok arguments)
    (bare : '/' ∉ (arguments.headD "").toList) :
    (machine.searchPath.map (Machine.programIn · (arguments.headD ""))).find? machine.isProgram =
      some (arguments.headD "") := by
  cases command with
  | nil => cases looked
  | cons head rest =>
    unfold lookup at looked
    dsimp only at looked
    split at looked
    · next absolute =>
      cases looked
      refine absurd ?_ bare
      rw [← Path.ofString_toString absolute, Path.isAbsolute_ofString, FileTree.isRooted,
        beq_iff_eq] at absolute
      exact List.mem_of_head? absolute
    · split at looked
      · next program found =>
        cases looked
        rw [List.headD_cons] at bare ⊢
        rw [Machine.which] at found
        split at found
        · next slashed =>
          split at found
          · cases found
            exact absurd (by simpa using slashed) bare
          · cases found
        · obtain ⟨directory, -, rfl⟩ := List.mem_map.mp (List.mem_of_find?_eq_some found)
          obtain rfl : directory = "" := by
            by_contra filled
            exact bare (mem_slash_programIn filled head)
          exact found
      · cases looked

/-- What is executed when the system permits a launch. -/
theorem exists_of_permit {launch : Launch} (permitted : permit machine launch = .ok ()) :
    ∃ base, enter machine launch.directory = .ok base ∧
      ∃ name ∈ programNames machine launch, (obstacle? machine base name).isNone = true := by
  unfold permit at permitted
  split at permitted
  · cases permitted
  · obtain ⟨base, entered, permitted⟩ := bind_eq_ok.mp permitted
    obtain ⟨name, listed, clear⟩ := permitProgram_eq_ok_iff.mp permitted
    exact ⟨base, entered, name, listed, Option.isNone_iff_eq_none.mpr clear⟩

/-- A program that was found and is anchored is the program that the system executes, if it starts
one. -/
theorem executes_of_anchored (looked : lookup machine command = .ok arguments)
    (finds : Finds machine arguments place file) (anchored : Anchored machine options arguments)
    (permitted : permit machine (options.toLaunch arguments) = .ok ()) :
    (options.toLaunch arguments).Executes machine place file := by
  obtain ⟨found, executable⟩ := finds
  obtain ⟨base, entered, name, listed, clear⟩ := exists_of_permit permitted
  have seen : machine.disk.findFrom true base (arguments.headD "") = .ok (place, .file file) := by
    rcases anchored with rooted | ⟨here, -⟩
    · exact (Disk.findFrom_of_isRooted rooted).trans found
    · exact (findFrom_of_enter here entered _).trans found
  refine ⟨base, arguments.headD "", entered, ?_, seen, executable⟩
  by_cases slashed : '/' ∈ (arguments.headD "").toList
  · have only : programNames machine (options.toLaunch arguments) = [arguments.headD ""] :=
      if_pos (by simpa [Options.toLaunch] using slashed)
    rw [only, List.mem_singleton] at listed
    subst listed
    rw [only]
    exact List.find?_cons_of_pos clear
  · have searched : programNames machine (options.toLaunch arguments) =
        (machine.startPath (options.environment.getD machine.environment)).map
          (Machine.programIn · (arguments.headD "")) :=
      if_neg (by simpa [Options.toLaunch] using slashed)
    have bare := which_of_bare looked slashed
    rcases anchored with rooted | ⟨here, slash | alike⟩
    · rw [FileTree.isRooted, beq_iff_eq] at rooted
      exact absurd (List.mem_of_head? rooted) slashed
    · exact absurd slash slashed
    · have same : (fun name => (obstacle? machine base name).isNone) = machine.isProgram := by
        funext name
        rw [Bool.eq_iff_iff, isNone_obstacle_iff, isProgram_iff, find_of_enter here entered]
      rw [searched, alike, same, bare]

/-- A program that was looked up is started once, if nobody has cancelled and the system permits it;
otherwise none is started. -/
theorem launch_starts (options : Options) (looked : lookup machine command = .ok arguments)
    (token : Option Token) (world : World) :
    ∃ part : Option Launch,
      ((launch machine token options command).run world).2.launches =
          world.launches ++ part.toList ∧
        (∀ launch ∈ part, launch = options.toLaunch arguments) ∧
        (part.isSome ↔ token.any world.tokens.isCancelled = false ∧
          permit machine (options.toLaunch arguments) = .ok ()) := by
  simp only [launch, looked, run_bind, run_lift, run_proceed]
  cases token.any world.tokens.isCancelled with
  | true => exact ⟨none, by simp [World.launches, World.withHalt], by simp, by simp⟩
  | false =>
    simp only [Bool.false_eq_true, if_false, start, run_bind, run_lift]
    cases permit machine (options.toLaunch arguments) with
    | error failure => exact ⟨none, by simp, by simp, by simp⟩
    | ok _ =>
      refine ⟨some (options.toLaunch arguments), ?_, by simp, by simp⟩
      simp only [run_noteStart]
      cases machine.respond (options.toLaunch arguments) <;> exact World.launches_withStarted _ _

theorem launches_run (machine : Machine) (token : Option Token) (options : Options)
    (command : List String) (world : World) :
    ((run machine token options command).run world).2.launches =
      ((launch machine token options command).run world).2.launches := by
  rw [run, run_bind]
  cases (launch machine token options command).run world with
  | mk outcome between =>
    cases outcome with
    | error failure => rfl
    | ok process =>
      exact keeps_wait machine token options.limit process silent_launches
        (timeless_launches machine) (enoughPolls process) between

/-- A command whose program was found to be an executable file starts that file and no other, if the
program has an absolute name, or is started where its caller works and as its caller would search
for it. -/
theorem run_executes (looked : lookup machine command = .ok arguments)
    (finds : Finds machine arguments place file) (anchored : Anchored machine options arguments)
    (token : Option Token) (world : World) :
    ∃ part : Option Launch,
      ((run machine token options command).run world).2.launches =
          world.launches ++ part.toList ∧
        (∀ launch ∈ part, launch = options.toLaunch arguments ∧
          launch.Executes machine place file) ∧
        (part.isSome ↔ token.any world.tokens.isCancelled = false ∧
          permit machine (options.toLaunch arguments) = .ok ()) := by
  obtain ⟨part, started, same, when⟩ := launch_starts options looked token world
  refine ⟨part, (launches_run machine token options command world).trans started, ?_, when⟩
  intro launch member
  obtain rfl := same launch member
  obtain ⟨-, permitted⟩ := when.mp (Option.isSome_of_mem member)
  exact ⟨rfl, executes_of_anchored looked finds anchored permitted⟩

/-- A machine with relative directories on its search path, and with a tool of one name below two
directories. The caller works in one of them, to which a link leads. -/
def twoTools : Machine where
  files := ⟨[
    (["w", "bin", "tool"], .file ⟨"#!/bin/one\n".toUTF8.toList, true, false⟩),
    (["p", "bin", "tool"], .file ⟨"#!/bin/two\n".toUTF8.toList, true, false⟩),
    (["here"], .link "w")]⟩
  directory := "/w"
  environment := [("PATH", "bin:/usr/bin")]
  accountHome := "/"
  windows := false
  respond := Rule.respond []
  cancelledAt := none
  finishOrder := []
  interruptedWait := none

theorem run_executes_twoTools :
    let options : Options := { directory := some (Path.ofString "/here") }
    let launch := options.toLaunch ["bin/tool"]
    ((run twoTools (some callerToken) options ["tool"]).run (World.initial false)).2.launches =
        [launch] ∧
      launch.Executes twoTools ["w", "bin", "tool"]
        ⟨"#!/bin/one\n".toUTF8.toList, true, false⟩ := by
  intro options launch
  have looked : lookup twoTools ["tool"] = .ok ["bin/tool"] := by decide +kernel
  have finds : Finds twoTools ["bin/tool"] ["w", "bin", "tool"]
      ⟨"#!/bin/one\n".toUTF8.toList, true, false⟩ := ⟨by decide +kernel, rfl⟩
  have anchored : Anchored twoTools options ["bin/tool"] := by
    refine .inr ⟨?_, .inl (by decide +kernel)⟩
    rintro _ ⟨⟩
    exact ⟨["w"], by decide +kernel, by decide +kernel⟩
  obtain ⟨part, started, same, when⟩ :=
    run_executes looked finds anchored (some callerToken) (World.initial false)
  have permitted : permit twoTools launch = .ok () := by decide +kernel
  obtain ⟨first, rfl⟩ := Option.isSome_iff_exists.mp (when.mpr ⟨by decide, permitted⟩)
  obtain ⟨rfl, executes⟩ := same first rfl
  exact ⟨started, executes⟩

/-- From another directory the name of a program that was found leads to its namesake there. -/
theorem run_executes_namesake_twoTools :
    let options : Options := { directory := some (Path.ofString "/p") }
    let launch := options.toLaunch ["bin/tool"]
    lookup twoTools ["tool"] = .ok ["bin/tool"] ∧
      Finds twoTools ["bin/tool"] ["w", "bin", "tool"]
        ⟨"#!/bin/one\n".toUTF8.toList, true, false⟩ ∧
      ((run twoTools (some callerToken) options ["tool"]).run (World.initial false)).2.launches =
        [launch] ∧
      launch.Executes twoTools ["p", "bin", "tool"]
        ⟨"#!/bin/two\n".toUTF8.toList, true, false⟩ ∧
      ∀ file, ¬launch.Executes twoTools ["w", "bin", "tool"] file := by
  intro options launch
  have entered : enter twoTools launch.directory = .ok ["p"] := by decide +kernel
  have found : twoTools.disk.findFrom true ["p"] "bin/tool" =
      .ok (["p", "bin", "tool"], .file ⟨"#!/bin/two\n".toUTF8.toList, true, false⟩) := by
    decide +kernel
  have first : (programNames twoTools launch).find?
      (fun name => (obstacle? twoTools ["p"] name).isNone) = some "bin/tool" := by
    decide +kernel
  refine ⟨by decide +kernel, ⟨by decide +kernel, rfl⟩, by decide +kernel,
    ⟨["p"], "bin/tool", entered, first, found, rfl⟩, ?_⟩
  rintro file ⟨base, name, same, named, other, -⟩
  cases entered.symm.trans same
  cases first.symm.trans named
  have place : ["p", "bin", "tool"] = ["w", "bin", "tool"] :=
    congrArg Prod.fst (Except.ok.inj (found.symm.trans other))
  exact absurd place (by decide)

/-- A name without a slash leads to its namesake on the search path that the program is given, even
if the program is started where its caller works. -/
theorem executes_searched_twoTools :
    let machine : Machine :=
      { twoTools with directory := "/w/bin", environment := [("PATH", ":/usr/bin")] }
    let options : Options := { environment := some [("PATH", "/p/bin")] }
    lookup machine ["tool"] = .ok ["tool"] ∧
      Finds machine ["tool"] ["w", "bin", "tool"]
        ⟨"#!/bin/one\n".toUTF8.toList, true, false⟩ ∧
      permit machine (options.toLaunch ["tool"]) = .ok () ∧
      (options.toLaunch ["tool"]).Executes machine ["p", "bin", "tool"]
        ⟨"#!/bin/two\n".toUTF8.toList, true, false⟩ := by
  intro machine options
  exact ⟨by decide +kernel, ⟨by decide +kernel, rfl⟩, by decide +kernel,
    ["", "w", "bin"], "/p/bin/tool", by decide +kernel, by decide +kernel, by decide +kernel, rfl⟩

end Command

end CheckRouter
