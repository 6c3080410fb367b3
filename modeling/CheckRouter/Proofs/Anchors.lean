import CheckRouter.Proofs.Grouping
import CheckRouter.Proofs.Stages

/-!
# Executables that mean themselves

Buckets are told apart by the names of their executables, and it is the paths behind the names that
are run. Where every name is the text of an absolute path, no two buckets run one program. A name
that is read from the project root first may be another name of a program that has its own bucket.
-/

namespace CheckRouter

/-! ## What actions give -/

namespace Action

variable {α β : Type} {spec : α → Prop}

/-- An action whose value, if it comes to one, is as specified. -/
def Gives (spec : α → Prop) (action : Action α) : Prop :=
  ∀ world value after, action.run world = (.ok value, after) → spec value

theorem gives_pure {value : α} (holds : spec value) : Gives spec (pure value) := by
  intro world other after same
  cases same
  exact holds

theorem gives_throw (failure : Failure) : Gives spec (throw failure) := by
  intro world value after same
  cases same

theorem Gives.bind {action : Action β} {next : β → Action α}
    (second : ∀ value, Gives spec (next value)) : Gives spec (action >>= next) := by
  intro world value after ran
  obtain ⟨first, between, -, goesOn⟩ := (run_bind_eq_ok _).mp ran
  exact second first between value after goesOn

theorem Gives.bind_of {found : β → Prop} {action : Action β} {next : β → Action α}
    (first : Gives found action) (second : ∀ value, found value → Gives spec (next value)) :
    Gives spec (action >>= next) := by
  intro world value after ran
  obtain ⟨other, between, ran, goesOn⟩ := (run_bind_eq_ok _).mp ran
  exact second other (first world other between ran) between value after goesOn

theorem Gives.attempt {action : Action α} (gives : Gives spec action) :
    Gives (fun outcome => ∀ value, outcome = .ok value → spec value) (attempt action) := by
  intro world outcome after ran value same
  rw [run_attempt] at ran
  obtain ⟨rfl, -⟩ := Prod.mk.inj ran |>.imp_left Except.ok.inj
  exact gives world value _ (Prod.ext same rfl)

theorem gives_lift {outcome : Except Failure α}
    (holds : ∀ value, outcome = .ok value → spec value) : Gives spec (liftM outcome : Action α) := by
  intro world value after ran
  exact holds value (congrArg Prod.fst ran)

theorem Gives.ite {condition : Prop} [Decidable condition] {action other : Action α}
    (one : condition → Gives spec action) (two : ¬condition → Gives spec other) :
    Gives spec (if condition then action else other) := by
  split
  · next holds => exact one holds
  · next fails => exact two fails

theorem Gives.outcome {action : Action α} (gives : Gives spec action) {value : α}
    (same : action.outcome = .ok value) : spec value :=
  gives _ value _ (Prod.ext same rfl)

end Action

open CheckRouter.Action

/-! ## Anchored names -/

/-- The text of an absolute path, which means the same program wherever it is read. -/
def IsAnchored (executable : String) : Prop :=
  ∃ path : Path, path.isAbsolute = true ∧ executable = path.toString

/-- Nothing but absolute paths is found where a scan looks for its checkers. -/
structure Anchored (machine : Machine) (settings : Settings) : Prop where
  named : settings.executablePath ≠ "" → IsAnchored settings.executablePath
  searched : settings.executablePath = "" →
    ∀ program ∈ machine.which Virtualenv.checkerName, IsAnchored program
  reported : ∀ launch behaviour root, machine.respond launch = .ok behaviour →
    Sandbox.reported? machine (Command.Process.textOf behaviour.output) = .ok (some root) →
      root.isAbsolute = true

/-! ## The executable of a project -/

section Project

variable {machine : Machine} {settings : Settings}

theorem Preflight.gives_executable (rooted : settings.projectRoot.isAbsolute = true)
    (anchored : Anchored machine settings) :
    Gives (fun found => found ≠ "" → IsAnchored found) (executable machine settings) := by
  refine .ite (fun named => gives_pure fun _ => anchored.named (by simpa using named)) ?_
  intro unnamed
  have search : Gives (fun found => found ≠ "" → IsAnchored found) (searched machine) := by
    unfold searched
    cases found : machine.which Virtualenv.checkerName with
    | none => exact .bind fun _ => gives_pure fun some => absurd rfl some
    | some program =>
      refine .bind fun _ => gives_pure fun _ => ?_
      exact anchored.searched (by simpa using unnamed) program found
  have interpreters : Gives (fun found => ∀ path ∈ found, path.isAbsolute = true)
      (liftM (interpreter? machine settings)) := by
    refine gives_lift fun found known => ?_
    unfold interpreter? at known
    split at known
    · cases known
      simp
    · obtain ⟨path, resolved, known⟩ := bind_eq_ok.mp known
      obtain ⟨there, -, known⟩ := bind_eq_ok.mp known
      cases known
      intro other member
      split at member
      · cases member
        exact Settings.isAbsolute_of_resolve rooted resolved
      · cases member
  refine interpreters.bind_of fun found absolute => ?_
  cases found with
  | none => exact search
  | some interpreter =>
    refine .bind fun root => ?_
    cases root with
    | none => exact search
    | some root =>
      refine .bind fun there => gives_pure fun some => ?_
      cases there with
      | true =>
        have parent : interpreter.parent.isAbsolute = true := absolute interpreter rfl
        exact ⟨_, Path.isAbsolute_div parent _, rfl⟩
      | false => exact absurd rfl some

/-- The checker of a project that can be used has an anchored name. -/
theorem Preflight.gives_check (rooted : settings.projectRoot.isAbsolute = true)
    (anchored : Anchored machine settings) (notifies : Bool) (token : Option Token) :
    Gives (fun found => found.available = true → IsAnchored found.executable)
      (check machine ⟨settings, notifies, token⟩ notifies) := by
  have unavailable (found : String) :
      Gives (fun found => found.available = true → IsAnchored found.executable)
        (pure ⟨found, false⟩ : Action Availability) := gives_pure (by simp)
  have ends (found : String) :
      Gives (fun found => found.available = true → IsAnchored found.executable) (do
        if notifies then advise machine settings
        return ⟨found, false⟩ : Action Availability) :=
    .ite (fun _ => .bind fun _ => unavailable found) fun _ => unavailable found
  refine (gives_executable rooted anchored).bind_of fun found named => ?_
  refine .ite (fun some => .bind fun works => ?_) fun _ => ends found
  refine .ite (fun _ => gives_pure fun _ => named ?_) fun _ => ends found
  simpa using some

end Project

/-! ## The executables of directories -/

section Directories

variable {machine : Machine} {settings : Settings}

theorem Command.gives_run (machine : Machine) (token : Option Token) (options : Options)
    (command : List String) :
    Gives (fun completed => ∃ launch behaviour, machine.respond launch = .ok behaviour ∧
      completed.output = Process.textOf behaviour.output) (run machine token options command) := by
  intro world completed after ran
  obtain ⟨process, between, launched, waited⟩ := (run_bind_eq_ok _).mp ran
  rcases launch_cases machine token options command world with
    ⟨failure, last, failed, -⟩ | ⟨arguments, -, -, responds⟩
  · rw [launched] at failed
    cases failed
  · rw [launched] at responds
    exact ⟨_, process.behaviour, responds process rfl, wait_output waited⟩

namespace Sandbox

theorem gives_interpret (directory : Path) (question : Question) (completed : Completed) :
    Gives (fun found => ∀ root ∈ found, reported? machine completed.output = .ok (some root))
      (interpret machine directory question completed) := by
  have located : Gives (fun found => ∀ root ∈ found,
      reported? machine completed.output = .ok (some root))
      (located machine directory question completed.output) := by
    have reads : Gives (fun found => reported? machine completed.output = .ok found)
        (liftM (reported? machine completed.output)) := gives_lift fun _ known => known
    refine reads.bind_of fun found known => ?_
    cases found with
    | none => exact .bind fun _ => gives_pure (by simp)
    | some path => exact .bind fun _ => gives_pure (by simpa using known)
  have missing : Gives (fun found => ∀ root ∈ found,
      reported? machine completed.output = .ok (some root)) (pure none) := gives_pure (by simp)
  refine .ite (fun _ => .bind fun _ => .bind fun _ => ?_) fun _ => ?_
  · exact .ite (fun _ => .bind fun _ => missing) fun _ => located
  · exact .ite (fun _ => .bind fun _ => missing) fun _ => located

theorem gives_ask (anchored : Anchored machine settings) (manager : Manager)
    (token : Option Token) (directory : Path) (question : Question) :
    Gives (fun found => ∀ root ∈ found, root.isAbsolute = true)
      (ask machine manager token directory question) := by
  have missing : Gives (fun found => ∀ root ∈ found, root.isAbsolute = true)
      (pure none : Action (Option Path)) := gives_pure (by simp)
  refine (Command.gives_run machine token _ _).attempt.bind_of fun outcome known => ?_
  cases outcome with
  | error failure =>
    exact .ite (fun _ => .bind fun _ => missing) fun _ =>
      .ite (fun _ => .bind fun _ => missing) fun _ => gives_throw failure
  | ok completed =>
    obtain ⟨launch, behaviour, responds, output⟩ := known completed rfl
    intro world found after ran root member
    have found := gives_interpret directory question completed world found after ran root member
    rw [output] at found
    exact anchored.reported launch behaviour root responds found

theorem isAbsolute_of_probed (anchored : Anchored machine settings) {manager : Manager}
    {directory : Path} {findings : Findings}
    (known : probed machine manager directory = .ok findings) :
    ∀ root ∈ findings.environment, root.isAbsolute = true := by
  obtain ⟨other, -, known⟩ := bind_eq_ok.mp known
  obtain ⟨found, environment, known⟩ := bind_eq_ok.mp known
  obtain ⟨project, -, known⟩ := bind_eq_ok.mp known
  cases known
  exact (gives_ask anchored manager none other .environment).outcome environment

end Sandbox

namespace Routing

theorem gives_executableFor {findings : Sandbox.Findings} {fallback : String}
    (absolute : ∀ root ∈ findings.environment, root.isAbsolute = true)
    (project : IsAnchored fallback) :
    Gives IsAnchored (executableFor machine findings fallback) := by
  unfold executableFor
  cases environment : findings.environment with
  | none => exact gives_pure project
  | some root =>
    refine .bind fun there => .ite (fun _ => gives_pure ?_) fun _ => .bind fun _ =>
      gives_pure project
    exact ⟨_, Path.isAbsolute_div (Path.isAbsolute_div (absolute root environment) _) _, rfl⟩

theorem isAnchored_of_toolchain (anchored : Anchored machine settings) {router : Router}
    {project given : Toolchain} {directory : Path} (fallback : IsAnchored project.executable)
    (known : toolchain machine router project directory = .ok given) :
    IsAnchored given.executable := by
  unfold toolchain at known
  split at known
  · obtain ⟨findings, probed, known⟩ := bind_eq_ok.mp known
    obtain ⟨executable, named, known⟩ := bind_eq_ok.mp known
    obtain ⟨configFile, -, known⟩ := bind_eq_ok.mp known
    cases known
    have absolute := Sandbox.isAbsolute_of_probed anchored probed
    exact (gives_executableFor absolute fallback).outcome named
  · cases known
    exact fallback

theorem isAnchored_of_partition (anchored : Anchored machine settings) {router : Router}
    {project : Toolchain} {files : List String} {buckets : List Bucket} {world after : World}
    (fallback : IsAnchored project.executable)
    (partitioned : (partition machine router project files).run world = (.ok buckets, after)) :
    ∀ bucket ∈ buckets, IsAnchored bucket.executable := by
  obtain ⟨rfl, fresh⟩ := gather_of_partition partitioned
  intro bucket member
  obtain ⟨file, given, same⟩ := (grouped_gather _ files).mem_keys.mp (List.mem_map_of_mem member)
  rw [← same]
  exact isAnchored_of_toolchain anchored fallback (fresh file given).2

end Routing

end Directories

/-! ## Buckets and their programs -/

namespace Routing

/-- Buckets whose executables mean one program are one bucket. -/
theorem distinct_of_partition {machine : Machine} {settings : Settings} {router : Router}
    {project : Toolchain} {files : List String} {buckets : List Bucket} {world after : World}
    (anchored : router.autodetect = true →
      Anchored machine settings ∧ IsAnchored project.executable)
    (partitioned : (partition machine router project files).run world = (.ok buckets, after)) :
    buckets.Pairwise fun one other =>
      settings.resolve machine one.executable ≠ settings.resolve machine other.executable := by
  obtain ⟨gathered, fresh⟩ := gather_of_partition partitioned
  have grouped := grouped_gather (assigned machine router project) files
  have sorted := sorted_gather_nil (assigned machine router project) files
  rw [← gathered] at grouped sorted
  cases auto : router.autodetect with
  | false =>
    -- every directory has the toolchain of the project, however it is named
    have single : buckets.length ≤ 1 := by
      refine grouped.length_le_one sorted project.executable fun file given => ?_
      have known := (fresh file given).2
      rw [toolchain, auto] at known
      rw [← Except.ok.inj known]
    cases buckets with
    | nil => exact .nil
    | cons bucket rest =>
      obtain rfl : rest = [] := List.length_eq_zero_iff.mp (by simpa using single)
      exact List.pairwise_singleton _ _
  | true =>
    obtain ⟨anchors, fallback⟩ := anchored auto
    have keys := isAnchored_of_partition anchors fallback partitioned
    refine (List.pairwise_map.mp sorted.distinct).imp_of_mem ?_
    intro one other member among differs same
    obtain ⟨path, absolute, named⟩ := keys one member
    obtain ⟨path', absolute', named'⟩ := keys other among
    rw [named, named', settings.resolve_toString machine absolute,
      settings.resolve_toString machine absolute'] at same
    exact differs (by rw [named, named', Except.ok.inj same])

end Routing

theorem pairwise_reduceOption {α β : Type} {relation : α → β → Prop} {before : α → α → Prop}
    {after : β → β → Prop} {entries : List α} {parts : List (Option β)}
    (each : List.Forall₂ (fun entry part => ∀ other ∈ part, relation entry other) entries parts)
    (pairwise : entries.Pairwise before)
    (carries : ∀ one two other more, before one two → relation one other → relation two more →
      after other more) : parts.reduceOption.Pairwise after := by
  induction each with
  | nil => exact .nil
  | @cons entry part entries parts first each ih =>
    rw [List.pairwise_cons] at pairwise
    cases part with
    | none => exact ih pairwise.2
    | some other =>
      refine .cons (fun more member => ?_) (ih pairwise.2)
      obtain ⟨two, there, related⟩ :=
        Pool.exists_of_forall₂ (List.Forall₂.flip each) (List.reduceOption_mem_iff.mp member)
      exact carries entry two other more (pairwise.1 two there) (first other rfl)
        (related more rfl)

namespace Checker

variable {checker : Checker} {machine : Machine} {buckets : List Bucket} {world after : World}

theorem head_of_checkOf (rooted : checker.settings.projectRoot.isAbsolute = true) {bucket : Bucket}
    {launch : Launch} (launched : checker.checkOf machine bucket = .ok launch) :
    ∃ path : Path, path.isAbsolute = true ∧
      checker.settings.resolve machine bucket.executable = .ok path ∧
      launch.arguments.head? = some path.toString := by
  obtain ⟨path, extra, environment, resolved, -, -, rfl⟩ := isCheck_of_checkOf rooted launched
  exact ⟨path, Settings.isAbsolute_of_resolve rooted resolved, resolved, rfl⟩

/-- Checks of buckets that mean distinct programs start distinct programs. -/
theorem ChecksIn.distinct (checks : checker.ChecksIn machine buckets world after)
    (rooted : checker.settings.projectRoot.isAbsolute = true)
    (apart : buckets.Pairwise fun one other =>
      checker.settings.resolve machine one.executable ≠
        checker.settings.resolve machine other.executable) :
    ∃ launches, after.launches = world.launches ++ launches ∧
      (∀ launch ∈ launches, launch.Checks) ∧ (launches.map (·.arguments.head?)).Nodup := by
  obtain ⟨launches, started, buckets_of⟩ := checks.exists_bucket
  obtain ⟨parts, others, each, perm, later⟩ := checks
  obtain rfl : launches = others := List.append_cancel_left (started.symm.trans later)
  refine ⟨launches, started, fun launch member => ?_, ?_⟩
  · obtain ⟨bucket, -, launched⟩ := buckets_of launch member
    exact checks_of_checkOf launched
  · rw [(perm.map _).nodup_iff]
    refine List.pairwise_map.mpr (pairwise_reduceOption each apart ?_)
    intro one two launch more differs launched also same
    obtain ⟨path, absolute, resolved, head⟩ := head_of_checkOf rooted launched
    obtain ⟨path', absolute', resolved', head'⟩ := head_of_checkOf rooted also
    have texts : path.toString = path'.toString := by
      rw [head, head'] at same
      exact Option.some.inj same
    have paths : path = path' := by
      rw [← Path.ofString_toString absolute, texts, Path.ofString_toString absolute']
    exact differs (by rw [resolved, resolved', paths])

end Checker

/-! ## Scans -/

namespace Scan

/-- No program checks twice in a scan in which executables mean themselves, or which looks at no
directories: buckets are of distinct programs, and each of them is started once at most. -/
theorem run_distinct (machine : Machine) (settings : Settings) (notifies : Bool)
    (given : Option Token) (files : List String) (world : World)
    (rooted : settings.projectRoot.isAbsolute = true)
    (anchored : settings.autodetect = true → Anchored machine settings) :
    let result := (run machine settings notifies given files).run world
    (∃ more checks, result.2.launches = world.launches ++ more ++ checks ∧
      (∀ launch ∈ more, ¬launch.Checks) ∧ (∀ launch ∈ checks, launch.Checks) ∧
      (checks.map (·.arguments.head?)).Nodup) ∧
    ∀ token entered buckets routed, (tokenFor given).run world = (.ok token, entered) →
      Routed machine settings notifies token files entered buckets routed →
      buckets.Pairwise fun one other =>
        settings.resolve machine one.executable ≠ settings.resolve machine other.executable := by
  intro result
  have apart {token : Token} {entered routed : World} {buckets : List Bucket}
      (routes : Routed machine settings notifies token files entered buckets routed) :
      buckets.Pairwise fun one other =>
        settings.resolve machine one.executable ≠ settings.resolve machine other.executable := by
    obtain ⟨executable, configFile, checked, answers, -, partitioned⟩ := routes
    refine Routing.distinct_of_partition (fun auto => ⟨anchored auto, ?_⟩) partitioned
    exact Preflight.gives_check rooted (anchored auto) notifies (some token) entered _ checked
      answers rfl
  refine ⟨?_, fun _ _ _ _ _ routes => apart routes⟩
  rcases run_staged machine settings notifies given files world with
    ⟨-, same⟩ | ⟨token, entered, -, same, staged⟩
  · refine ⟨[], [], ?_, by simp⟩
    show ((run _ _ _ _ _).run world).2.launches = _
    rw [same, List.append_nil, List.append_nil]
  · rw [← same]
    cases staged with
    | prepared more started brief =>
      exact ⟨more, [], by rw [started, List.append_nil],
        fun launch member => (brief launch member).not_checks, by simp⟩
    | checked buckets routed more routes started brief outcome checks =>
      obtain ⟨launches, later, each, distinct⟩ := checks.distinct rooted (apart routes)
      exact ⟨more, launches, by rw [later, started],
        fun launch member => (brief launch member).not_checks, each, distinct⟩

/-- A machine on which the environment of one directory holds the checker of the whole project. -/
def sharedChecker : Machine where
  files := ⟨[
    (["usr", "bin", "pipenv"], .file ⟨[], true, false⟩),
    (["p", "bin", "mypy"], .file ⟨[], true, false⟩),
    (["p", "a.py"], .file ⟨[], false, false⟩),
    (["p", "sub", "b.py"], .file ⟨[], false, false⟩)]⟩
  directory := "/p"
  environment := []
  accountHome := "/"
  windows := false
  respond := Rule.respond
    [{ directory := some "/p/sub", argument := some "--venv",
       response := .ok { output := "/p\n".toUTF8.toList } }]
  cancelledAt := none
  finishOrder := []
  interruptedWait := none

theorem run_distinct_sharedChecker :
    let settings : Settings :=
      { projectRoot := Path.ofString "/p", executablePath := "/p/bin/mypy", autodetect := true }
    let result := (run sharedChecker settings false (some callerToken)
      ["/p/a.py", "/p/sub/b.py"]).run (World.initial false)
    result.2.launches.length = 6 ∧ ∃ more checks, result.2.launches = more ++ checks ∧
      (∀ launch ∈ more, ¬launch.Checks) ∧ (∀ launch ∈ checks, launch.Checks) ∧
      (checks.map (·.arguments.head?)).Nodup := by
  intro settings result
  have anchored : Anchored sharedChecker settings := by
    refine ⟨fun _ => ⟨Path.ofString "/p/bin/mypy", rfl, by decide +kernel⟩, by simp [settings], ?_⟩
    intro launch behaviour root responds reported
    have among : behaviour.output ∈ ["/p\n".toUTF8.toList, []] := by
      simp only [sharedChecker, Rule.respond] at responds
      split at responds
      · next rule found =>
        obtain rfl := List.mem_singleton.mp (List.mem_of_find?_eq_some found)
        cases responds
        exact List.mem_cons_self
      · cases responds
        exact List.mem_of_mem_getLast? rfl
    have sound : ["/p\n".toUTF8.toList, []].all (fun output =>
        (Sandbox.reported? sharedChecker (Command.Process.textOf output)).toOption.all
          (·.all Path.isAbsolute)) = true := by decide +kernel
    have absolute := List.all_eq_true.mp sound _ among
    rw [reported] at absolute
    exact absolute
  obtain ⟨⟨more, checks, started, each⟩, -⟩ := run_distinct sharedChecker settings false
    (some callerToken) ["/p/a.py", "/p/sub/b.py"] (World.initial false) rfl fun _ => anchored
  exact ⟨by decide +kernel, more, checks, started, each⟩

/-- The checker of the project, named from its root, and that of a directory are one program that
checks twice. -/
theorem run_repeated_sharedChecker :
    let settings : Settings :=
      { projectRoot := Path.ofString "/p", executablePath := "bin/mypy", autodetect := true }
    let result := (run sharedChecker settings false (some callerToken)
      ["/p/a.py", "/p/sub/b.py"]).run (World.initial false)
    settings.projectRoot.isAbsolute = true ∧
    ∃ before one other, result.2.launches = before ++ [one, other] ∧ one.Checks ∧ other.Checks ∧
      one.arguments.head? = other.arguments.head? := by
  intro settings result
  let check (file : String) : Launch :=
    ⟨["/p/bin/mypy", "--show-column-numbers", "--follow-imports", "silent", file], some "/p",
      some []⟩
  refine ⟨rfl, result.2.launches.take 5, check "/p/a.py", check "/p/sub/b.py", ?_, ?_, ?_, rfl⟩
  · decide +kernel
  · exact List.prefix_append _ ["/p/a.py"]
  · exact List.prefix_append _ ["/p/sub/b.py"]

end Scan

end CheckRouter
