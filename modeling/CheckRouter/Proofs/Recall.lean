import CheckRouter.Proofs.Answers
import CheckRouter.Proofs.Grouping
import CheckRouter.Proofs.Launches

/-!
# Directories that are met again

A router that keeps toolchains, one that keeps only the answers of the sandbox manager, and one that
keeps nothing find the same toolchains. Keeping the answers bounds the questions: the manager is
asked about each resolved directory once, in the order in which the directories are first met.
-/

namespace CheckRouter

/-! ## Programs that an action starts -/

namespace Action

variable {α β : Type} {plan rest : List Launch} {action : Action α}

/-- An action that starts the programs of a plan one after the other, all of them if it succeeds. -/
def Launches (plan : List Launch) (action : Action α) : Prop :=
  ∀ world, ∃ started, (action.run world).2.launches = world.launches ++ started ∧
    started <+: plan ∧ ∀ value, (action.run world).1 = .ok value → started = plan

theorem launches_of_keeps (keeps : Keeps World.launches action) : Launches [] action :=
  fun world => ⟨[], by simpa using keeps world, List.prefix_refl [], fun _ _ => rfl⟩

theorem launches_of_fails (failure : Failure)
    (runs : ∀ world, action.run world = (.error failure, world)) : Launches plan action := by
  intro world
  rw [runs]
  exact ⟨[], by simp, List.nil_prefix, by simp⟩

theorem Launches.bind {next : α → Action β} (first : Launches plan action)
    (second : ∀ world value after, action.run world = (.ok value, after) →
      Launches rest (next value)) :
    Launches (plan ++ rest) (action >>= next) := by
  intro world
  obtain ⟨started, launches, early, all⟩ := first world
  rw [run_bind]
  cases ran : action.run world with
  | mk outcome after =>
    rw [ran] at launches all
    cases outcome with
    | error failure =>
      exact ⟨started, launches, early.trans (List.prefix_append plan rest), by simp⟩
    | ok value =>
      obtain rfl := all value rfl
      obtain ⟨more, later, front, others⟩ := second world value after ran after
      refine ⟨started ++ more, ?_, (List.prefix_append_right_inj started).mpr front, ?_⟩
      · rw [later, launches, List.append_assoc]
      · exact fun value same => congrArg _ (others value same)

theorem Launches.bind_keeps {next : α → Action β} (first : Launches plan action)
    (keeps : ∀ value, Keeps World.launches (next value)) : Launches plan (action >>= next) := by
  have both := first.bind fun _ value _ _ => launches_of_keeps (keeps value)
  rwa [List.append_nil] at both

end Action

open CheckRouter.Action

/-! ## Inquiries -/

namespace Command

/-- The program of a command, if the system is asked to run it. -/
def admitted? (machine : Machine) (options : Options) (command : List String) : Option Launch :=
  Except.toOption do
    let arguments ← lookup machine command
    permit machine (options.toLaunch arguments)
    return options.toLaunch arguments

theorem of_mem_admitted {machine : Machine} {options : Options} {command : List String}
    {launch : Launch} (admitted : launch ∈ admitted? machine options command) :
    ∃ arguments, lookup machine command = .ok arguments ∧ launch = options.toLaunch arguments := by
  unfold admitted? at admitted
  cases found : lookup machine command with
  | error failure => simp [found, error_bind, Except.toOption] at admitted
  | ok arguments =>
    refine ⟨arguments, rfl, ?_⟩
    cases permitted : permit machine (options.toLaunch arguments) with
    | error failure => simp [found, ok_bind, permitted, Except.toOption] at admitted
    | ok _ =>
      simp only [found, ok_bind, permitted, Except.toOption] at admitted
      cases admitted
      rfl

theorem run_admitted (machine : Machine) (token : Option Token) (options : Options)
    (command : List String) (world : World) :
    let ran := (run machine token options command).run world
    ran.2.launches = world.launches ++ (admitted? machine options command).toList ∨
      token.any world.tokens.isCancelled = true ∧
        ran = (.error (.stopped .byCaller), world.withHalt .byCaller) := by
  have keeps (process : Process) := keeps_wait machine token options.limit process silent_launches
    (timeless_launches machine) (enoughPolls process)
  simp only [run, launch, run_bind, run_lift, admitted?]
  cases lookup machine command with
  | error failure => exact .inl (by simp [error_bind, Except.toOption])
  | ok arguments =>
    simp only [run_proceed]
    cases token.any world.tokens.isCancelled with
    | true => exact .inr ⟨rfl, rfl⟩
    | false =>
      left
      simp only [Bool.false_eq_true, if_false, start, run_bind, run_lift, ok_bind]
      cases permit machine (options.toLaunch arguments) with
      | error failure => simp [Except.toOption]
      | ok _ =>
        simp only [run_noteStart]
        cases machine.respond (options.toLaunch arguments) with
        | error error => exact World.launches_withStarted _ _
        | ok behaviour => exact (keeps _ _).trans (World.launches_withStarted _ _)

end Command

namespace Sandbox

variable {machine : Machine} {manager : Manager} {token : Option Token} {memo : Memo}
  {directory key : Path}

/-- The programs by which the manager is asked about a resolved directory. -/
def inquiries (machine : Machine) (manager : Manager) (key : Path) : List Launch :=
  [Question.environment, .project].flatMap fun question =>
    (Command.admitted? machine (manner machine manager key)
      [manager.command, question.option]).toList

theorem launches_ask (machine : Machine) (manager : Manager) (token : Option Token) (key : Path)
    (question : Question) :
    Launches (Command.admitted? machine (manner machine manager key)
      [manager.command, question.option]).toList (ask machine manager token key question) := by
  intro world
  have heeds := keeps_heard machine silent_launches.toUnnoting key question
  rw [ask_eq, run_bind, run_attempt]
  rcases Command.run_admitted machine token (manner machine manager key)
    [manager.command, question.option] world with started | ⟨-, stopped⟩
  · exact ⟨_, (heeds _ _).trans started, List.prefix_refl _, fun _ _ => rfl⟩
  · rw [stopped]
    have kept := (heeds (.error (.stopped .byCaller)) (world.withHalt .byCaller)).trans
      (silent_launches.halt world .byCaller)
    refine ⟨[], kept.trans (List.append_nil _).symm, List.nil_prefix, fun value same => ?_⟩
    cases same

theorem launches_probe_fresh (token : Option Token) (resolved : machine.resolve directory = .ok key)
    (fresh : memo.lookup key = none) :
    Launches (inquiries machine manager key) (probe machine manager token memo directory) := by
  rw [probe_fresh resolved fresh, inquiries, List.flatMap_cons, List.flatMap_singleton]
  exact (launches_ask machine manager token key .environment).bind fun _ _ _ _ =>
    (launches_ask machine manager token key .project).bind_keeps fun _ => keeps_pure _

theorem of_mem_admitted {question : Question} {launch : Launch}
    (asks : launch ∈ Command.admitted? machine (manner machine manager key)
      [manager.command, question.option]) :
    launch.arguments.tail = [question.option] ∧ launch.directory = some key.toString := by
  obtain ⟨arguments, found, rfl⟩ := Command.of_mem_admitted asks
  exact ⟨Command.tail_lookup found, rfl⟩

theorem directory_of_mem_inquiries {launch : Launch}
    (asks : launch ∈ inquiries machine manager key) : launch.directory = some key.toString := by
  obtain ⟨question, -, member⟩ := List.mem_flatMap.mp asks
  exact (of_mem_admitted (Option.mem_toList.mp member)).2

theorem nodup_inquiries : (inquiries machine manager key).Nodup := by
  refine List.nodup_flatMap.mpr ⟨fun question _ => ?_, List.pairwise_pair.mpr ?_⟩
  · cases Command.admitted? machine (manner machine manager key)
      [manager.command, question.option] <;> simp
  · intro launch member again
    have one := (of_mem_admitted (Option.mem_toList.mp member)).1
    have other := (of_mem_admitted (Option.mem_toList.mp again)).1
    exact absurd (one.symm.trans other) (by decide)

end Sandbox

/-! ## Sequences of directories -/

namespace Routing

section Sequence

variable (machine : Machine) (router : Router) (project : Toolchain)

/-- The toolchains of some directories, found one after the other. -/
def resolveEach : Memory → List Path → Action (List Toolchain)
  | _, [] => return []
  | memory, directory :: rest => do
    let (toolchain, memory) ← resolve machine router memory directory project
    let others ← resolveEach memory rest
    return toolchain :: others

/-- The toolchains of some directories, each found by a router that has learnt nothing. -/
def resolveAfresh : List Path → Action (List Toolchain)
  | [] => return []
  | directory :: rest => do
    let (toolchain, _) ← resolve machine router {} directory project
    let others ← resolveAfresh rest
    return toolchain :: others

variable {machine router project}

theorem comes_cons {memory : Memory} (sound : memory.Sound machine router project)
    (directory : Path) (rest : List Path) {others : Memory → Action (List Toolchain)}
    (follows : ∀ after : Memory, after.Sound machine router project →
      Comes router.token (others after) (rest.mapM (toolchain machine router project))) :
    Comes router.token
      (do
        let (found, after) ← resolve machine router memory directory project
        let more ← others after
        return found :: more)
      ((directory :: rest).mapM (toolchain machine router project)) := by
  obtain ⟨after, soundAfter, comes⟩ := resolve_of_sound sound directory
  rw [List.mapM_cons]
  cases given : toolchain machine router project directory with
  | error failure =>
    rw [given] at comes
    exact comes.bind_error
  | ok toolchain =>
    rw [given] at comes
    exact comes.bind_ok ((follows after soundAfter).bind_pure _)

theorem comes_resolveEach {memory : Memory} (sound : memory.Sound machine router project)
    (directories : List Path) :
    Comes router.token (resolveEach machine router project memory directories)
      (directories.mapM (toolchain machine router project)) := by
  induction directories generalizing memory with
  | nil => exact .of_run fun _ => rfl
  | cons directory rest ih => exact comes_cons sound directory rest fun after => ih

theorem sound_empty (machine : Machine) (router : Router) (project : Toolchain) :
    Memory.Sound machine router project {} := by
  constructor
  · intro directory findings known
    cases known
  · intro cache member
    cases member

theorem comes_resolveAfresh (directories : List Path) :
    Comes router.token (resolveAfresh machine router project directories)
      (directories.mapM (toolchain machine router project)) := by
  induction directories with
  | nil => exact .of_run fun _ => rfl
  | cons directory rest ih =>
    exact comes_cons (sound_empty machine router project) directory rest fun _ _ => ih

/-! ## What is asked -/

/-- Where some directories are. -/
def places (machine : Machine) (directories : List Path) : List Path :=
  directories.filterMap fun directory => (machine.resolve directory).toOption

/-- The places that were not asked about before, in order of appearance. -/
def pending (machine : Machine) (memo : Sandbox.Memo) (directories : List Path) : List Path :=
  ((places machine directories).filter fun key => (memo.lookup key).isNone).eraseDups

section Pending

variable {memo : Sandbox.Memo} {directory key : Path} {findings : Sandbox.Findings}
  {directories rest : List Path}

theorem places_cons (resolved : machine.resolve directory = .ok key) :
    places machine (directory :: rest) = key :: places machine rest := by
  rw [places, List.filterMap_cons, resolved]
  rfl

theorem isAbsolute_of_mem_places (member : key ∈ places machine directories) :
    key.isAbsolute = true := by
  obtain ⟨directory, -, found⟩ := List.mem_filterMap.mp member
  cases resolved : machine.resolve directory with
  | error failure =>
    rw [resolved] at found
    cases found
  | ok place =>
    rw [resolved] at found
    cases found
    exact Machine.isAbsolute_of_resolve resolved

theorem pending_known (resolved : machine.resolve directory = .ok key)
    (known : memo.lookup key = some findings) :
    pending machine memo (directory :: rest) = pending machine memo rest := by
  simp [pending, places_cons resolved, known]

theorem pending_fresh (resolved : machine.resolve directory = .ok key)
    (fresh : memo.lookup key = none) (findings : Sandbox.Findings) :
    pending machine memo (directory :: rest) =
      key :: pending machine ((key, findings) :: memo) rest := by
  have others : (fun other => ((List.lookup other ((key, findings) :: memo)).isNone)) =
      fun other => !other == key && (memo.lookup other).isNone := by
    funext other
    rw [List.lookup_cons]
    cases other == key <;> rfl
  simp only [pending, places_cons resolved, others, ← List.filter_filter]
  simp [fresh, List.eraseDups_cons]

theorem pending_cons_congr (resolved : machine.resolve directory = .ok key)
    (fresh : memo.lookup key = none) (one other : Sandbox.Findings) :
    pending machine ((key, one) :: memo) rest = pending machine ((key, other) :: memo) rest :=
  List.tail_eq_of_cons_eq
    ((pending_fresh resolved fresh one).symm.trans (pending_fresh resolved fresh other))

end Pending

/-- The directories whose toolchains are kept were asked about. -/
def Memory.Recorded (machine : Machine) (memory : Memory) : Prop :=
  ∀ cache ∈ memory.cache, ∀ directory given, Cache.get? cache directory = some given →
    ∃ key findings, machine.resolve directory = .ok key ∧ memory.memo.lookup key = some findings

section Recorded

variable {memory after : Memory} {directory key : Path} {found : Toolchain} {world last : World}

theorem Memory.Recorded.known (recorded : memory.Recorded machine)
    (cached : memory.cache.bind (Cache.get? · directory) = some found) :
    ∃ key findings, machine.resolve directory = .ok key ∧
      memory.memo.lookup key = some findings := by
  obtain ⟨cache, there, given⟩ := Option.bind_eq_some_iff.mp cached
  exact recorded cache there directory found given

theorem Memory.Recorded.uncached (recorded : memory.Recorded machine)
    (unknown : ∀ key, machine.resolve directory = .ok key → memory.memo.lookup key = none) :
    memory.cache.bind (Cache.get? · directory) = none := by
  rw [Option.eq_none_iff_forall_ne_some]
  intro found cached
  obtain ⟨key, findings, resolved, known⟩ := recorded.known cached
  cases (unknown key resolved).symm.trans known

theorem Memory.Recorded.put (recorded : memory.Recorded machine)
    (resolved : machine.resolve directory = .ok key) {memo : Sandbox.Memo}
    (there : ∃ findings, memo.lookup key = some findings)
    (kept : ∀ other findings, memory.memo.lookup other = some findings →
      ∃ findings, memo.lookup other = some findings) (toolchain : Toolchain) :
    Memory.Recorded machine ⟨memo, memory.cache.map (Cache.put directory toolchain)⟩ := by
  intro cache member other given known
  obtain ⟨old, also, rfl⟩ := Option.mem_map.mp member
  rw [Cache.get?_put] at known
  split at known
  · next same =>
    subst same
    obtain ⟨findings, there⟩ := there
    exact ⟨key, findings, resolved, there⟩
  · obtain ⟨place, findings, resolves, known⟩ := recorded old also other given known
    obtain ⟨findings, known⟩ := kept place findings known
    exact ⟨place, findings, resolves, known⟩

/-- What a router has learnt after it has found a toolchain: nothing new, or what the manager was
asked. -/
theorem recorded_of_resolve (auto : router.autodetect = true) (recorded : memory.Recorded machine)
    (resolved : machine.resolve directory = .ok key)
    (ran : (resolve machine router memory directory project).run world =
      (.ok (found, after), last)) :
    after.Recorded machine ∧
      ((∃ findings, memory.memo.lookup key = some findings) ∧ after.memo = memory.memo ∨
        memory.memo.lookup key = none ∧
          ∃ findings, after.memo = (key, findings) :: memory.memo) := by
  cases cached : memory.cache.bind (Cache.get? · directory) with
  | some given =>
    rw [resolve_cached auto cached] at ran
    cases ran
    obtain ⟨same, findings, again, known⟩ := recorded.known cached
    cases resolved.symm.trans again
    exact ⟨recorded, .inl ⟨⟨findings, known⟩, rfl⟩⟩
  | none =>
    rw [resolve_uncached auto cached] at ran
    obtain ⟨⟨findings, memo⟩, between, probed, ran⟩ := (run_bind_eq_ok _).mp ran
    obtain ⟨executable, before, -, ran⟩ := (run_bind_eq_ok _).mp ran
    obtain ⟨configFile, set, -, ran⟩ := (run_bind_eq_ok _).mp ran
    cases ran
    obtain ⟨same, again, ends⟩ := Sandbox.probed_of_ok probed
    cases resolved.symm.trans again
    cases ends with
    | recalled _ _ known =>
      exact ⟨recorded.put resolved ⟨findings, known⟩ (fun _ others known => ⟨others, known⟩) _,
        .inl ⟨⟨findings, known⟩, rfl⟩⟩
    | learnt _ _ fresh =>
      refine ⟨recorded.put resolved ⟨findings, by simp⟩ (fun other others known => ?_) _,
        .inr ⟨fresh, findings, rfl⟩⟩
      rw [List.lookup_cons]
      split
      · exact ⟨findings, rfl⟩
      · exact ⟨others, known⟩

theorem launches_resolve_known (auto : router.autodetect = true)
    (resolved : machine.resolve directory = .ok key)
    {findings : Sandbox.Findings} (known : memory.memo.lookup key = some findings) :
    Launches [] (resolve machine router memory directory project) := by
  apply launches_of_keeps
  cases cached : memory.cache.bind (Cache.get? · directory) with
  | some given =>
    rw [resolve_cached auto cached]
    exact keeps_pure _
  | none =>
    rw [resolve_uncached auto cached, Sandbox.probe_known resolved known]
    exact (keeps_pure _).bind fun found =>
      (keeps_executableFor machine silent_launches.toUnnoting _ _).bind fun _ =>
        (keeps_lift _).bind fun _ => keeps_pure _

theorem launches_resolve_fresh (auto : router.autodetect = true)
    (recorded : memory.Recorded machine) (resolved : machine.resolve directory = .ok key)
    (fresh : memory.memo.lookup key = none) :
    Launches (Sandbox.inquiries machine router.manager key)
      (resolve machine router memory directory project) := by
  have uncached : memory.cache.bind (Cache.get? · directory) = none := by
    refine recorded.uncached fun other again => ?_
    cases resolved.symm.trans again
    exact fresh
  rw [resolve_uncached auto uncached]
  exact (Sandbox.launches_probe_fresh router.token resolved fresh).bind_keeps fun found =>
    (keeps_executableFor machine silent_launches.toUnnoting _ _).bind fun _ =>
      (keeps_lift _).bind fun _ => keeps_pure _

theorem launches_resolveEach (auto : router.autodetect = true) (recorded : memory.Recorded machine)
    (directories : List Path) :
    Launches ((pending machine memory.memo directories).flatMap
        (Sandbox.inquiries machine router.manager))
      (resolveEach machine router project memory directories) := by
  -- the places that were asked about are those in the memo: under whatever name a directory is met
  -- again, its toolchain is kept or its place is in the memo
  induction directories generalizing memory with
  | nil => exact launches_of_keeps (keeps_pure _)
  | cons directory rest ih =>
    cases resolved : machine.resolve directory with
    | error failure =>
      refine launches_of_fails failure fun world => ?_
      have uncached : memory.cache.bind (Cache.get? · directory) = none := by
        refine recorded.uncached fun other again => ?_
        cases resolved.symm.trans again
      rw [resolveEach, run_bind, resolve_uncached auto uncached, run_bind, Sandbox.probe, resolved]
      rfl
    | ok key =>
      cases known : memory.memo.lookup key with
      | some findings =>
        rw [pending_known resolved known]
        refine (launches_resolve_known auto resolved known).bind fun world found last ran => ?_
        obtain ⟨still, ⟨-, same⟩ | ⟨fresh, -⟩⟩ := recorded_of_resolve auto recorded resolved ran
        · have others := ih still
          rw [same] at others
          exact others.bind_keeps fun _ => keeps_pure _
        · cases fresh.symm.trans known
      | none =>
        rw [pending_fresh resolved known {}, List.flatMap_cons]
        refine (launches_resolve_fresh auto recorded resolved known).bind
          fun world found last ran => ?_
        obtain ⟨still, ⟨⟨findings, there⟩, -⟩ | ⟨-, findings, same⟩⟩ :=
          recorded_of_resolve auto recorded resolved ran
        · cases known.symm.trans there
        · have others := ih still
          rw [same, pending_cons_congr resolved known findings {}] at others
          exact others.bind_keeps fun _ => keeps_pure _

end Recorded

/-- The programs by which the manager is asked about some directories. -/
def plan (machine : Machine) (router : Router) (directories : List Path) : List Launch :=
  if router.autodetect then
    (places machine directories).eraseDups.flatMap (Sandbox.inquiries machine router.manager)
  else []

theorem keeps_resolveEach_off (off : router.autodetect = false) (memory : Memory)
    (directories : List Path) :
    Keeps World.launches (resolveEach machine router project memory directories) := by
  induction directories generalizing memory with
  | nil => exact keeps_pure _
  | cons directory rest ih =>
    have stays : resolve machine router memory directory project = pure (project, memory) := by
      simp only [resolve, off, Bool.not_false, if_true]
    rw [resolveEach, stays]
    exact (keeps_pure _).bind fun found => (ih found.2).bind fun _ => keeps_pure _

theorem launches_plan {memory : Memory} (unlearnt : memory.memo = [])
    (recorded : memory.Recorded machine) (directories : List Path) :
    Launches (plan machine router directories)
      (resolveEach machine router project memory directories) := by
  cases auto : router.autodetect with
  | true =>
    have asks : Launches _ (resolveEach machine router project memory directories) :=
      launches_resolveEach auto recorded directories
    simpa [plan, pending, auto, unlearnt] using asks
  | false =>
    simp only [plan, auto, Bool.false_eq_true, if_false]
    exact launches_of_keeps (keeps_resolveEach_off auto memory directories)

theorem nodup_plan (machine : Machine) (router : Router) (directories : List Path) :
    (plan machine router directories).Nodup := by
  unfold plan
  split
  · refine List.nodup_flatMap.mpr ⟨fun key _ => Sandbox.nodup_inquiries, ?_⟩
    refine List.Nodup.pairwise_of_forall_ne (nodup_eraseDups _) fun one there other also apart => ?_
    have absolute {key : Path} (met : key ∈ (places machine directories).eraseDups) :
        key.isAbsolute = true :=
      isAbsolute_of_mem_places (List.mem_eraseDups.mp met)
    intro launch member again
    have same := (Sandbox.directory_of_mem_inquiries member).symm.trans
      (Sandbox.directory_of_mem_inquiries again)
    refine apart ?_
    rw [← Path.ofString_toString (absolute there), Option.some.inj same,
      Path.ofString_toString (absolute also)]
  · exact List.nodup_nil

/-- A router finds the same toolchains whether it keeps them, keeps only what the manager said, or
keeps nothing. The manager is asked about each resolved directory at most once, in the order in
which the directories are met, and about none if they are not looked at. -/
theorem resolveEach_recalls (machine : Machine) (router : Router) (project : Toolchain)
    (directories : List Path) :
    (∀ one two three,
      let keeping := (resolveEach machine router project { cache := some [] } directories).run one
      let asking := (resolveEach machine router project {} directories).run two
      let afresh := (resolveAfresh machine router project directories).run three
      router.token.any keeping.2.tokens.isCancelled = false →
        router.token.any asking.2.tokens.isCancelled = false →
          router.token.any afresh.2.tokens.isCancelled = false →
            keeping.1 = afresh.1 ∧ asking.1 = afresh.1) ∧
      Launches (plan machine router directories)
        (resolveEach machine router project { cache := some [] } directories) ∧
      Launches (plan machine router directories)
        (resolveEach machine router project {} directories) ∧
      (plan machine router directories).Nodup := by
  refine ⟨fun one two three keepingFree askingFree afreshFree => ?_, ?_, ?_,
    nodup_plan machine router directories⟩
  · have finds {action : Action (List Toolchain)} {world : World}
        (comes : Comes router.token action (directories.mapM (toolchain machine router project)))
        (free : router.token.any (action.run world).2.tokens.isCancelled = false) :
        (action.run world).1 = directories.mapM (toolchain machine router project) := by
      rcases comes world with same | ⟨cancelled, -⟩
      · exact same
      · cases free.symm.trans cancelled
    have last := finds (comes_resolveAfresh directories) afreshFree
    have first := finds
      (comes_resolveEach (unlearnt_sound machine router project) directories) keepingFree
    have second := finds
      (comes_resolveEach (sound_empty machine router project) directories) askingFree
    exact ⟨first.trans last.symm, second.trans last.symm⟩
  · refine launches_plan rfl ?_ directories
    intro cache member directory given known
    cases member
    cases known
  · refine launches_plan rfl ?_ directories
    intro cache member
    cases member

theorem resolveEach_recalls_twoDirectories :
    let directories := ["/p", "/q", "/q/../p", "/p"].map Path.ofString
    let keeping := (resolveEach twoDirectories {} ⟨"mypy", ""⟩ { cache := some [] } directories).run
      (.initial false)
    let afresh := (resolveAfresh twoDirectories {} ⟨"mypy", ""⟩ directories).run (.initial false)
    keeping.1 = afresh.1 ∧
      afresh.1 = .ok [⟨"/v/bin/mypy", ""⟩, ⟨"mypy", ""⟩, ⟨"/v/bin/mypy", ""⟩, ⟨"/v/bin/mypy", ""⟩] ∧
      keeping.2.launches.length = 4 ∧ afresh.2.launches.length = 8 := by
  intro directories keeping afresh
  obtain ⟨finds, -⟩ := resolveEach_recalls twoDirectories {} ⟨"mypy", ""⟩ directories
  obtain ⟨same, -⟩ := finds (.initial false) (.initial false) (.initial false) rfl rfl rfl
  exact ⟨same, by decide +kernel, by decide +kernel, by decide +kernel⟩

end Sequence

end Routing

end CheckRouter
