import CheckRouter.Machine.Rule
import CheckRouter.Proofs.Partition
import CheckRouter.Proofs.Probing
import Mathlib.Data.List.Induction

/-!
# A partition groups files by their checkers

Nobody sees in a partition what its router had learnt when: the buckets are those of grouping the
files by the checkers that their directories have on their own.
-/

namespace CheckRouter

open CheckRouter.Action

theorem eraseDups_concat {α : Type} [DecidableEq α] (list : List α) (element : α) :
    (list ++ [element]).eraseDups =
      if element ∈ list then list.eraseDups else list.eraseDups ++ [element] := by
  rw [List.eraseDups_append]
  split
  · next there => simp [List.removeAll, there]
  · next absent =>
    have new : [element].removeAll list = [element] := by simp [List.removeAll, absent]
    rw [new]
    rfl

theorem nodup_eraseDups {α : Type} [DecidableEq α] (list : List α) : list.eraseDups.Nodup := by
  induction list using List.reverseRecOn with
  | nil => exact List.nodup_nil
  | append_singleton front last ih =>
    rw [eraseDups_concat]
    split
    · exact ih
    · next absent =>
      refine List.nodup_append.mpr
        ⟨ih, List.nodup_singleton last, fun element member other there => ?_⟩
      rintro rfl
      rw [List.mem_singleton] at there
      exact absent (there ▸ List.mem_eraseDups.mp member)

namespace Bucket

variable {bucket : Bucket}

theorem files_add {given : List String} (held : bucket.files = given.eraseDups) (file : String) :
    (bucket.add file).files = (given ++ [file]).eraseDups := by
  unfold add
  simp only [held, List.contains_iff_mem, List.mem_eraseDups, eraseDups_concat]
  split
  · exact held
  · rfl

theorem configFile_add (file : String) : (bucket.add file).configFile = bucket.configFile := by
  unfold add
  split <;> rfl

theorem head?_add {first : String} (head : bucket.files.head? = some first) (file : String) :
    (bucket.add file).files.head? = some first := by
  unfold add
  split
  · exact head
  · rw [List.head?_append, head, Option.some_or]

end Bucket

/-- Why a source cannot be checked: it may not be looked up, or it is no file. -/
def Machine.sourceFault? (machine : Machine) (file : String) : Option Failure :=
  match machine.holdsFile (Path.ofString file) with
  | .error failure => some failure
  | .ok false => some (.invalidSource file)
  | .ok true => none

namespace Routing

theorem mem_insert_cases {toolchain : Toolchain} {file : String} {buckets : List Bucket}
    (distinct : (buckets.map Bucket.executable).Nodup) {bucket : Bucket}
    (member : bucket ∈ insert toolchain file buckets) :
    (bucket ∈ buckets ∧ bucket.executable ≠ toolchain.executable) ∨
      (∃ old ∈ buckets, old.executable = toolchain.executable ∧ bucket = old.add file) ∨
      toolchain.executable ∉ buckets.map Bucket.executable ∧
        bucket = Bucket.add ⟨toolchain.executable, toolchain.configFile, []⟩ file := by
  induction buckets with
  | nil => exact .inr (.inr ⟨List.not_mem_nil, List.mem_singleton.mp member⟩)
  | cons first rest ih =>
    rw [List.map_cons, List.nodup_cons] at distinct
    by_cases here : first.executable = toolchain.executable
    · rw [insert, if_pos here] at member
      rcases List.mem_cons.mp member with rfl | there
      · exact .inr (.inl ⟨first, List.mem_cons_self, here, rfl⟩)
      · refine .inl ⟨List.mem_cons_of_mem _ there, fun same => distinct.1 ?_⟩
        rw [here, ← same]
        exact List.mem_map_of_mem there
    · rw [insert, if_neg here] at member
      rcases List.mem_cons.mp member with rfl | there
      · exact .inl ⟨List.mem_cons_self, here⟩
      · rcases ih distinct.2 there with ⟨old, differs⟩ | ⟨old, held, same, rfl⟩ | ⟨absent, rfl⟩
        · exact .inl ⟨List.mem_cons_of_mem _ old, differs⟩
        · exact .inr (.inl ⟨old, List.mem_cons_of_mem _ held, same, rfl⟩)
        · refine .inr (.inr ⟨?_, rfl⟩)
          rw [List.map_cons, List.mem_cons, not_or]
          exact ⟨Ne.symm here, absent⟩

/-- The buckets of files grouped by the executables of their toolchains. -/
structure Grouped (toolchainOf : String → Toolchain) (files : List String)
    (buckets : List Bucket) : Prop where
  keys : buckets.map Bucket.executable =
    (files.map fun file => (toolchainOf file).executable).eraseDups
  held : ∀ bucket ∈ buckets, bucket.files =
    (files.filter fun file => (toolchainOf file).executable = bucket.executable).eraseDups
  config : ∀ bucket ∈ buckets, ∃ first, bucket.files.head? = some first ∧
    bucket.configFile = (toolchainOf first).configFile

namespace Grouped

variable {toolchainOf : String → Toolchain} {files : List String} {buckets : List Bucket}

theorem mem_keys (grouped : Grouped toolchainOf files buckets) {key : String} :
    key ∈ buckets.map Bucket.executable ↔ ∃ file ∈ files, (toolchainOf file).executable = key := by
  rw [grouped.keys, List.mem_eraseDups, List.mem_map]

theorem insert (grouped : Grouped toolchainOf files buckets)
    (distinct : (buckets.map Bucket.executable).Nodup) (file : String) :
    Grouped toolchainOf (files ++ [file]) (insert (toolchainOf file) file buckets) := by
  -- what belongs to an executable grows by the file if it is the file's own
  have grows (key : String) :
      ((files ++ [file]).filter fun file => (toolchainOf file).executable = key) =
        (files.filter fun file => (toolchainOf file).executable = key) ++
          if (toolchainOf file).executable = key then [file] else [] := by
    rw [List.filter_append, List.filter_singleton, Bool.cond_decide]
  refine ⟨?_, fun bucket member => ?_, fun bucket member => ?_⟩
  · rw [executables_insert, List.map_append, List.map_singleton, eraseDups_concat, grouped.keys]
    simp only [List.mem_eraseDups]
  · rcases mem_insert_cases distinct member with ⟨old, differs⟩ | ⟨old, there, same, rfl⟩ |
      ⟨absent, rfl⟩
    · rw [grows, if_neg differs.symm, List.append_nil]
      exact grouped.held bucket old
    · rw [Bucket.executable_add, grows, if_pos same.symm]
      exact Bucket.files_add (grouped.held old there) file
    · have none : (files.filter fun other =>
          (toolchainOf other).executable = (toolchainOf file).executable) = [] := by
        rw [List.filter_eq_nil_iff]
        intro other given same
        exact absent (grouped.mem_keys.mpr ⟨other, given, of_decide_eq_true same⟩)
      rw [Bucket.executable_add, grows, if_pos rfl, none]
      exact Bucket.files_add rfl file
  · rcases mem_insert_cases distinct member with ⟨old, -⟩ | ⟨old, there, -, rfl⟩ | ⟨-, rfl⟩
    · exact grouped.config bucket old
    · obtain ⟨first, head, config⟩ := grouped.config old there
      exact ⟨first, Bucket.head?_add head file, (Bucket.configFile_add file).trans config⟩
    · exact ⟨file, rfl, rfl⟩

end Grouped

theorem sorted_gather_nil (assign : Path → Toolchain) (files : List String) :
    Sorted (fun file => (assign (Path.ofString file).parent).executable) (gather assign [] files) :=
  sorted_gather files ⟨List.nodup_nil, by simp, by simp⟩

theorem grouped_gather (assign : Path → Toolchain) (files : List String) :
    Grouped (fun file => assign (Path.ofString file).parent) files (gather assign [] files) := by
  induction files using List.reverseRecOn with
  | nil => exact ⟨rfl, by simp [gather], by simp [gather]⟩
  | append_singleton files file ih =>
    have inserted := ih.insert (sorted_gather_nil assign files).distinct file
    rwa [gather, List.foldl_append]

/-- The toolchain that a directory has on its own; if that cannot be told, the one of the project. -/
def assigned (machine : Machine) (router : Router) (project : Toolchain) (directory : Path) :
    Toolchain :=
  (toolchain machine router project directory).toOption.getD project

/-! ## Partitions -/

section Distribute

variable {machine : Machine} {router : Router} {project : Toolchain} {memory : Memory}
  {assign : Path → Toolchain} {files : List String}

theorem sourceFault_eq_none_iff {file : String} : machine.sourceFault? file = none ↔
    machine.holdsFile (Path.ofString file) = .ok true := by
  unfold Machine.sourceFault?
  split <;> simp [*]

theorem sourceFault_of_look {file : String} {failure : Failure}
    (refused : machine.look (Path.ofString file).toString = .error failure) :
    machine.sourceFault? file = some failure := by
  have held : machine.holdsFile (Path.ofString file) = .error failure := by
    rw [Machine.holdsFile_eq, refused]
    rfl
  unfold Machine.sourceFault?
  rw [held]

/-- A source is named as such just if nothing is there or a directory. -/
theorem sourceFault_eq_invalid_iff {file path : String} :
    machine.sourceFault? file = some (.invalidSource path) ↔
      path = file ∧ (machine.pathExists (Path.ofString file) = .ok false ∨
        machine.isDirectory (Path.ofString file) = .ok true) := by
  unfold Machine.sourceFault? Machine.pathExists Machine.isDirectory
  rw [Machine.holdsFile_eq]
  cases looked : machine.look (Path.ofString file).toString with
  | error failure =>
    obtain ⟨-, error, -, -, rfl⟩ := Machine.look_eq_error_iff.mp looked
    simp [Except.map]
  | ok node =>
    rcases node with _ | (_ | regular | target)
    · simp [Except.map, eq_comm]
    · simp [Except.map, eq_comm]
    · exact iff_of_false (fun named => by cases named) (by simp [Except.map])
    · exact iff_of_false (fun named => by cases named) (by simp [Except.map])

theorem toolchain_eq_assigned {directory : Path} {given : Toolchain}
    (known : toolchain machine router project directory = .ok given) :
    toolchain machine router project directory =
      .ok (assigned machine router project directory) := by
  simp only [assigned, known, Except.toOption, Option.getD_some]

theorem distribute_of_fault {file : String} {failure : Failure}
    (faulty : machine.sourceFault? file = some failure) (memory : Memory) (buckets : List Bucket)
    (rest : List String) (world : World) :
    (distribute machine router project memory buckets (file :: rest)).run world =
      (.error failure, world) := by
  unfold Machine.sourceFault? at faulty
  rw [distribute, run_bind, run_lift]
  cases held : machine.holdsFile (Path.ofString file) with
  | error other =>
    rw [held] at faulty
    cases faulty
    rfl
  | ok there =>
    rw [held] at faulty
    cases there with
    | false =>
      cases faulty
      rfl
    | true => cases faulty

theorem distribute_of_source {file : String}
    (source : machine.holdsFile (Path.ofString file) = .ok true) (memory : Memory)
    (buckets : List Bucket) (rest : List String) :
    distribute machine router project memory buckets (file :: rest) = (do
      let (toolchain, memory) ← resolve machine router memory (Path.ofString file).parent project
      distribute machine router project memory (insert toolchain file buckets) rest) := by
  rw [distribute, source]
  rfl

/-- A partition that succeeds was given sources only, and has put them where the toolchains of their
directories say. -/
theorem gather_of_sound {buckets result : List Bucket} {world last : World}
    (sound : memory.Sound machine router project)
    (distributed : (distribute machine router project memory buckets files).run world =
      (.ok result, last)) :
    result = gather (assigned machine router project) buckets files ∧
      ∀ file ∈ files, machine.sourceFault? file = none ∧
        toolchain machine router project (Path.ofString file).parent =
          .ok (assigned machine router project (Path.ofString file).parent) := by
  induction files generalizing memory buckets world with
  | nil =>
    cases distributed
    exact ⟨rfl, by simp⟩
  | cons file rest ih =>
    cases source : machine.sourceFault? file with
    | some failure =>
      rw [distribute_of_fault source] at distributed
      cases distributed
    | none =>
      rw [distribute_of_source (sourceFault_eq_none_iff.mp source)] at distributed
      obtain ⟨⟨given, next⟩, between, resolved, goesOn⟩ :=
        (Action.run_bind_eq_ok _).mp distributed
      obtain ⟨after, soundAfter, comes⟩ := resolve_of_sound sound (Path.ofString file).parent
      have known := comes world
      rw [resolved] at known
      rcases known with same | ⟨-, stop, stopped⟩
      · cases found : toolchain machine router project (Path.ofString file).parent with
        | error failure =>
          rw [found] at same
          cases same
        | ok toolchain =>
          rw [found] at same
          cases same
          have assigns := toolchain_eq_assigned found
          have here : assigned machine router project (Path.ofString file).parent = given :=
            Except.ok.inj (assigns.symm.trans found)
          obtain ⟨rfl, others⟩ := ih soundAfter goesOn
          refine ⟨?_, List.forall_mem_cons.mpr ⟨⟨source, assigns⟩, others⟩⟩
          simp only [gather, List.foldl_cons, here]
      · cases stopped

/-- Files that can be routed are put into their buckets, whatever comes after them. -/
theorem comes_distribute_append (sound : memory.Sound machine router project)
    (sources : ∀ file ∈ files, machine.holdsFile (Path.ofString file) = .ok true)
    (fresh : ∀ file ∈ files, toolchain machine router project (Path.ofString file).parent =
      .ok (assign (Path.ofString file).parent)) (buckets : List Bucket) (rest : List String) :
    ∃ after : Memory, ∀ result,
      Comes router.token
          (distribute machine router project after (gather assign buckets files) rest) result →
        Comes router.token (distribute machine router project memory buckets (files ++ rest))
          result := by
  induction files generalizing memory buckets with
  | nil => exact ⟨memory, fun _ comes => comes⟩
  | cons file others ih =>
    obtain ⟨between, soundBetween, resolves⟩ :=
      resolve_of_sound sound (Path.ofString file).parent
    rw [fresh file List.mem_cons_self] at resolves
    obtain ⟨after, goesOn⟩ := ih soundBetween
      (fun other member => sources other (List.mem_cons_of_mem _ member))
      (fun other member => fresh other (List.mem_cons_of_mem _ member))
      (insert (assign (Path.ofString file).parent) file buckets)
    refine ⟨after, fun result comes => ?_⟩
    rw [List.cons_append, distribute_of_source (sources file List.mem_cons_self)]
    exact resolves.bind_ok (goesOn result comes)

theorem unlearnt_sound (machine : Machine) (router : Router) (project : Toolchain) :
    Memory.Sound machine router project { cache := some [] } := by
  constructor
  · intro directory findings known
    cases known
  · intro cache member directory given known
    cases member
    cases known

theorem gather_of_partition {buckets : List Bucket} {world last : World}
    (partitioned : (partition machine router project files).run world = (.ok buckets, last)) :
    buckets = gather (assigned machine router project) [] files ∧
      ∀ file ∈ files, machine.sourceFault? file = none ∧
        toolchain machine router project (Path.ofString file).parent =
          .ok (assigned machine router project (Path.ofString file).parent) := by
  obtain ⟨found, between, distributed, noted⟩ := (Action.run_bind_eq_ok _).mp partitioned
  obtain rfl : found = buckets := by
    split at noted <;> cases noted <;> rfl
  exact gather_of_sound (unlearnt_sound machine router project) distributed

theorem comes_partition
    (sources : ∀ file ∈ files, machine.holdsFile (Path.ofString file) = .ok true)
    (fresh : ∀ file ∈ files, toolchain machine router project (Path.ofString file).parent =
      .ok (assign (Path.ofString file).parent)) :
    Comes router.token (partition machine router project files) (.ok (gather assign [] files)) := by
  obtain ⟨after, goesOn⟩ :=
    comes_distribute_append (unlearnt_sound machine router project) sources fresh [] []
  have distributes := goesOn _ (.of_run fun _ => rfl)
  rw [List.append_nil] at distributes
  refine distributes.bind_ok ?_
  cases router.autodetect with
  | false => exact .of_run fun _ => rfl
  | true => exact .of_run fun _ => rfl

end Distribute

/-- A grouping in which every file has its place. -/
structure Grouping (toolchainOf : String → Toolchain) (files : List String)
    (buckets : List Bucket) : Prop extends Grouped toolchainOf files buckets where
  filled : ∀ bucket ∈ buckets, bucket.files ≠ []
  placed : ∀ file ∈ files, ∃! bucket, bucket ∈ buckets ∧ file ∈ bucket.files
  once : ∀ bucket ∈ buckets, ∀ file ∈ bucket.files,
    file ∈ files ∧ (toolchainOf file).executable = bucket.executable ∧ bucket.files.count file = 1

namespace Grouped

variable {toolchainOf : String → Toolchain} {files : List String} {buckets : List Bucket}

theorem grouping (grouped : Grouped toolchainOf files buckets)
    (sorted : Sorted (fun file => (toolchainOf file).executable) buckets) :
    Grouping toolchainOf files buckets := by
  have mem_files {bucket : Bucket} (member : bucket ∈ buckets) {file : String} :
      file ∈ bucket.files ↔ file ∈ files ∧ (toolchainOf file).executable = bucket.executable := by
    rw [grouped.held bucket member, List.mem_eraseDups, List.mem_filter, decide_eq_true_eq]
  refine ⟨grouped, fun bucket member empty => ?_, fun file given => ?_,
    fun bucket member file held => ?_⟩
  · obtain ⟨first, head, -⟩ := grouped.config bucket member
    rw [empty] at head
    cases head
  · obtain ⟨bucket, member, key⟩ := List.mem_map.mp (grouped.mem_keys.mpr ⟨file, given, rfl⟩)
    refine ⟨bucket, ⟨member, (mem_files member).mpr ⟨given, key.symm⟩⟩, ?_⟩
    rintro other ⟨also, held⟩
    have same := ((mem_files also).mp held).2.symm.trans key.symm
    exact List.inj_on_of_nodup_map sorted.distinct also member same
  · obtain ⟨given, key⟩ := (mem_files member).mp held
    exact ⟨given, key, List.count_eq_one_of_mem (sorted.once bucket member) held⟩

theorem length_le_one (grouped : Grouped toolchainOf files buckets)
    (sorted : Sorted (fun file => (toolchainOf file).executable) buckets) (executable : String)
    (same : ∀ file ∈ files, (toolchainOf file).executable = executable) : buckets.length ≤ 1 := by
  have all : ∀ key ∈ buckets.map Bucket.executable, key = executable := by
    intro key member
    obtain ⟨file, given, rfl⟩ := grouped.mem_keys.mp member
    exact same file given
  have distinct := sorted.distinct
  rw [List.eq_replicate_of_mem all, List.nodup_replicate, List.length_map] at distinct
  exact distinct

end Grouped

section Partition

variable {machine : Machine} {router : Router} {project : Toolchain} {assign : Path → Toolchain}
  {files : List String} {world : World}

/-- A directory that is resolved on its own has been given its toolchain. -/
theorem toolchain_of_resolve {directory : Path} {given : Toolchain}
    (resolved : ((resolve machine router {} directory project).run world).1.map Prod.fst =
      .ok given) : toolchain machine router project directory = .ok given := by
  have unlearnt : Memory.Sound machine router project {} := by
    constructor
    · intro directory findings known
      cases known
    · intro cache member
      cases member
  obtain ⟨after, -, comes⟩ := resolve_of_sound unlearnt directory
  rcases comes world with same | ⟨-, stop, stopped⟩
  · rw [same] at resolved
    cases found : toolchain machine router project directory with
    | error failure =>
      rw [found] at resolved
      cases resolved
    | ok other =>
      rw [found] at resolved
      exact resolved
  · rw [stopped] at resolved
    cases resolved

/-- If every directory can be resolved on its own and nobody cancels before the end, the partition
is the grouping of the files by the executables of their directories. -/
theorem partition_grouping
    (sources : ∀ file ∈ files, machine.pathExists (Path.ofString file) = .ok true ∧
      machine.isDirectory (Path.ofString file) = .ok false)
    (resolves : ∀ file ∈ files,
      ((resolve machine router {} (Path.ofString file).parent project).run world).1.map Prod.fst =
        .ok (assign (Path.ofString file).parent))
    (uncancelled :
      router.token.any ((partition machine router project files).run world).2.tokens.isCancelled =
        false) :
    ∃ buckets, ((partition machine router project files).run world).1 = .ok buckets ∧
      Grouping (fun file => assign (Path.ofString file).parent) files buckets ∧
      (router.autodetect = false → buckets.length ≤ 1) := by
  have fresh : ∀ file ∈ files, toolchain machine router project (Path.ofString file).parent =
      .ok (assign (Path.ofString file).parent) :=
    fun file given => toolchain_of_resolve (resolves file given)
  have grouped := grouped_gather assign files
  have sorted := sorted_gather_nil assign files
  refine ⟨gather assign [] files, ?_, grouped.grouping sorted, fun off => ?_⟩
  · have held := fun file given =>
      Machine.holdsFile_of_exists (sources file given).1 (sources file given).2
    refine (comes_partition held fresh world).resolve_right ?_
    rintro ⟨cancelled, -⟩
    rw [uncancelled] at cancelled
    cases cancelled
  · refine grouped.length_le_one sorted project.executable fun file given => ?_
    have known := fresh file given
    rw [toolchain, off] at known
    cases known
    rfl

end Partition

/-- A machine with two directories of files, one of which has an environment with a checker. -/
def twoDirectories : Machine where
  files := ⟨[
    (["bin", "pipenv"], .file ⟨[], true, false⟩), (["v", "bin", "mypy"], .file ⟨[], true, false⟩),
    (["p", "a.py"], .file ⟨[], false, false⟩), (["q", "b.py"], .file ⟨[], false, false⟩)]⟩
  directory := "/"
  environment := []
  accountHome := "/"
  windows := false
  respond := Rule.respond
    [{ directory := some "/p", argument := some "--venv",
       response := .ok { output := "/v".toUTF8.toList } }]
  cancelledAt := none
  finishOrder := []
  interruptedWait := none

theorem partition_grouping_twoDirectories :
    let files := ["/p/a.py", "/q/b.py", "/p/./a.py", "/q/../p/a.py", "/p/a.py"]
    ∃ buckets, ((partition twoDirectories {} ⟨"mypy", ""⟩ files).run (World.initial false)).1 =
        .ok buckets ∧ buckets.map Bucket.executable = ["/v/bin/mypy", "mypy"] := by
  intro files
  let assign (directory : Path) : Toolchain :=
    if directory = Path.ofString "/q" then ⟨"mypy", ""⟩ else ⟨"/v/bin/mypy", ""⟩
  obtain ⟨buckets, partitioned, grouping, -⟩ : ∃ buckets,
      ((partition twoDirectories {} ⟨"mypy", ""⟩ files).run (World.initial false)).1 = .ok buckets ∧
        Grouping (fun file => assign (Path.ofString file).parent) files buckets ∧
        (true = false → buckets.length ≤ 1) :=
    partition_grouping (by decide +kernel) (by decide +kernel) (by decide +kernel)
  exact ⟨buckets, partitioned, grouping.keys.trans (by decide +kernel)⟩

end Routing

end CheckRouter
