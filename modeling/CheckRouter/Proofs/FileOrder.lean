import CheckRouter.Proofs.Grouping

/-!
# The order in which files are given

Files that are given in another order are partitioned alike: there are the same executables, and
each of them has the same files. The configuration file of a bucket is that of its first file, so it
stays the same as long as the directories of an executable agree on one.
-/

namespace CheckRouter

open CheckRouter.Action

theorem perm_eraseDups {α : Type} [DecidableEq α] {list other : List α} (perm : list.Perm other) :
    list.eraseDups.Perm other.eraseDups := by
  rw [List.perm_ext_iff_of_nodup (nodup_eraseDups list) (nodup_eraseDups other)]
  intro element
  rw [List.mem_eraseDups, List.mem_eraseDups, perm.mem_iff]

namespace Routing

section Perm

variable {toolchainOf : String → Toolchain} {files others : List String}
  {buckets moved : List Bucket}

/-- The files of an executable have one configuration file among them. -/
def Unanimous (toolchainOf : String → Toolchain) (files : List String) (executable : String) :
    Prop :=
  ∃ configFile, ∀ file ∈ files, (toolchainOf file).executable = executable →
    (toolchainOf file).configFile = configFile

/-- Two lists of buckets that a rearrangement of their files does not tell apart. -/
structure Rearranged (toolchainOf : String → Toolchain) (files : List String)
    (buckets moved : List Bucket) : Prop where
  executables : (buckets.map Bucket.executable).Perm (moved.map Bucket.executable)
  held : ∀ bucket ∈ buckets, ∀ other ∈ moved, bucket.executable = other.executable →
    bucket.files.Perm other.files
  config : ∀ bucket ∈ buckets, ∀ other ∈ moved, bucket.executable = other.executable →
    Unanimous toolchainOf files bucket.executable → bucket.configFile = other.configFile

namespace Grouped

theorem config_of_unanimous (grouped : Grouped toolchainOf files buckets) {bucket : Bucket}
    (member : bucket ∈ buckets) {configFile : String}
    (agree : ∀ file ∈ files, (toolchainOf file).executable = bucket.executable →
      (toolchainOf file).configFile = configFile) : bucket.configFile = configFile := by
  obtain ⟨first, head, config⟩ := grouped.config bucket member
  have held : first ∈ bucket.files := List.mem_of_head? head
  rw [grouped.held bucket member, List.mem_eraseDups, List.mem_filter] at held
  rw [config]
  exact agree first held.1 (of_decide_eq_true held.2)

theorem rearranged (grouped : Grouped toolchainOf files buckets)
    (also : Grouped toolchainOf others moved) (perm : files.Perm others) :
    Rearranged toolchainOf files buckets moved := by
  constructor
  · rw [grouped.keys, also.keys]
    exact perm_eraseDups (perm.map _)
  · intro bucket member other among same
    rw [grouped.held bucket member, also.held other among, same]
    exact perm_eraseDups (perm.filter _)
  · rintro bucket member other among same ⟨configFile, agree⟩
    have first : bucket.configFile = configFile := grouped.config_of_unanimous member agree
    have second : other.configFile = configFile := by
      apply also.config_of_unanimous among
      intro file given key
      exact agree file (perm.mem_iff.mpr given) (key.trans same.symm)
    rw [first, second]

end Grouped

end Perm

section Partition

variable {machine : Machine} {router : Router} {project : Toolchain} {assign : Path → Toolchain}
  {files others : List String} {world one two : World}

theorem partition_outcome
    (sources : ∀ file ∈ files, machine.pathExists (Path.ofString file) = .ok true ∧
      machine.isDirectory (Path.ofString file) = .ok false)
    (resolves : ∀ file ∈ files,
      ((resolve machine router {} (Path.ofString file).parent project).run world).1.map Prod.fst =
        .ok (assign (Path.ofString file).parent))
    (uncancelled :
      router.token.any ((partition machine router project files).run one).2.tokens.isCancelled =
        false) :
    ((partition machine router project files).run one).1 = .ok (gather assign [] files) := by
  have comes : Comes router.token (partition machine router project files)
      (.ok (gather assign [] files)) :=
    comes_partition
      (fun file given => Machine.holdsFile_of_exists (sources file given).1 (sources file given).2)
      fun file given => toolchain_of_resolve (resolves file given)
  -- A partition that comes to anything else found its token cancelled.
  rcases comes one with same | ⟨cancelled, -⟩
  · exact same
  · cases uncancelled.symm.trans cancelled

/-- Two orders of some files, each of them partitioned by a router that has learnt nothing: both
partitions succeed, and the order of the files changes only the order of the buckets and of the
files in them. -/
theorem partition_perm (perm : files.Perm others)
    (sources : ∀ file ∈ files, machine.pathExists (Path.ofString file) = .ok true ∧
      machine.isDirectory (Path.ofString file) = .ok false)
    (resolves : ∀ file ∈ files,
      ((resolve machine router {} (Path.ofString file).parent project).run world).1.map Prod.fst =
        .ok (assign (Path.ofString file).parent))
    (firstFree :
      router.token.any ((partition machine router project files).run one).2.tokens.isCancelled =
        false)
    (secondFree :
      router.token.any ((partition machine router project others).run two).2.tokens.isCancelled =
        false) :
    ∃ buckets moved,
      ((partition machine router project files).run one).1 = .ok buckets ∧
      ((partition machine router project others).run two).1 = .ok moved ∧
      Rearranged (fun file => assign (Path.ofString file).parent) files buckets moved := by
  refine ⟨gather assign [] files, gather assign [] others, ?_, ?_, ?_⟩
  · exact partition_outcome sources resolves firstFree
  · have there : ∀ file ∈ others, file ∈ files := fun file => perm.mem_iff.mpr
    exact partition_outcome (fun file given => sources file (there file given))
      (fun file given => resolves file (there file given)) secondFree
  · exact (grouped_gather assign files).rearranged (grouped_gather assign others) perm

theorem partition_perm_twoDirectories :
    let router : Router := { token := some callerToken }
    let partitioned (files : List String) :=
      ((partition twoDirectories router ⟨"mypy", ""⟩ files).run (.initial false)).1
    let files := ["/p/a.py", "/q/b.py", "/q/../p/a.py"]
    ∃ buckets moved, partitioned files = .ok buckets ∧ partitioned files.reverse = .ok moved ∧
      (buckets.map Bucket.executable).Perm (moved.map Bucket.executable) := by
  intro router partitioned files
  let assign (directory : Path) : Toolchain :=
    if directory = Path.ofString "/q" then ⟨"mypy", ""⟩ else ⟨"/v/bin/mypy", ""⟩
  have resolves : ∀ file ∈ files,
      ((resolve twoDirectories router {} (Path.ofString file).parent ⟨"mypy", ""⟩).run
        (.initial false)).1.map Prod.fst = .ok (assign (Path.ofString file).parent) := by
    decide +kernel
  have free (order : List String) (given : order = files ∨ order = files.reverse) :
      router.token.any ((partition twoDirectories router ⟨"mypy", ""⟩ order).run
        (.initial false)).2.tokens.isCancelled = false := by
    rcases given with rfl | rfl <;> decide +kernel
  obtain ⟨buckets, moved, first, second, same⟩ := partition_perm (List.reverse_perm files).symm
    (by decide +kernel) resolves (free files (.inl rfl)) (free files.reverse (.inr rfl))
  exact ⟨buckets, moved, first, second, same.executables⟩

/-- Two directories of one executable and different configuration files: the first file given
decides. -/
example :
    let machine : Machine := { twoDirectories with
      files := ⟨(["p", "mypy.ini"], .file ⟨[], false, false⟩) :: twoDirectories.files.nodes⟩
      respond := Rule.respond
        [{ directory := some "/p", argument := some "--where",
           response := .ok { output := "/p".toUTF8.toList } }] }
    let config (files : List String) :=
      ((partition machine {} ⟨"mypy", ""⟩ files).run (.initial false)).1.toOption.map
        fun buckets => buckets.map fun bucket => (bucket.executable, bucket.configFile)
    config ["/p/a.py", "/q/b.py"] = some [("mypy", "/p/mypy.ini")] ∧
      config ["/q/b.py", "/p/a.py"] = some [("mypy", "")] := by
  decide +kernel

end Partition

end Routing

end CheckRouter
