import CheckRouter.Routing
import Mathlib.Data.List.Nodup

/-!
# What a partition holds

A partition puts every file where the toolchain of its directory says, and all files of a directory
have one toolchain. So no file is lost, and none is in two buckets.
-/

namespace CheckRouter

namespace Bucket

variable (bucket : Bucket) (file : String)

@[simp]
theorem executable_add : (bucket.add file).executable = bucket.executable := by
  unfold add
  split <;> rfl

@[simp]
theorem mem_add {other : String} :
    other ∈ (bucket.add file).files ↔ other ∈ bucket.files ∨ other = file := by
  unfold add
  split
  · next there =>
    have member : file ∈ bucket.files := List.contains_iff_mem.mp there
    constructor
    · exact .inl
    · rintro (held | rfl)
      · exact held
      · exact member
  · simp

theorem nodup_add (once : bucket.files.Nodup) : (bucket.add file).files.Nodup := by
  unfold add
  split
  · exact once
  · next absent =>
    have new : file ∉ bucket.files := fun member => absent (List.contains_iff_mem.mpr member)
    exact once.append (List.nodup_singleton file) (by simpa using new)

end Bucket

namespace Routing

/-! ## Buckets -/

section Insert

variable {toolchain : Toolchain} {file : String} {buckets : List Bucket}

theorem executables_insert :
    (insert toolchain file buckets).map Bucket.executable =
      if toolchain.executable ∈ buckets.map Bucket.executable then buckets.map Bucket.executable
      else buckets.map Bucket.executable ++ [toolchain.executable] := by
  induction buckets with
  | nil => simp [insert]
  | cons bucket rest ih =>
    by_cases here : bucket.executable = toolchain.executable
    · simp [insert, here]
    · simp only [insert, here, if_false, List.map_cons, ih, List.mem_cons, Ne.symm here, false_or]
      split <;> rfl

theorem mem_files_insert {other : String} :
    other ∈ (insert toolchain file buckets).flatMap Bucket.files ↔
      other ∈ buckets.flatMap Bucket.files ∨ other = file := by
  induction buckets with
  | nil => simp [insert]
  | cons bucket rest ih =>
    by_cases here : bucket.executable = toolchain.executable
    · simp only [insert, here, if_true, List.flatMap_cons, List.mem_append, Bucket.mem_add]
      exact or_right_comm
    · simp only [insert, here, if_false, List.flatMap_cons, List.mem_append, ih, or_assoc]

theorem mem_insert {bucket : Bucket} (member : bucket ∈ insert toolchain file buckets) :
    bucket ∈ buckets ∨ ∃ old : Bucket, bucket = old.add file ∧
      old.executable = toolchain.executable ∧ (old ∈ buckets ∨ old.files = []) := by
  induction buckets with
  | nil => exact .inr ⟨_, List.mem_singleton.mp member, rfl, .inr rfl⟩
  | cons first rest ih =>
    by_cases here : first.executable = toolchain.executable
    · rw [insert, if_pos here] at member
      rcases List.mem_cons.mp member with rfl | there
      · exact .inr ⟨first, rfl, here, .inl List.mem_cons_self⟩
      · exact .inl (List.mem_cons_of_mem _ there)
    · rw [insert, if_neg here] at member
      rcases List.mem_cons.mp member with rfl | there
      · exact .inl List.mem_cons_self
      · refine (ih there).imp (List.mem_cons_of_mem _) ?_
        rintro ⟨old, same, key, held⟩
        exact ⟨old, same, key, held.imp_left (List.mem_cons_of_mem _)⟩

end Insert

/-- Buckets of distinct executables that hold files of those executables, each of them once. -/
structure Sorted (executableOf : String → String) (buckets : List Bucket) : Prop where
  distinct : (buckets.map Bucket.executable).Nodup
  once : ∀ bucket ∈ buckets, bucket.files.Nodup
  placed : ∀ bucket ∈ buckets, ∀ file ∈ bucket.files, executableOf file = bucket.executable

namespace Sorted

variable {executableOf : String → String} {buckets : List Bucket}

theorem insert (sorted : Sorted executableOf buckets) {toolchain : Toolchain} {file : String}
    (key : executableOf file = toolchain.executable) :
    Sorted executableOf (insert toolchain file buckets) := by
  refine ⟨?_, fun bucket member => ?_, fun bucket member other held => ?_⟩
  · rw [executables_insert]
    split
    · exact sorted.distinct
    · next absent =>
      exact sorted.distinct.append (List.nodup_singleton _) (by simpa using absent)
  · rcases mem_insert member with there | ⟨old, rfl, -, there | empty⟩
    · exact sorted.once bucket there
    · exact old.nodup_add file (sorted.once old there)
    · exact old.nodup_add file (by simp [empty])
  · rcases mem_insert member with there | ⟨old, rfl, same, there | empty⟩
    · exact sorted.placed bucket there other held
    · rw [Bucket.executable_add]
      rcases (old.mem_add file).mp held with before | rfl
      · exact sorted.placed old there other before
      · exact key.trans same.symm
    · obtain rfl : other = file := by simpa [empty] using held
      rw [Bucket.executable_add]
      exact key.trans same.symm

theorem nodup_files (sorted : Sorted executableOf buckets) :
    (buckets.flatMap Bucket.files).Nodup := by
  refine List.nodup_flatMap.mpr ⟨sorted.once, ?_⟩
  refine (List.pairwise_map.mp sorted.distinct).imp_of_mem ?_
  intro bucket other member among differs file held also
  exact differs
    ((sorted.placed bucket member file held).symm.trans (sorted.placed other among file also))

end Sorted

/-- The buckets of files when the toolchain of every directory is known, added to some buckets. -/
def gather (assign : Path → Toolchain) (buckets : List Bucket) (files : List String) :
    List Bucket :=
  files.foldl (fun buckets file => insert (assign (Path.ofString file).parent) file buckets) buckets

section Gather

variable {assign : Path → Toolchain} {buckets : List Bucket}

theorem sorted_gather (files : List String)
    (sorted : Sorted (fun file => (assign (Path.ofString file).parent).executable) buckets) :
    Sorted (fun file => (assign (Path.ofString file).parent).executable)
      (gather assign buckets files) := by
  induction files generalizing buckets with
  | nil => exact sorted
  | cons file rest ih => exact ih (sorted.insert rfl)

theorem mem_files_gather (files : List String) {file : String} :
    file ∈ (gather assign buckets files).flatMap Bucket.files ↔
      file ∈ buckets.flatMap Bucket.files ∨ file ∈ files := by
  induction files generalizing buckets with
  | nil => simp [gather]
  | cons other rest ih =>
    have more := @ih (Routing.insert (assign (Path.ofString other).parent) other buckets)
    rw [mem_files_insert, or_assoc] at more
    rw [List.mem_cons]
    exact more

end Gather

/-! ## Toolchains -/

section Distribute

variable {machine : Machine} {router : Router} {project : Toolchain} {memory after : Memory}
  {directory : Path} {toolchain : Toolchain} {world last : World}

/-- The toolchain of a directory as far as it is known without asking. -/
def known? (router : Router) (project : Toolchain) (memory : Memory) (directory : Path) :
    Option Toolchain :=
  if router.autodetect then memory.cache.bind (Cache.get? · directory) else some project

theorem known_of_resolve (kept : memory.cache.isSome = true)
    (resolved : (resolve machine router memory directory project).run world =
      (.ok (toolchain, after), last)) :
    after.cache.isSome = true ∧ known? router project after directory = some toolchain ∧
      ∀ other given, known? router project memory other = some given →
        known? router project after other = some given := by
  unfold resolve at resolved
  cases auto : router.autodetect with
  | false =>
    rw [auto] at resolved
    cases resolved
    exact ⟨kept, by simp [known?, auto], fun _ _ given => given⟩
  | true =>
    obtain ⟨cache, cached⟩ := Option.isSome_iff_exists.mp kept
    simp only [auto, cached, known?, Bool.not_true, Bool.false_eq_true, if_false, if_true,
      Option.bind_some] at resolved ⊢
    cases found : cache.get? directory with
    | some given =>
      rw [found] at resolved
      cases resolved
      simp [cached, found]
    | none =>
      simp only [found] at resolved
      obtain ⟨⟨findings, memo⟩, probed, -, resolved⟩ := (Action.run_bind_eq_ok _).mp resolved
      obtain ⟨executable, named, -, resolved⟩ := (Action.run_bind_eq_ok _).mp resolved
      obtain ⟨configFile, set, -, resolved⟩ := (Action.run_bind_eq_ok _).mp resolved
      cases resolved
      refine ⟨rfl, by simp [Cache.get?_put], fun other given there => ?_⟩
      have differs : other ≠ directory := by
        rintro rfl
        cases found.symm.trans there
      simpa [Cache.get?_put, differs] using there

theorem gather_of_distribute {buckets result : List Bucket} {files : List String}
    (kept : memory.cache.isSome = true)
    (distributed : (distribute machine router project memory buckets files).run world =
      (.ok result, last)) :
    ∃ assign : Path → Toolchain,
      (∀ directory toolchain, known? router project memory directory = some toolchain →
        assign directory = toolchain) ∧ result = gather assign buckets files := by
  induction files generalizing memory buckets world with
  | nil =>
    cases distributed
    refine ⟨fun directory => (known? router project memory directory).getD project, ?_, rfl⟩
    intro directory toolchain known
    simp only [known, Option.getD_some]
  | cons file rest ih =>
    unfold distribute at distributed
    obtain ⟨there, looked, -, distributed⟩ := (Action.run_bind_eq_ok _).mp distributed
    split at distributed
    · cases distributed
    · obtain ⟨⟨toolchain, next⟩, between, resolved, distributed⟩ :=
        (Action.run_bind_eq_ok _).mp distributed
      obtain ⟨kept, known, grows⟩ := known_of_resolve kept resolved
      obtain ⟨assign, agrees, rfl⟩ := ih kept distributed
      refine ⟨assign, fun directory given before => agrees _ _ (grows _ _ before), ?_⟩
      simp only [gather, List.foldl_cons, agrees _ _ known]

/-- Every file is in exactly one bucket, and there only once. -/
theorem files_of_partition {files : List String} {buckets : List Bucket}
    (partitioned : (partition machine router project files).run world = (.ok buckets, last)) :
    (buckets.flatMap Bucket.files).Nodup ∧
      ∀ file, file ∈ buckets.flatMap Bucket.files ↔ file ∈ files := by
  obtain ⟨found, between, distributed, noted⟩ := (Action.run_bind_eq_ok _).mp partitioned
  obtain rfl : found = buckets := by
    split at noted <;> cases noted <;> rfl
  obtain ⟨assign, -, rfl⟩ := gather_of_distribute rfl distributed
  have sorted : Sorted (fun file => (assign (Path.ofString file).parent).executable) [] :=
    ⟨List.nodup_nil, by simp, by simp⟩
  refine ⟨(sorted_gather files sorted).nodup_files, fun file => ?_⟩
  rw [mem_files_gather]
  simp

end Distribute

end Routing

end CheckRouter
