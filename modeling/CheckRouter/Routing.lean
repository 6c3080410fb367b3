import CheckRouter.Sandbox
import CheckRouter.Virtualenv

/-!
# Routing

Each source file is checked with the toolchain of its directory, and files with the same executable
are checked together. `Routing.partition` groups files so: buckets come in the order in which their
first files are given, and keep the configuration file of those first files.
-/

namespace CheckRouter

/-- A checker and the configuration file to run it with; no file is the empty text. -/
structure Toolchain where
  executable : String
  configFile : String := ""
  deriving DecidableEq, Repr

structure Bucket where
  executable : String
  configFile : String := ""
  files : List String := []
  deriving DecidableEq, Repr

/-- Adds a file unless it is already there. -/
def Bucket.add (bucket : Bucket) (file : String) : Bucket :=
  if bucket.files.contains file then bucket else { bucket with files := bucket.files ++ [file] }

namespace Routing

/-- The toolchains of the directories met so far. -/
abbrev Cache := List (Path × Toolchain)

namespace Cache

def get? (cache : Cache) (directory : Path) : Option Toolchain := cache.lookup directory

def put (directory : Path) (toolchain : Toolchain) : Cache → Cache
  | [] => [(directory, toolchain)]
  | (key, old) :: rest =>
    if key = directory then (key, toolchain) :: rest else (key, old) :: put directory toolchain rest

theorem get?_put (cache : Cache) (directory other : Path) (toolchain : Toolchain) :
    (put directory toolchain cache).get? other =
      if other = directory then some toolchain else cache.get? other := by
  induction cache with
  | nil =>
    by_cases same : other = directory
    · simp [put, get?, same]
    · simp [put, get?, same, List.lookup_cons, beq_eq_false_iff_ne.mpr same]
  | cons entry rest ih =>
    obtain ⟨key, old⟩ := entry
    simp only [get?] at ih ⊢
    by_cases here : key = directory
    · subst here
      by_cases same : other = key <;> simp [put, List.lookup_cons, same, beq_eq_false_iff_ne.mpr]
    · simp only [put, here, ↓reduceIte, List.lookup_cons]
      by_cases same : other = key
      · subst same
        simp [here]
      · simp [beq_eq_false_iff_ne.mpr same, ih]

end Cache

structure Router where
  manager : Sandbox.Manager := {}
  token : Option Token := none
  /-- Whether directories are looked at at all. -/
  autodetect : Bool := true

/-- What a router has learnt: the answers of the sandbox manager and, if kept, the toolchains. -/
structure Memory where
  memo : Sandbox.Memo := []
  cache : Option Cache := none

/-- The checker of the environment that was found, if it holds one. -/
def executableFor (machine : Machine) (findings : Sandbox.Findings) (fallback : String) :
    Action String := do
  match findings.environment with
  | none => return fallback
  | some root =>
    let candidate := Virtualenv.checkerIn machine root
    if ← machine.isRegularFile candidate then return candidate.toString
    Action.record .info .resolver
      ("No mypy in environment " ++ root.toString ++ "; using " ++ fallback)
    return fallback

/-- The configuration file of the project that was found, if it holds one. -/
def configFor (machine : Machine) (findings : Sandbox.Findings) (fallback : String) :
    Except Failure String := do
  match findings.project with
  | none => return fallback
  | some root =>
    let candidate := root / "mypy.ini"
    return if ← machine.isRegularFile candidate then candidate.toString else fallback

/-- The toolchain of a directory; what is not found there is that of the project. -/
def resolve (machine : Machine) (router : Router) (memory : Memory) (directory : Path)
    (project : Toolchain) : Action (Toolchain × Memory) := do
  if !router.autodetect then return (project, memory)
  match memory.cache.bind (Cache.get? · directory) with
  | some toolchain => return (toolchain, memory)
  | none =>
    let (findings, memo) ←
      Sandbox.probe machine router.manager router.token memory.memo directory
    let executable ← executableFor machine findings project.executable
    let configFile ← configFor machine findings project.configFile
    let toolchain : Toolchain := ⟨executable, configFile⟩
    return (toolchain, ⟨memo, memory.cache.map (Cache.put directory toolchain)⟩)

/-- Puts a file into the bucket of its executable, which is made at the end if there is none. -/
def insert (toolchain : Toolchain) (file : String) : List Bucket → List Bucket
  | [] => [Bucket.add ⟨toolchain.executable, toolchain.configFile, []⟩ file]
  | bucket :: rest =>
    if bucket.executable = toolchain.executable then bucket.add file :: rest
    else bucket :: insert toolchain file rest

def distribute (machine : Machine) (router : Router) (project : Toolchain) :
    Memory → List Bucket → List String → Action (List Bucket)
  | _, buckets, [] => return buckets
  | memory, buckets, file :: rest => do
    let path := Path.ofString file
    if !(← machine.holdsFile path) then throw (.invalidSource file)
    let (toolchain, memory) ← resolve machine router memory path.parent project
    distribute machine router project memory (insert toolchain file buckets) rest

def partition (machine : Machine) (router : Router) (project : Toolchain) (files : List String) :
    Action (List Bucket) := do
  let buckets ← distribute machine router project { cache := some [] } [] files
  if router.autodetect then
    Action.record .info .partition
      ("Mapping src files to environments took Nms for " ++ toString files.length ++ " files")
  return buckets

end Routing

end CheckRouter
