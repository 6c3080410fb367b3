import CheckRouter.Machine

/-!
# Looking names up

Whoever asks what stands under a name learns it, or fails with the refusal of the system to look the
name up. Each question about a path is answered by what stands there.
-/

namespace CheckRouter

section Outcomes

variable {α β : Type}

theorem ok_bind (value : α) (next : α → Except Failure β) : (.ok value >>= next) = next value := rfl

theorem error_bind (failure : Failure) (next : α → Except Failure β) :
    (.error failure >>= next) = .error failure := rfl

theorem bind_eq_ok {outcome : Except Failure α} {next : α → Except Failure β} {value : β} :
    (outcome >>= next) = .ok value ↔ ∃ first, outcome = .ok first ∧ next first = .ok value := by
  cases outcome with
  | error failure => simp [error_bind]
  | ok first => simp [ok_bind]

theorem bind_eq_error {outcome : Except Failure α} {next : α → Except Failure β}
    {failure : Failure} : (outcome >>= next) = .error failure ↔
      outcome = .error failure ∨ ∃ first, outcome = .ok first ∧ next first = .error failure := by
  cases outcome with
  | error other => simp [error_bind]
  | ok first => simp [ok_bind]

end Outcomes

namespace Machine

variable {machine : Machine} {name : String} {path : Path} {failure : Failure}

/-- Whether the system answers what stands under a name. -/
def Answers (machine : Machine) (name : String) : Prop := ∃ node, machine.look name = .ok node

theorem findFrom_of_find {base : List String} {found : Place × Node}
    (finds : machine.find base name = .ok found) :
    machine.disk.findFrom true base name = .ok found := by
  unfold find at finds
  split at finds
  · cases finds
  · exact finds

theorem look_eq_error_iff :
    machine.look name = .error failure ↔ holdsNull name = false ∧ ∃ error,
      machine.find (FileTree.steps machine.directory) name = .error error ∧
        error.isAbsence = false ∧ failure = .system error name := by
  unfold look
  cases holdsNull name with
  | true => simp
  | false =>
    cases machine.find (FileTree.steps machine.directory) name with
    | ok found => simp
    | error error =>
      cases absent : error.isAbsence with
      | true => simp [absent]
      | false => simp [absent, eq_comm (a := failure)]

theorem exists_of_look {node : Node} (there : machine.look name = .ok (some node)) :
    holdsNull name = false ∧
      ∃ place, machine.disk.find true machine.directory name = .ok (place, node) := by
  unfold look at there
  split at there
  · cases there
  · next clean =>
    split at there
    · next place _ found =>
      cases there
      exact ⟨Bool.eq_false_iff.mpr clean, place, findFrom_of_find found⟩
    · split at there <;> cases there

theorem isDirectory_eq_true_iff :
    machine.isDirectory path = .ok true ↔ machine.look path.toString = .ok (some .directory) := by
  unfold isDirectory
  cases machine.look path.toString with
  | error failure => simp [Except.map]
  | ok node => simp [Except.map]

theorem isRegularFile_eq_true_iff :
    machine.isRegularFile path = .ok true ↔
      ∃ file, machine.look path.toString = .ok (some (.file file)) := by
  unfold isRegularFile
  cases machine.look path.toString with
  | error failure => simp [Except.map]
  | ok node => rcases node with _ | (_ | file | _) <;> simp [Except.map]

theorem holdsFile_eq (machine : Machine) (path : Path) :
    machine.holdsFile path =
      (machine.look path.toString).map fun node => node.isSome && node != some .directory := by
  unfold holdsFile pathExists isDirectory
  cases machine.look path.toString <;> rfl

theorem holdsFile_eq_true_iff :
    machine.holdsFile path = .ok true ↔
      ∃ node, node ≠ .directory ∧ machine.look path.toString = .ok (some node) := by
  rw [holdsFile_eq]
  cases machine.look path.toString with
  | error failure => simp [Except.map]
  | ok node => cases node <;> simp [Except.map]

theorem exists_of_holdsFile (held : machine.holdsFile path = .ok true) :
    machine.pathExists path = .ok true ∧ machine.isDirectory path = .ok false := by
  obtain ⟨node, other, there⟩ := holdsFile_eq_true_iff.mp held
  simp [pathExists, isDirectory, there, Except.map, other]

theorem holdsFile_of_exists (there : machine.pathExists path = .ok true)
    (other : machine.isDirectory path = .ok false) : machine.holdsFile path = .ok true := by
  rw [holdsFile, there, ok_bind, other]
  rfl

/-- A question about a path fails just if the path may not be looked up. -/
theorem map_look_eq_error_iff {α : Type} {read : Option Node → α} :
    (machine.look name).map read = .error failure ↔ machine.look name = .error failure := by
  cases machine.look name <;> simp [Except.map]

end Machine

end CheckRouter
