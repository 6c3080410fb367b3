import CheckRouter.Moment
import CheckRouter.Number.Binary64

/-!
# Dynamic values

Settings reach the program as values whose type is known only once they are read: those of a
project file and those that a caller passes.
-/

namespace CheckRouter

inductive Value
  | null
  | flag (set : Bool)
  | integer (n : Int)
  | real (x : Binary64)
  | text (s : String)
  | moment (moment : Moment)
  | list (items : List Value)
  | table (entries : List (String × Value))
  deriving Inhabited

/-- Names with their values, in the order in which the names first appear. -/
abbrev Entries := List (String × Value)

namespace Entries

def get? (entries : Entries) (name : String) : Option Value :=
  entries.lookup name

/-- Sets a name to a value. A name that is already there keeps its place. -/
def put (name : String) (value : Value) : Entries → Entries
  | [] => [(name, value)]
  | (key, old) :: rest =>
    if key = name then (key, value) :: rest else (key, old) :: put name value rest

def update (entries changes : Entries) : Entries :=
  changes.foldl (fun updated (name, value) => put name value updated) entries

theorem get?_put (entries : Entries) (name key : String) (value : Value) :
    (put name value entries).get? key = if key = name then some value else entries.get? key := by
  induction entries with
  | nil =>
    by_cases same : key = name
    · simp [put, get?, same]
    · simp [put, get?, same, List.lookup_cons, beq_eq_false_iff_ne.mpr same]
  | cons entry rest ih =>
    obtain ⟨other, old⟩ := entry
    simp only [get?] at ih ⊢
    by_cases here : other = name
    · subst here
      by_cases same : key = other <;> simp [put, List.lookup_cons, same, beq_eq_false_iff_ne.mpr]
    · simp only [put, here, ↓reduceIte, List.lookup_cons]
      by_cases same : key = other
      · subst same
        simp [here]
      · simp [beq_eq_false_iff_ne.mpr same, ih]

end Entries

end CheckRouter
