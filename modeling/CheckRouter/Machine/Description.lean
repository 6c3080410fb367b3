import CheckRouter.Field
import CheckRouter.Machine.Rule

/-!
# Described machines

A document can describe a machine: its working directory and variables, its users, its files, the
places that it refuses to look up, and the rules for what its programs do. Whatever a description
leaves out is as on a machine without files.
-/

namespace CheckRouter.Description

def span (value : Value) : Except Complaint Rat :=
  (Field.integer 0 value).map fun n => (n.1 : Rat) / 1000

def count (value : Value) : Except Complaint Nat :=
  (Field.integer 0 value).map fun n => n.1.toNat

def systemError (value : Value) : Except Complaint SystemError := do
  match SystemError.ofSymbol? (← Field.text value) with
  | some error => return error
  | none => throw .unexpected

def bytes (value : Value) : Except Complaint (List UInt8) :=
  (Field.text value).map (·.toUTF8.toList)

def environment (value : Value) : Except Complaint Variables := do
  (← Field.table value).mapM fun (name, value) => return (name, ← Field.text value)

def place (value : Value) : Except Complaint Place :=
  (Field.text value).map fun name => (FileTree.steps name).filter (· != "")

/-- A node with its place: a link if it has a target, a directory if it has no text. -/
def node (entries : Entries) : Except Fault (Place × Node) := do
  let place ← Field.read entries "path" (.error .missing) place
  let target ← Field.read entries "target" (.ok none) (Field.optional Field.text)
  let text ← Field.read entries "text" (.ok none) (Field.optional bytes)
  let executable ← Field.read entries "executable" (.ok false) Field.flag
  let unreadable ← Field.read entries "unreadable" (.ok false) Field.flag
  match target, text with
  | some target, _ => return (place, .link target)
  | none, some content => return (place, .file ⟨content, executable, unreadable⟩)
  | none, none => return (place, .directory)

/-- A place that is not looked up, and why. -/
def refusal (entries : Entries) : Except Fault (Place × SystemError) := do
  let place ← Field.read entries "path" (.error .missing) place
  return (place, ← Field.read entries "error" (.ok .accessDenied) systemError)

/-- A rule; one that names an error refuses to start the program. -/
def rule (entries : Entries) : Except Fault Rule := do
  let optional {α : Type} (name : String) (reader : Value → Except Complaint α) :=
    Field.read entries name (.ok none) (Field.optional reader)
  let output ← Field.read entries "output" (.ok []) bytes
  let errors ← Field.read entries "errors" (.ok []) bytes
  let status ← Field.read entries "status" (.ok 0) fun value =>
    (Field.integer (-255) value).map (·.1)
  let duration ← Field.read entries "duration" (.ok 0) span
  let interruptedAfter ← optional "interrupted_after" span
  let behaviour : Behaviour := { output, errors, status, duration, interruptedAfter }
  let refusal ← optional "refused" systemError
  return {
    program := ← optional "program" Field.text
    argument := ← optional "argument" Field.text
    directory := ← optional "directory" Field.text
    response := match refusal with
      | some error => .error error
      | none => .ok behaviour }

def members {α : Type} (entries : Entries) (name : String) (reader : Entries → Except Fault α) :
    Except Fault (List α) := do
  (← Field.read entries name (.ok []) (Field.list Field.table)).mapM reader

def machine (entries : Entries) : Except Fault Machine := do
  let nodes ← members entries "files" node
  let refusals ← members entries "refusals" refusal
  let rules ← members entries "programs" rule
  return {
    files := ⟨nodes⟩
    directory := ← Field.read entries "directory" (.ok "/") Field.text
    environment := ← Field.read entries "variables" (.ok []) environment
    accountHome := ← Field.read entries "home" (.ok "/root") Field.text
    windows := ← Field.read entries "windows" (.ok false) Field.flag
    respond := Rule.respond rules
    cancelledAt := ← Field.read entries "cancelled_at" (.ok none) (Field.optional span)
    finishOrder := ← Field.read entries "finish_order" (.ok []) (Field.list count)
    interruptedWait :=
      ← Field.read entries "interrupted_wait" (.ok none) (Field.optional count)
    refuses := fun place => refusals.lookup place <|> FileTree.tooLong? place
    homes := ← Field.read entries "homes" (.ok []) environment }

end CheckRouter.Description
