import CheckRouter.Toml.Scalar

/-!
# Documents of a project file

A document is a list of statements: headers that open a table or a new member of an array of tables,
and keys with values. `Toml.parse` reads a document to the entries of its outermost table.

Marks keep apart what may still be added to. A table that a header or the dots of a key have opened
is not opened again by a header, and nothing is added below an inline table or an array.
-/

namespace CheckRouter.Toml

inductive Mark
  | opened
  /-- Nothing is added to the value or below it. -/
  | sealed
  deriving DecidableEq, Repr

abbrev Marks := List (List String × Mark)

namespace Marks

def isOpened (marks : Marks) (key : List String) : Bool := marks.contains (key, .opened)

/-- Whether a key, or one above it, is sealed. -/
def isSealed (marks : Marks) (key : List String) : Bool :=
  marks.any fun (marked, mark) => mark = .sealed && marked.isPrefixOf key

/-- Drops the marks of a key and of all keys below it. -/
def clear (marks : Marks) (key : List String) : Marks :=
  marks.filter fun (marked, _) => !key.isPrefixOf marked

end Marks

/-- Changes the table behind a key, making the tables on the way there. With `throughArrays` the
last member of an array of tables stands for the array. -/
def within (throughArrays : Bool) (change : Entries → Option Entries) :
    List String → Entries → Option Entries
  | [], entries => change entries
  | name :: rest, entries =>
    match entries.get? name with
    | none => (within throughArrays change rest []).map fun inner => entries.put name (.table inner)
    | some (.table inner) =>
      (within throughArrays change rest inner).map fun inner => entries.put name (.table inner)
    | some (.list items) =>
      match items.getLast? with
      | some (.table inner) =>
        if throughArrays then
          (within throughArrays change rest inner).map fun inner =>
            entries.put name (.list (items.dropLast ++ [.table inner]))
        else none
      | _ => none
    | some _ => none

def addNew (name : String) (value : Value) (entries : Entries) : Option Entries :=
  if (entries.get? name).isSome then none else some (entries.put name value)

/-- Adds an empty table to the array of a name, which is made if there is none. -/
def addMember (name : String) (entries : Entries) : Option Entries :=
  match entries.get? name with
  | none => some (entries.put name (.list [.table []]))
  | some (.list items) => some (entries.put name (.list (items ++ [.table []])))
  | some _ => none

/-- Whether a value holds others and is not added to. -/
def isComposite : Value → Bool
  | .list _ => true
  | .table _ => true
  | _ => false

/-- A value other than an array or an inline table. -/
def simpleValue (source : List Char) : Except Fault (Value × List Char) :=
  match source with
  | '"' :: _ => (text source).map fun (content, rest) => (.text (.ofList content), rest)
  | '\'' :: _ => (text source).map fun (content, rest) => (.text (.ofList content), rest)
  | 't' :: 'r' :: 'u' :: 'e' :: rest => .ok (.flag true, rest)
  | 'f' :: 'a' :: 'l' :: 's' :: 'e' :: rest => .ok (.flag false, rest)
  | _ =>
    match moment? source with
    | some (value, rest) => value.map (·, rest)
    | none =>
      match number? source with
      | some (value, rest) => value.map (·, rest)
      | none => fault .invalidValue source

def addField (marks : Marks) (key : List String) (value : Value) (entries : Entries) :
    Except Reason Entries := do
  let name := key.getLast?.getD ""
  if marks.isSealed key then throw (.sealedTable key)
  if (within false some key.dropLast entries).isNone then throw .overwritten
  match within false (addNew name value) key.dropLast entries with
  | some entries => return entries
  | none => throw (.repeatedField name)

/-- How much of the room for values inside each other an array and an inline table take. -/
def arrayDepth : Nat := 2

def inlineTableDepth : Nat := 3

mutual

/-- A value with some room for others inside it. -/
def valueWithin : Nat → Nat → List Char → Except Fault (Value × List Char)
  | 0, _, source => fault .invalidValue source
  | fuel + 1, room, '[' :: rest => do
    if room < arrayDepth then throw .nested
    match ← skipLayout false rest with
    | ']' :: rest => return (.list [], rest)
    | rest =>
      let (items, rest) ← itemsWithin fuel (room - arrayDepth) rest
      return (.list items, rest)
  | fuel + 1, room, '\x7b' :: rest => do
    if room < inlineTableDepth then throw .nested
    match skipSpace rest with
    | '\x7d' :: rest => return (.table [], rest)
    | rest =>
      let (entries, rest) ← fieldsWithin fuel (room - inlineTableDepth) [] [] rest
      return (.table entries, rest)
  | _ + 1, _, source => simpleValue source

/-- The members of an array from its first one on, up to the closing bracket. -/
def itemsWithin : Nat → Nat → List Char → Except Fault (List Value × List Char)
  | 0, _, source => fault .invalidValue source
  | fuel + 1, room, source => do
    let (item, rest) ← valueWithin fuel room source
    match ← skipLayout false rest with
    | ']' :: rest => return ([item], rest)
    | ',' :: rest =>
      match ← skipLayout false rest with
      | ']' :: rest => return ([item], rest)
      | rest =>
        let (items, rest) ← itemsWithin fuel room rest
        return (item :: items, rest)
    | rest => fault .openArray rest

/-- The fields of an inline table from its next one on, up to the closing brace. -/
def fieldsWithin :
    Nat → Nat → Marks → Entries → List Char → Except Fault (Entries × List Char)
  | 0, _, _, _, source => fault .invalidValue source
  | fuel + 1, room, marks, entries, source => do
    let (key, value, rest) ← pairWithin fuel room source
    let entries ← (addField marks key value entries).mapError (.malformed · rest.length)
    match skipSpace rest with
    | '\x7d' :: rest => return (entries, rest)
    | ',' :: rest =>
      let marks := if isComposite value then (key, .sealed) :: marks else marks
      fieldsWithin fuel room marks entries (skipSpace rest)
    | rest => fault .openInlineTable rest

def pairWithin : Nat → Nat → List Char → Except Fault (List String × Value × List Char)
  | 0, _, source => fault .invalidValue source
  | fuel + 1, room, source => do
    let (key, rest) ← key source
    match rest with
    | '=' :: rest =>
      let (value, rest) ← valueWithin fuel room (skipSpace rest)
      return (key, value, rest)
    | rest => fault .missingEquals rest

end

structure Document where
  entries : Entries := []
  marks : Marks := []
  /-- Keys that count as opened from the next header on. -/
  pending : List (List String) := []
  header : List String := []

namespace Document

def openTable (document : Document) (key : List String) : Except Reason Document := do
  if document.marks.isOpened key || document.marks.isSealed key then throw (.repeatedTable key)
  match within true some key document.entries with
  | none => throw .overwritten
  | some entries =>
    return { document with entries, marks := (key, .opened) :: document.marks, header := key }

def openMember (document : Document) (key : List String) : Except Reason Document := do
  if document.marks.isSealed key then throw (.sealedTable key)
  match within true (addMember (key.getLast?.getD "")) key.dropLast document.entries with
  | none => throw .overwritten
  | some entries =>
    return { document with
      entries
      marks := (key, .opened) :: document.marks.clear key
      header := key }

/-- The proper beginnings of a key that are not empty, shortest first. -/
def beginnings (key : List String) : List (List String) :=
  (List.range (key.length - 1)).map fun n => key.take (n + 1)

def add (document : Document) (key : List String) (value : Value) : Except Reason Document := do
  let path := document.header ++ key
  let ways := (beginnings key).map (document.header ++ ·)
  match ways.find? document.marks.isOpened with
  | some way => throw (.redefinedTable way)
  | none => pure ()
  if document.marks.isSealed path.dropLast then throw (.sealedTable path.dropLast)
  match within true (addNew (path.getLast?.getD "") value) path.dropLast document.entries with
  | none => throw .overwritten
  | some entries =>
    let marks := if isComposite value then (path, .sealed) :: document.marks else document.marks
    return { document with entries, marks, pending := ways ++ document.pending }

/-- Lets the pending keys count as opened. -/
def settle (document : Document) : Document :=
  { document with
    marks := document.pending.map (·, .opened) ++ document.marks
    pending := [] }

def startsKey (c : Char) : Bool := isBareKeyChar c || c = '"' || c = '\''

/-- Reads the statement at the front of a text that is not empty. There is some room for values inside
each other. -/
def statement (room : Nat) (document : Document) (source : List Char) :
    Except Fault (Document × List Char) := do
  match source with
  | '[' :: '[' :: rest =>
    let (key, rest) ← key (skipSpace rest)
    let document ← (document.settle.openMember key).mapError (.malformed · rest.length)
    match rest with
    | ']' :: ']' :: rest => return (document, skipSpace rest)
    | rest => fault .openMemberHeader rest
  | '[' :: rest =>
    let (key, rest) ← key (skipSpace rest)
    let document ← (document.settle.openTable key).mapError (.malformed · rest.length)
    match rest with
    | ']' :: rest => return (document, skipSpace rest)
    | rest => fault .openHeader rest
  | '#' :: _ => return (document, source)
  | _ =>
    if !source.head?.any startsKey then fault .invalidStatement source
    let (key, value, rest) ← pairWithin (2 * source.length + 3) room source
    let document ← (document.add key value).mapError (.malformed · rest.length)
    return (document, skipSpace rest)

/-- Reads at most `fuel` lines. -/
def readWithin (room : Nat) : Nat → Document → List Char → Except Fault Document
  | 0, document, _ => .ok document
  | fuel + 1, document, source =>
    match skipSpace source with
    | [] => .ok document
    | '\n' :: rest => readWithin room fuel document rest
    | source => do
      let (document, rest) ← document.statement room source
      match ← skipComment rest with
      | [] => return document
      | '\n' :: rest => readWithin room fuel document rest
      | rest => fault .trailingText rest

end Document

/-- Writes a carriage return before a line feed as the line feed alone. -/
def joinLineEnds : List Char → List Char
  | [] => []
  | '\r' :: '\n' :: rest => '\n' :: joinLineEnds rest
  | c :: rest => c :: joinLineEnds rest

/-- Reads a document. There is some room for values inside each other. -/
def parse (room : Nat) (source : String) : Except Fault Entries :=
  let text := joinLineEnds source.toList
  (Document.readWithin room (text.length + 1) {} text).map (·.entries)

/-- What is wrong in a document where some characters of it are left. -/
def mistake (source : String) (reason : Reason) (left : Nat) : Mistake :=
  .of (joinLineEnds source.toList) reason left

end CheckRouter.Toml
