import CheckRouter.Report

/-!
# Requests on the command line

The words of a command line name a command, options in any order and further words. A word of one
hyphen and letters gives several short options at once, two hyphens alone end the options, and of an
option given more than once the last value counts. `Request.ofWords` reads a request or tells what
is wrong with the words.
-/

namespace CheckRouter.CommandLine

inductive UsageFault
  | unknownOption (name : String)
  | missingValue (name : String)
  | unexpectedValue (name : String)
  | badValue (name value : String)
  | missingWord (name : String)
  | unexpectedWord (word : String)
  | missingCommand
  | noWords
  | unknownCommand (name : String)
  deriving DecidableEq, Repr

def UsageFault.message : UsageFault → String
  | .unknownOption name => "No such option: " ++ name
  | .missingValue name => "Option '" ++ name ++ "' requires an argument."
  | .unexpectedValue name => "Option '" ++ name ++ "' does not take a value."
  | .badValue name value => "Invalid value for '" ++ name ++ "': " ++ Text.quoted value
  | .missingWord name => "Missing argument '" ++ name ++ "'."
  | .unexpectedWord word => "Got unexpected extra argument (" ++ word ++ ")"
  | .missingCommand => "Missing command."
  | .noWords => "Nothing is asked for."
  | .unknownCommand name => "No such command '" ++ name ++ "'."

inductive Switch
  | root
  | checkerPath
  | configFile
  | arguments
  | autodetect
  | jobs
  | timeout
  | output
  | verbose
  | help
  deriving DecidableEq, Repr

/-- What follows an option: a value, or nothing, in which case it stands for a value itself. -/
inductive Takes
  | value
  | nothing (standsFor : String)
  deriving DecidableEq, Repr

abbrev Options := List (String × Switch × Takes)

def generalOptions : Options := [("--help", .help, .nothing "on")]

def commonOptions : Options :=
  [("--root", .root, .value), ("--verbose", .verbose, .nothing "on"),
    ("-v", .verbose, .nothing "on"), ("--help", .help, .nothing "on")]

def scanOptions : Options :=
  [("--mypy-path", .checkerPath, .value), ("--config-file", .configFile, .value),
    ("--args", .arguments, .value), ("--autodetect", .autodetect, .nothing "on"),
    ("--no-autodetect", .autodetect, .nothing "off"), ("--jobs", .jobs, .value),
    ("-j", .jobs, .value), ("--timeout", .timeout, .value), ("--output", .output, .value)] ++
    commonOptions

/-- An option as given, with its value. -/
structure Given where
  option : Switch
  name : String
  value : String
  deriving DecidableEq, Repr

structure Sorted where
  given : List Given := []
  words : List String := []
  deriving Repr

/-- Options read from one word; the last may still wait for its value. -/
structure Cluster where
  given : List Given := []
  waiting : Option (Switch × String) := none

/-- The short options in the letters of a word. -/
def shortOptions (options : Options) : List Char → Except UsageFault Cluster
  | [] => .ok {}
  | letter :: rest => do
    let name : String := .ofList ['-', letter]
    match options.lookup name with
    | none => throw (.unknownOption name)
    | some (option, .value) =>
      if rest.isEmpty then return { waiting := some (option, name) }
      return { given := [⟨option, name, .ofList rest⟩] }
    | some (option, .nothing value) =>
      let cluster ← shortOptions options rest
      return { cluster with given := ⟨option, name, value⟩ :: cluster.given }

/-- The options in a word that starts with a hyphen. -/
def optionsIn (options : Options) (word : List Char) : Except UsageFault Cluster :=
  match word with
  | '-' :: '-' :: _ =>
    let name : String := .ofList (word.takeWhile (· != '='))
    let value := (word.dropWhile (· != '=')).tail?.map String.ofList
    match options.lookup name, value with
    | none, _ => .error (.unknownOption name)
    | some (option, .value), none => .ok { waiting := some (option, name) }
    | some (option, .value), some value => .ok { given := [⟨option, name, value⟩] }
    | some (option, .nothing value), none => .ok { given := [⟨option, name, value⟩] }
    | some (_, .nothing _), some _ => .error (.unexpectedValue name)
  | _ => shortOptions options word.tail

def isOptionWord (word : List Char) : Bool := word.head? == some '-' && 1 < word.length

/-- Sorts the words behind a command; `waiting` is an option that waits for its value. -/
def sort (options : Options) : Option (Switch × String) → List String → Except UsageFault Sorted
  | none, [] => .ok {}
  | some (_, name), [] => .error (.missingValue name)
  | some (option, name), value :: rest => do
    let sorted ← sort options none rest
    return { sorted with given := ⟨option, name, value⟩ :: sorted.given }
  | none, word :: rest => do
    if word = "--" then return { words := rest }
    else if isOptionWord word.toList then
      let cluster ← optionsIn options word.toList
      let sorted ← sort options cluster.waiting rest
      return { sorted with given := cluster.given ++ sorted.given }
    else
      let sorted ← sort options none rest
      return { sorted with words := word :: sorted.words }

/-- Sorts the words before a command, which is the first word that is not an option. -/
def sortGeneral : List String → Except UsageFault Sorted
  | [] => .ok {}
  | word :: rest => do
    if word = "--" then return { words := rest }
    else if isOptionWord word.toList then
      let cluster ← optionsIn generalOptions word.toList
      let sorted ← sortGeneral rest
      return { sorted with given := cluster.given ++ sorted.given }
    else return { words := word :: rest }

def Sorted.value? (sorted : Sorted) (option : Switch) : Option String :=
  (sorted.given.reverse.find? (·.option = option)).map (·.value)

def integer? (word : String) : Option Int := (Field.integerOfText word).toOption

def real? (word : String) : Option Binary64 := (Field.realOfText word).toOption

/-- Whether a word can be the name of a file. -/
def isName (word : String) : Bool := !word.toList.contains '\x00'

def checkValue (given : Given) : Except UsageFault Unit :=
  let accepted := match given.option with
    | .root => isName given.value
    | .jobs => (integer? given.value).any (1 ≤ ·)
    | .timeout => (real? given.value).isSome
    | .output => (Report.Mode.ofWord given.value).isOk
    | _ => true
  if accepted then .ok () else .error (.badValue given.name given.value)

/-- Refuses the first option whose last value is not of its kind. -/
def checkValues (sorted : Sorted) : List Given → Except UsageFault Unit
  | [] => .ok ()
  | given :: rest => do
    checkValue { given with value := (sorted.value? given.option).getD given.value }
    checkValues sorted rest

structure ScanRequest where
  files : List String
  root : String := "."
  overrides : Entries := []
  mode : Report.Mode := .concise
  verbose : Bool := false

inductive Request
  | scan (request : ScanRequest)
  | checkPath (executable root : String) (verbose : Bool)
  | help

namespace Request

def overrides (sorted : Sorted) : Entries :=
  let override (name : String) (option : Switch) (meaning : String → Value) : Entries :=
    ((sorted.value? option).map fun value => (name, meaning value)).toList
  override "executable_path" .checkerPath .text ++
    override "config_file_path" .configFile .text ++
    override "extra_arguments" .arguments .text ++
    override "autodetect_isolated_environments" .autodetect (fun value => .flag (value = "on")) ++
    override "jobs" .jobs (fun value => .integer ((integer? value).getD 1)) ++
    override "timeout" .timeout (fun value => .real ((real? value).getD (.notNumber false)))

def mode (sorted : Sorted) : Report.Mode :=
  match (sorted.value? .output).map Report.Mode.ofWord with
  | some (.ok mode) => mode
  | _ => .concise

def root (sorted : Sorted) : String := (sorted.value? .root).getD "."

def isVerbose (sorted : Sorted) : Bool := (sorted.value? .verbose).isSome

def ofScanWords (words : List String) : Except UsageFault Request := do
  let sorted ← sort scanOptions none words
  if (sorted.value? .help).isSome then return .help
  checkValues sorted sorted.given
  match sorted.words.find? fun file => !isName file with
  | some file => throw (.badValue "FILES..." file)
  | none => pure ()
  if sorted.words.isEmpty then throw (.missingWord "FILES...")
  return .scan {
    files := sorted.words
    root := root sorted
    overrides := overrides sorted
    mode := mode sorted
    verbose := isVerbose sorted }

def ofCheckPathWords (words : List String) : Except UsageFault Request := do
  let sorted ← sort commonOptions none words
  if (sorted.value? .help).isSome then return .help
  checkValues sorted sorted.given
  match sorted.words with
  | [] => throw (.missingWord "EXECUTABLE")
  | [executable] => return .checkPath executable (root sorted) (isVerbose sorted)
  | _ :: word :: _ => throw (.unexpectedWord word)

/-- Reads the words of a command line. Words behind two hyphens that name no command are read as
options before one. -/
def ofWords (words : List String) : Except UsageFault Request := do
  if words.isEmpty then throw .noWords
  let sorted ← sortGeneral words
  if (sorted.value? .help).isSome then return .help
  match sorted.words with
  | [] => throw .missingCommand
  | "scan" :: rest => ofScanWords rest
  | "check-path" :: rest => ofCheckPathWords rest
  | command :: rest =>
    let again ← sortGeneral (command :: rest)
    if (again.value? .help).isSome then return .help
    throw (.unknownCommand command)

end Request

end CheckRouter.CommandLine
