import CheckRouter.Field.Listing
import CheckRouter.SystemError
import CheckRouter.Text.ShellWords
import CheckRouter.Text.Utf8
import CheckRouter.Toml.Fault

/-!
# Failures

A `Failure` is the cause for which a request is given up; `Failure.message` is its wording, and
`Failure.headline` what the wording says at first, before the details.
-/

namespace CheckRouter

inductive Stop
  | byCaller
  | cancelledRunning (program : String)
  | interruptedRunning (program : String)
  | scanInterrupted
  deriving DecidableEq, Repr

def Stop.message : Stop → String
  | .byCaller => "scan cancelled by caller"
  | .cancelledRunning program => "cancelled while running " ++ program
  | .interruptedRunning program => "interrupted while running " ++ program
  | .scanInterrupted => "scan interrupted"

/-- A closing tag of console markup that closes nothing. A tag without a name closes the last one
that is open. -/
structure MarkupFault where
  tag : Option String
  position : Nat
  deriving DecidableEq, Repr

def MarkupFault.message (fault : MarkupFault) : String :=
  match fault.tag with
  | none =>
    "closing tag '[/]' at position " ++ toString fault.position ++ " has nothing to close"
  | some tag =>
    "closing tag '[" ++ tag ++ "]' at position " ++ toString fault.position ++
      " doesn't match any open tag"

inductive Failure
  | invalidSettings (faults : List Fault)
  | invalidIssue (faults : List Fault)
  | rejectedSettings (faults : List Fault)
  | malformedProjectFile (path : String) (mistake : Toml.Mistake)
  | sectionNotTable (path : String)
  | missingConfigFile (path : String)
  | badArguments (arguments : String) (fault : Text.ShellWords.Fault)
  | noSources
  | invalidSource (path : String)
  | checkerFailed (status : Int) (errors : String) (command : List String)
  | unreadableLine (reason : String) (line : Option String)
  | stopped (stop : Stop)
  | emptyCommand
  | notOnSearchPath (program : String)
  | system (error : SystemError) (path : String)
  | embeddedNull
  | oversizedNumeral (digits : Nat)
  | undecodable (fault : Text.Utf8.Fault)
  | noHome
  | linkLoop (path : String)
  /-- Values or links lead into each other too many times. -/
  | tooDeep
  | unknownMode (word : String)
  | markup (fault : MarkupFault)
  deriving DecidableEq, Repr

namespace Failure

def settingsRecord : String := "ToolchainConfig"

def headline : Failure → String
  | .invalidSettings faults => Fault.listing settingsRecord faults
  | .invalidIssue faults => Fault.listing "Issue" faults
  | .rejectedSettings _ => "Invalid mypy-runner configuration"
  | .malformedProjectFile path _ => "Failed to parse " ++ path
  | .sectionNotTable path => "[tool.mypy-runner] in " ++ path ++ " must be a table"
  | .missingConfigFile path =>
    "mypy config file is not valid. File does not exist or can't be read: " ++ path
  | .badArguments arguments fault =>
    "invalid mypy arguments " ++ Text.quoted arguments ++ ": " ++ fault.message
  | .noSources => "Illegal state: no files to scan"
  | .invalidSource path =>
    "Error while checking source file path " ++ path ++ ": not exists or not a file path"
  | .checkerFailed status errors _ =>
    let detail := Text.strip errors
    "mypy failed with code " ++ toString status ++ if detail = "" then "" else ": " ++ detail
  | .unreadableLine reason none => reason
  | .unreadableLine reason (some line) => reason ++ ": " ++ Text.quoted line
  | .stopped stop => stop.message
  | .emptyCommand => "subprocess command requires at least one argument"
  | .notOnSearchPath program => "Executable '" ++ program ++ "' was not found on PATH"
  | .system error path =>
    "[Errno " ++ toString error.number ++ "] " ++ error.text ++ ": " ++ Text.quoted path
  | .embeddedNull => "embedded null byte"
  | .oversizedNumeral digits =>
    "Exceeds the limit (4300 digits) for integer string conversion: value has " ++
      toString digits ++ " digits; use sys.set_int_max_str_digits() to increase the limit"
  | .undecodable fault => fault.message
  | .noHome => "Could not determine home directory."
  | .linkLoop path => "Symlink loop from " ++ Text.quoted path
  | .tooDeep => "maximum recursion depth exceeded"
  | .unknownMode word => Text.quoted word ++ " is not a valid OutputMode"
  | .markup fault => fault.message

def message (failure : Failure) : String :=
  match failure with
  | .rejectedSettings faults => failure.headline ++ ": " ++ Fault.listing settingsRecord faults
  | .malformedProjectFile _ mistake => failure.headline ++ ": " ++ mistake.message
  | _ => failure.headline

def isStop : Failure → Bool
  | .stopped _ => true
  | _ => false

/-- Whether a program could not be started because it, or the directory to start it in, was not
found. -/
def isNotFound : Failure → Bool
  | .notOnSearchPath _ => true
  | .system .noEntry _ => true
  | _ => false

/-- Whether the system refused to start a program, or it was not found. -/
def isRefusal : Failure → Bool
  | .notOnSearchPath _ => true
  | .system .. => true
  | _ => false

end Failure

end CheckRouter
