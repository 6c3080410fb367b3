/-!
# System errors

The errors with which the operating system refuses a request.
-/

namespace CheckRouter

inductive SystemError
  | notPermitted
  | noEntry
  | inputOutput
  | argumentsTooLong
  | notExecutableFormat
  | tryAgain
  | noMemory
  | accessDenied
  | busy
  | exists
  | notDirectory
  | isDirectory
  | invalidArgument
  | tooManyFilesInSystem
  | tooManyFiles
  | textFileBusy
  | noSpace
  | readOnly
  | nameTooLong
  | linkLoop
  deriving DecidableEq, Repr

namespace SystemError

def number : SystemError → Nat
  | .notPermitted => 1
  | .noEntry => 2
  | .inputOutput => 5
  | .argumentsTooLong => 7
  | .notExecutableFormat => 8
  | .tryAgain => 11
  | .noMemory => 12
  | .accessDenied => 13
  | .busy => 16
  | .exists => 17
  | .notDirectory => 20
  | .isDirectory => 21
  | .invalidArgument => 22
  | .tooManyFilesInSystem => 23
  | .tooManyFiles => 24
  | .textFileBusy => 26
  | .noSpace => 28
  | .readOnly => 30
  | .nameTooLong => 36
  | .linkLoop => 40

def symbol : SystemError → String
  | .notPermitted => "EPERM"
  | .noEntry => "ENOENT"
  | .inputOutput => "EIO"
  | .argumentsTooLong => "E2BIG"
  | .notExecutableFormat => "ENOEXEC"
  | .tryAgain => "EAGAIN"
  | .noMemory => "ENOMEM"
  | .accessDenied => "EACCES"
  | .busy => "EBUSY"
  | .exists => "EEXIST"
  | .notDirectory => "ENOTDIR"
  | .isDirectory => "EISDIR"
  | .invalidArgument => "EINVAL"
  | .tooManyFilesInSystem => "ENFILE"
  | .tooManyFiles => "EMFILE"
  | .textFileBusy => "ETXTBSY"
  | .noSpace => "ENOSPC"
  | .readOnly => "EROFS"
  | .nameTooLong => "ENAMETOOLONG"
  | .linkLoop => "ELOOP"

def all : List SystemError :=
  [.notPermitted, .noEntry, .inputOutput, .argumentsTooLong, .notExecutableFormat, .tryAgain,
    .noMemory, .accessDenied, .busy, .exists, .notDirectory, .isDirectory, .invalidArgument,
    .tooManyFilesInSystem, .tooManyFiles, .textFileBusy, .noSpace, .readOnly, .nameTooLong,
    .linkLoop]

def ofSymbol? (symbol : String) : Option SystemError :=
  all.find? (·.symbol == symbol)

def text : SystemError → String
  | .notPermitted => "Operation not permitted"
  | .noEntry => "No such file or directory"
  | .inputOutput => "Input/output error"
  | .argumentsTooLong => "Argument list too long"
  | .notExecutableFormat => "Exec format error"
  | .tryAgain => "Resource temporarily unavailable"
  | .noMemory => "Cannot allocate memory"
  | .accessDenied => "Permission denied"
  | .busy => "Device or resource busy"
  | .exists => "File exists"
  | .notDirectory => "Not a directory"
  | .isDirectory => "Is a directory"
  | .invalidArgument => "Invalid argument"
  | .tooManyFilesInSystem => "Too many open files in system"
  | .tooManyFiles => "Too many open files"
  | .textFileBusy => "Text file busy"
  | .noSpace => "No space left on device"
  | .readOnly => "Read-only file system"
  | .nameTooLong => "File name too long"
  | .linkLoop => "Too many levels of symbolic links"

/-- Whether an error tells that nothing stands under a name. -/
def isAbsence : SystemError → Bool
  | .noEntry | .notDirectory | .linkLoop => true
  | _ => false

end SystemError

end CheckRouter
