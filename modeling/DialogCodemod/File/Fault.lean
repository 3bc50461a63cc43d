/-!
# Faults of the file system

Why the file system refused an operation. A fault comes from the system with a number, or from the
program with a kind and perhaps a text of its own.
-/

namespace DialogCodemod

/-- The kinds of faults. -/
inductive FaultKind where
  | notFound
  | permissionDenied
  | alreadyExists
  | invalidInput
  | invalidData
  | timedOut
  | writeZero
  | interrupted
  | unsupported
  | unexpectedEnd
  | outOfMemory
  | other
  | isDirectory
  | notDirectory
  | storageFull
  | readOnlyStorage
  deriving DecidableEq, Repr

/-- The kind in words. -/
def FaultKind.description : FaultKind → String
  | .notFound => "entity not found"
  | .permissionDenied => "permission denied"
  | .alreadyExists => "entity already exists"
  | .invalidInput => "invalid input parameter"
  | .invalidData => "invalid data"
  | .timedOut => "timed out"
  | .writeZero => "write zero"
  | .interrupted => "operation interrupted"
  | .unsupported => "unsupported"
  | .unexpectedEnd => "unexpected end of file"
  | .outOfMemory => "out of memory"
  | .other => "other error"
  | .isDirectory => "is a directory"
  | .notDirectory => "not a directory"
  | .storageFull => "no storage space"
  | .readOnlyStorage => "read-only filesystem or storage medium"

/-- A reason for which an operation on a file failed. -/
inductive Fault where
  /-- A fault the system reports by its number. -/
  | system (number : Nat)
  /-- A fault of which only the kind is known. -/
  | ofKind (kind : FaultKind)
  /-- A fault with a text of its own. -/
  | described (kind : FaultKind) (text : String)
  deriving DecidableEq, Repr

namespace Fault

/-- There is no file or directory of that name. -/
def missing : Fault := .system 2

/-- Something on the way is not a directory. -/
def notDirectory : Fault := .system 20

/-- The operation needs a file and got a directory. -/
def isDirectory : Fault := .system 21

/-- A name is longer than the system allows. -/
def nameTooLong : Fault := .system 36

/-- A path cannot be passed to the system, because it holds the character that ends texts there. -/
def terminatorInName : Fault :=
  .described .invalidInput "file name contained an unexpected NUL byte"

/-- The bytes of a file are no text. -/
def notText : Fault :=
  .described .invalidData "stream did not contain valid UTF-8"

/-- The system's words for the faults with the numbers from one on. -/
def systemTexts : List String := [
  "Operation not permitted",
  "No such file or directory",
  "No such process",
  "Interrupted system call",
  "Input/output error",
  "No such device or address",
  "Argument list too long",
  "Exec format error",
  "Bad file descriptor",
  "No child processes",
  "Resource temporarily unavailable",
  "Cannot allocate memory",
  "Permission denied",
  "Bad address",
  "Block device required",
  "Device or resource busy",
  "File exists",
  "Invalid cross-device link",
  "No such device",
  "Not a directory",
  "Is a directory",
  "Invalid argument",
  "Too many open files in system",
  "Too many open files",
  "Inappropriate ioctl for device",
  "Text file busy",
  "File too large",
  "No space left on device",
  "Illegal seek",
  "Read-only file system",
  "Too many links",
  "Broken pipe",
  "Numerical argument out of domain",
  "Numerical result out of range",
  "Resource deadlock avoided",
  "File name too long",
  "No locks available",
  "Function not implemented",
  "Directory not empty",
  "Too many levels of symbolic links"]

/-- The system's words for a fault number. -/
def systemText (number : Nat) : String :=
  match number with
  | 0 => "Success"
  | position + 1 => systemTexts[position]?.getD ("Unknown error " ++ toString number)

/-- The fault in words. -/
def message : Fault → String
  | .system number => systemText number ++ " (os error " ++ toString number ++ ")"
  | .ofKind kind => kind.description
  | .described _ text => text

/-- Whether the fault is that nothing is there. -/
def isNotFound : Fault → Bool
  | .system number => number == 2
  | .ofKind kind => kind == .notFound
  | .described kind _ => kind == .notFound

end Fault

end DialogCodemod
