import DialogCodemod.File.Fault
import DialogCodemod.File.Path

/-!
# Errors on a file

An error belongs to one file. A file that is not there is told apart from one that cannot be read;
when writing, every fault is an error of writing.
-/

namespace DialogCodemod

/-- Why a file could not be converted. -/
inductive FileError where
  | notFound (path : Path)
  | read (path : Path) (fault : Fault)
  | write (path : Path) (fault : Fault)
  deriving DecidableEq, Repr

namespace FileError

/-- The error when reading a file has failed. -/
def ofRead (path : Path) (fault : Fault) : FileError :=
  if fault.isNotFound then .notFound path else .read path fault

/-- The error when writing a file has failed. -/
def ofWrite (path : Path) (fault : Fault) : FileError :=
  .write path fault

/-- The error in words, with the file it belongs to. -/
def message : FileError → String
  | .notFound path => "file not found: " ++ path.name
  | .read path fault => "failed to read " ++ path.name ++ ": " ++ fault.message
  | .write path fault => "failed to write " ++ path.name ++ ": " ++ fault.message

/-- The error in words, without the file. -/
def reason : FileError → String
  | .notFound _ => "file not found"
  | .read _ fault => "read failed: " ++ fault.message
  | .write _ fault => "write failed: " ++ fault.message

/-- The fault behind the error. A missing file needs no further explanation. -/
def fault? : FileError → Option Fault
  | .notFound _ => none
  | .read _ fault => some fault
  | .write _ fault => some fault

/-- Whether the file was not there. -/
def isNotFound : FileError → Bool
  | .notFound _ => true
  | _ => false

end FileError

end DialogCodemod
