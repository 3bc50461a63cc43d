import DialogCodemod.File.Error

/-!
# File systems

A file system reads a whole file as a text and replaces the content of a whole file. The effects
live in a monad that the implementation chooses, so that the same code runs on the files of a
computer and on a value.
-/

namespace DialogCodemod

/-- The operations of a file system. -/
structure FileSystem (m : Type → Type) where
  read : Path → m (Except Fault Text)
  write : Path → Text → m (Except Fault Unit)

namespace FileSystem

variable {m : Type → Type} [Monad m]

/-- Read a file, with the error that a fault means for it. -/
def load (files : FileSystem m) (path : Path) : m (Except FileError Text) := do
  match ← files.read path with
  | .ok text => pure (.ok text)
  | .error fault => pure (.error (.ofRead path fault))

/-- Replace the content of a file, with the error that a fault means for it. -/
def save (files : FileSystem m) (path : Path) (text : Text) : m (Except FileError Unit) := do
  match ← files.write path text with
  | .ok done => pure (.ok done)
  | .error fault => pure (.error (.ofWrite path fault))

end FileSystem

end DialogCodemod
