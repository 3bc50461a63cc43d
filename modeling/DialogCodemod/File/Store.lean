import DialogCodemod.File.System

/-!
# Files in memory

A store holds texts under paths. Paths are the same place when their components agree, however they
are written. Files can be protected, and the store remembers what has been written to it.
-/

namespace DialogCodemod

/-- Files in memory. -/
structure Store where
  /-- The content of the files, the newest first: an entry hides the older ones under its key. -/
  entries : List (PathKey × Text) := []
  /-- The places that refuse to be written. -/
  denied : List PathKey := []
  /-- The paths written so far, in order. -/
  written : List Path := []
  deriving DecidableEq, Repr

namespace Store

/-- The content of a file. -/
def content? (store : Store) (path : Path) : Option Text :=
  store.entries.lookup path.key

/-- Add a file, or replace one. -/
def add (store : Store) (path : Path) (text : Text) : Store :=
  { store with entries := (path.key, text) :: store.entries }

/-- Refuse to write a file from now on. -/
def deny (store : Store) (path : Path) : Store :=
  { store with denied := path.key :: store.denied }

/-- Read a file. -/
def read (store : Store) (path : Path) : Except Fault Text :=
  match store.content? path with
  | some text => .ok text
  | none => .error (.ofKind .notFound)

/-- Write a file, unless it is protected. -/
def write (store : Store) (path : Path) (text : Text) : Except Fault Store :=
  if store.denied.contains path.key then
    .error (.described .permissionDenied "permission denied")
  else .ok { store.add path text with written := store.written ++ [path] }

/-- The store as a file system. -/
def fileSystem : FileSystem (StateM Store) where
  read path := do
    pure ((← get).read path)
  write path text := do
    match (← get).write path text with
    | .ok updated =>
        set updated
        pure (.ok ())
    | .error fault => pure (.error fault)

end Store

end DialogCodemod
