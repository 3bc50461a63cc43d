import DialogCodemod.File.System

/-!
# Directory trees

A disk is a tree of directories with files of bytes in it, and a working directory from which
relative paths start. Paths are followed one name at a time, so that the fault tells what stood in
the way first: a missing name, a file where a directory is needed, or a name that is too long.
-/

namespace DialogCodemod

/-- The names on the way from the root to a place. -/
abbrev Location := List Text

/-- What is at a place. -/
inductive Node where
  | directory
  | file (bytes : ByteArray)

/-- A directory tree. -/
structure Disk where
  /-- What is where, the newest first: an entry hides the older ones at its place. The root needs
  no entry. -/
  entries : List (Location × Node) := []
  workingDirectory : Location := []

namespace Disk

/-- The longest name of a file or directory, in bytes. -/
def maxNameSize : Nat := 255

/-- The longest path, in bytes. -/
def maxPathSize : Nat := 4095

/-- What is at a place. -/
def node? (disk : Disk) (location : Location) : Option Node :=
  if location.isEmpty then some .directory else disk.entries.lookup location

/-- Put something at a place. -/
def put (disk : Disk) (location : Location) (node : Node) : Disk :=
  { disk with entries := (location, node) :: disk.entries }

/-- Whether a name is longer than allowed. -/
def isOverlong (name : Text) : Bool :=
  maxNameSize < (String.ofList name).utf8ByteSize

/-- Where a relative path starts, and where an absolute one does. -/
def start (disk : Disk) (path : Path) : Location :=
  if path.isAbsolute then [] else disk.workingDirectory

/-- Go from a directory to another one, name by name. -/
def walk (disk : Disk) (location : Location) : List Text → Except Fault Location
  | [] => .ok location
  | name :: later =>
      if name = "..".toList then disk.walk location.dropLast later
      else if name = ".".toList then disk.walk location later
      else if isOverlong name then .error .nameTooLong
      else
        let next := location ++ [name]
        match disk.node? next with
        | none => .error .missing
        | some (.file _) => .error .notDirectory
        | some .directory => disk.walk next later

/-- Where a path leads. -/
inductive Destination where
  /-- A directory that is there in any case: the root, or one that dots lead to. -/
  | directory
  /-- A name in a directory that is there. -/
  | name (parent : Location) (name : Text)

/-- Follow a path up to its last name. -/
def destination (disk : Disk) (path : Path) : Except Fault Destination :=
  if path.name.toList.contains '\x00' then .error .terminatorInName
  else if path.name.isEmpty then .error .missing
  else if maxPathSize < path.name.utf8ByteSize then .error .nameTooLong
  else
    let names := path.pieces.filter (!List.isEmpty ·)
    match names.getLast? with
    | none => .ok .directory
    | some name => do
        let parent ← disk.walk (disk.start path) names.dropLast
        if isIdlePiece name || name = "..".toList then .ok .directory
        else .ok (.name parent name)

/-- Whether a path ends in a slash, and so must lead to a directory. -/
def wantsDirectory (path : Path) : Bool :=
  path.name.toList.getLast? == some '/'

/-- Read the bytes of a file. -/
def readBytes (disk : Disk) (path : Path) : Except Fault ByteArray := do
  match ← disk.destination path with
  | .directory => .error .isDirectory
  | .name parent name =>
      if isOverlong name then .error .nameTooLong
      else
        match disk.node? (parent ++ [name]) with
        | none => .error .missing
        | some .directory => .error .isDirectory
        | some (.file bytes) => if wantsDirectory path then .error .notDirectory else .ok bytes

/-- Read a file as a text. -/
def read (disk : Disk) (path : Path) : Except Fault Text := do
  let bytes ← disk.readBytes path
  match String.fromUTF8? bytes with
  | some text => .ok text.toList
  | none => .error .notText

/-- Write a file. It need not be there before, but its directory must. -/
def write (disk : Disk) (path : Path) (text : Text) : Except Fault Disk := do
  match ← disk.destination path with
  | .directory => .error .isDirectory
  | .name parent name =>
      if wantsDirectory path then .error .isDirectory
      else if isOverlong name then .error .nameTooLong
      else
        let location := parent ++ [name]
        match disk.node? location with
        | some .directory => .error .isDirectory
        | _ => .ok (disk.put location (.file (String.ofList text).toUTF8))

/-- Go from a directory to another one, making those that are not there. Also a directory that two
dots lead out of again is made. -/
def reach (disk : Disk) (location : Location) : List Text → Disk × Location
  | [] => (disk, location)
  | name :: later =>
      if isIdlePiece name then disk.reach location later
      else if name = "..".toList then disk.reach location.dropLast later
      else
        let next := location ++ [name]
        match disk.node? next with
        | some _ => disk.reach next later
        | none => (disk.put next .directory).reach next later

/-- A disk with nothing on it but the working directory. -/
def withWorkingDirectory (location : Location) : Disk :=
  (reach { workingDirectory := location } [] location).1

/-- Make a directory, with those on the way. -/
def makeDirectory (disk : Disk) (path : Path) : Disk :=
  (disk.reach (disk.start path) path.pieces).1

/-- Add a file, with the directories on the way. -/
def addFile (disk : Disk) (path : Path) (bytes : ByteArray) : Disk :=
  let names := path.pieces.filter (!isIdlePiece ·)
  let (around, parent) := disk.reach (disk.start path) names.dropLast
  around.put (parent ++ names.getLast?.toList) (.file bytes)

/-- The disk as a file system. -/
def fileSystem : FileSystem (StateM Disk) where
  read path := do
    pure ((← get).read path)
  write path text := do
    match (← get).write path text with
    | .ok updated =>
        set updated
        pure (.ok ())
    | .error fault => pure (.error fault)

end Disk

end DialogCodemod
