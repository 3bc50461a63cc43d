import DialogCodemod.Text.Basic

/-!
# Paths

A path is shown as it was given, and compared by its components: repeated and trailing slashes do
not matter, and neither does a dot that stands for the directory it is in. Only a dot with which a
relative path begins counts as a component. Two dots are a component like any other.
-/

namespace DialogCodemod

/-- A path as it was given. -/
structure Path where
  name : String
  deriving DecidableEq, Repr

/-- What two paths have in common when they are the same place. -/
structure PathKey where
  absolute : Bool
  components : List Text
  deriving DecidableEq, Repr

/-- The stretches of a text between slashes. -/
def splitSlashes : Text → List Text
  | [] => [[]]
  | char :: rest =>
      if char = '/' then [] :: splitSlashes rest
      else
        match splitSlashes rest with
        | [] => [[char]]
        | piece :: later => (char :: piece) :: later

/-- Whether a stretch between slashes leads nowhere: it is empty or a single dot. -/
def isIdlePiece (piece : Text) : Bool :=
  piece.isEmpty || piece == ['.']

namespace Path

/-- The stretches of the path between slashes. -/
def pieces (path : Path) : List Text :=
  splitSlashes path.name.toList

/-- Whether the path starts at the root. -/
def isAbsolute (path : Path) : Bool :=
  path.name.toList.head? == some '/'

/-- The components by which the path is compared. -/
def key (path : Path) : PathKey :=
  let steps := path.pieces.filter (!isIdlePiece ·)
  { absolute := path.isAbsolute
    components := if path.pieces.head? == some ['.'] then ['.'] :: steps else steps }

end Path

end DialogCodemod
