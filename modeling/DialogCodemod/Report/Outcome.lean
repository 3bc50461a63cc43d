import DialogCodemod.File.Error
import DialogCodemod.Report.Style

/-!
# Outcomes

What became of one file, in the words of its status line.
-/

namespace DialogCodemod

/-- What became of a file. -/
inductive Outcome where
  /-- The converted text was written back. -/
  | updated (replacements : Nat) (importInserted : Bool)
  /-- The text calls no dialog. -/
  | noDialogs
  /-- The text calls a dialog, but conversion leaves it as it is. -/
  | unchanged
  /-- There is no such file. -/
  | notFound
  /-- Reading or writing failed. -/
  | failed (reason : String)
  deriving DecidableEq, Repr

namespace Outcome

/-- What an error means for its file. -/
def ofError (error : FileError) : Outcome :=
  if error.isNotFound then .notFound else .failed error.reason

/-- Only an update is a success. -/
def marker : Outcome → Marker
  | .updated _ _ => .success
  | _ => .warning

/-- The outcome in words. -/
def message : Outcome → String
  | .updated replacements importInserted =>
      "updated (" ++ toString replacements ++ " call site(s) rewritten" ++
        (if importInserted then ", import added" else "") ++ ")"
  | .noDialogs => "no dialog calls found"
  | .unchanged => "no changes needed"
  | .notFound => "file not found, skipped"
  | .failed reason => "error: " ++ reason

/-- Whether the file was updated. -/
def isUpdated : Outcome → Bool
  | .updated _ _ => true
  | _ => false

/-- Whether the file was read and left alone. -/
def isUnchanged : Outcome → Bool
  | .noDialogs | .unchanged => true
  | _ => false

/-- Whether there was no such file. -/
def isSkipped : Outcome → Bool
  | .notFound => true
  | _ => false

/-- Whether reading or writing failed. -/
def isFailed : Outcome → Bool
  | .failed _ => true
  | _ => false

end Outcome

end DialogCodemod
