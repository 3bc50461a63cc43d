import DialogCodemod.Import.Block
import DialogCodemod.Log
import DialogCodemod.Notifier

/-!
# Placing the import

The import of the notifier goes to the end of the leading import block. A text whose first line is
something else may still import the framework further down; then the new import goes below that
one. Failing both, it becomes the first line. A text that mentions the notifier gets no import.
-/

namespace DialogCodemod.Import

/-- The line below the first import of the module, counted from the first line as zero. The name of
the module is looked for as it stands. That a search for it can always be set up, whatever the name,
is assumed. -/
def anchorLine? (module text : Text) : Option Nat :=
  (afterFirstImport? module true text).map fun after =>
    text.newlineCount - after.newlineCount + 1

/-- The number of lines above the place where an import belongs. -/
def insertionLine (framework text : Text) : Nat :=
  match leadingBlock text with
  | 0 => (anchorLine? framework text).getD 0
  | line + 1 => line + 1

/-- Insert a line below the first `line` lines. If the text ends there without a newline, it gets
one first. -/
def insertLine (text : Text) (line : Nat) (statement : Text) : Text :=
  let ending := (LineEnding.ofText text).text
  let (head, tail) := text.splitLines line
  let completed := if head.isEmpty || head.getLast? == some '\n' then head else head ++ ending
  completed ++ statement ++ ending ++ tail

/-- The line at which a text needs an import of the notifier, if it needs one. -/
def placement? (notifier : Notifier) (text : Text) : Option Nat :=
  if text.mentions notifier.name then none
  else some (insertionLine notifier.framework text)

/-- Carry out a placement. -/
def place (notifier : Notifier) (text : Text) : Option Nat → Text
  | none => text
  | some line => insertLine text line notifier.importStatement

/-- The text with an import of the notifier, if it needs one. -/
def withImport? (notifier : Notifier) (text : Text) : Option Text :=
  (placement? notifier text).map fun line => insertLine text line notifier.importStatement

/-- The record of a placement. -/
def placementRecord (notifier : Notifier) (placement : Option Nat) : LogRecord where
  level := .debug
  origin := .imports
  message :=
    match placement with
    | none => "'" ++ String.ofList notifier.name ++ "' already referenced, skipping import"
    | some line => "inserting import at line " ++ toString line

end DialogCodemod.Import
