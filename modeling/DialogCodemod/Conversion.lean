import DialogCodemod.Import.Placement
import DialogCodemod.Rule.Replacement

/-!
# Conversion of a text

A text that calls a dialog is converted in two steps: the notifier is imported, and then the rules
are applied one after the other. A text that calls none is left alone.
-/

namespace DialogCodemod

/-- The result of converting a text. -/
structure Conversion where
  /-- The dialogs the text called. -/
  detection : Detection
  /-- The line at which the import was inserted, if it was. -/
  importLine : Option Nat
  /-- The text with the import, before any rule was applied. -/
  imported : Text
  /-- The rules applied, in order. -/
  steps : List Rule.Step
  deriving DecidableEq, Repr

namespace Conversion

/-- The converted text. -/
def text (conversion : Conversion) : Text :=
  conversion.steps.foldl (fun _ step => step.text) conversion.imported

/-- Whether the import was inserted. -/
def importInserted (conversion : Conversion) : Bool :=
  conversion.importLine.isSome

/-- The number of call sites replaced. -/
def replacementCount (conversion : Conversion) : Nat :=
  Rule.Step.total conversion.steps

end Conversion

/-- The record of a step. -/
def Rule.Step.record (step : Rule.Step) : LogRecord where
  level := .debug
  origin := .rules
  message := "rule " ++ step.rule.name ++ " rewrote " ++ toString step.count ++ " call site(s)"

/-- The records of a conversion: the import first, then the steps. -/
def Conversion.log (notifier : Notifier) (conversion : Conversion) : List LogRecord :=
  Import.placementRecord notifier conversion.importLine :: conversion.steps.map Rule.Step.record

/-- Convert a text, unless it calls no dialog. -/
def convert? (notifier : Notifier) (text : Text) : Option Conversion :=
  let detection := Detection.ofText text
  if detection.any then
    let importLine := Import.placement? notifier text
    let imported := Import.place notifier text importLine
    some { detection, importLine, imported, steps := Rule.steps notifier Rule.all imported }
  else none

/-- The conversions of a text run again and again, each over the result of the one before, up to
the first run that finds nothing. -/
def convertRepeatedly (notifier : Notifier) : (times : Nat) → Text → List (Option Conversion)
  | 0, _ => []
  | times + 1, text =>
      match convert? notifier text with
      | none => [none]
      | some conversion => some conversion :: convertRepeatedly notifier times conversion.text

end DialogCodemod
