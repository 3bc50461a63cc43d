import DialogCodemod.Conversion
import DialogCodemod.File.System
import DialogCodemod.Report.Batch

/-!
# Conversion of files

A file is read, converted and written back if its text has changed. A batch converts files one by
one in the given order; what goes wrong with one of them becomes its outcome, and the others are
not affected.
-/

namespace DialogCodemod

/-- The result of converting a file, with the log records made on the way. -/
structure FileConversion where
  result : Except FileError Outcome
  log : List LogRecord

/-- The report on a file, with the log records made on the way. -/
structure FileRun where
  report : FileReport
  log : List LogRecord
  deriving DecidableEq, Repr

/-- A record about a file. -/
def fileRecord (level : LogLevel) (message : String) : LogRecord where
  level
  origin := .files
  message

namespace FileConversion

/-- The record of a text without dialogs. -/
def noDialogsRecord (path : Path) : LogRecord :=
  fileRecord .debug (path.name ++ ": no dialog calls detected")

/-- The record of an update. -/
def updateRecord (path : Path) (conversion : Conversion) : LogRecord :=
  fileRecord .info (path.name ++ ": rewrote " ++ toString conversion.replacementCount ++
    " call site(s), import inserted: " ++ (if conversion.importInserted then "true" else "false"))

/-- The outcome of an update. -/
def updateOutcome (conversion : Conversion) : Outcome :=
  .updated conversion.replacementCount conversion.importInserted

/-- The report on the file. An error is reported as the outcome, and logged. -/
def toRun (conversion : FileConversion) (path : Path) : FileRun :=
  match conversion.result with
  | .ok outcome => { report := { path, outcome }, log := conversion.log }
  | .error error =>
      { report := { path, outcome := .ofError error }
        log := conversion.log ++ [fileRecord .warn error.message] }

end FileConversion

section

variable {m : Type → Type} [Monad m]

/-- Convert one file. It is written only if conversion changes its text. -/
def convertFile (files : FileSystem m) (notifier : Notifier) (path : Path) :
    m FileConversion := do
  match ← files.load path with
  | .error error => pure { result := .error error, log := [] }
  | .ok text =>
      match convert? notifier text with
      | none =>
          pure { result := .ok .noDialogs, log := [FileConversion.noDialogsRecord path] }
      | some conversion =>
          let log := conversion.log notifier
          if conversion.text = text then pure { result := .ok .unchanged, log }
          else
            match ← files.save path conversion.text with
            | .error error => pure { result := .error error, log }
            | .ok () =>
                pure {
                  result := .ok (FileConversion.updateOutcome conversion)
                  log := log ++ [FileConversion.updateRecord path conversion] }

/-- Convert one file of a batch. -/
def runFile (files : FileSystem m) (notifier : Notifier) (path : Path) : m FileRun := do
  let conversion ← convertFile files notifier path
  pure (conversion.toRun path)

/-- Convert files in the given order. Each report is announced as soon as its file is done. -/
def convertFiles (files : FileSystem m) (notifier : Notifier) (announce : FileRun → m Unit) :
    List Path → m (List FileRun)
  | [] => pure []
  | path :: later => do
      let run ← runFile files notifier path
      announce run
      let runs ← convertFiles files notifier announce later
      pure (run :: runs)

end

/-- The report of a batch. -/
def BatchReport.ofRuns (runs : List FileRun) : BatchReport where
  files := runs.map FileRun.report

end DialogCodemod
