import DialogCodemod.Batch
import DialogCodemod.CommandLine.Arguments
import DialogCodemod.CommandLine.Environment

/-!
# Running the program

One run of the program: from its arguments to what it prints and how it exits. Files that cannot be
converted are reported and do not change the exit code.
-/

namespace DialogCodemod

/-- What a run leaves behind, apart from the files. -/
structure Transcript where
  exitCode : Nat
  output : String
  errors : String
  deriving DecidableEq, Repr

namespace Transcript

/-- The transcript of a run that converts nothing. What was asked for goes to the output. -/
def ofRefusal (environment : Environment) (refusal : Refusal) : Transcript :=
  let text := refusal.printed environment.helpStyle
  if refusal.isRequested then { exitCode := refusal.exitCode, output := text, errors := "" }
  else { exitCode := refusal.exitCode, output := "", errors := text }

/-- The printed lines of a batch: a status line for each file, an empty line and the summary. -/
def batchLines (style : Style) (report : BatchReport) : List String :=
  report.files.map (·.statusLine style) ++ ["", report.summaryLine style]

/-- The transcript of a batch. -/
def ofRuns (environment : Environment) (runs : List FileRun) : Transcript where
  exitCode := 0
  output :=
    String.join ((batchLines environment.style (.ofRuns runs)).map (· ++ "\n"))
  errors :=
    String.join (((runs.flatMap FileRun.log).filter fun record =>
      environment.logThreshold.admits record.level).map LogRecord.printed)

end Transcript

/-- Run the program on a file system, with a reader for its arguments. What is to be printed is
gathered in the transcript and printed once the batch is over, not line by line as the files are
done. Printing is assumed to succeed. -/
def runProgram {m : Type → Type} [Monad m]
    (readArguments : List String → Except Refusal (List Path)) (files : FileSystem m)
    (environment : Environment) (arguments : List String) : m Transcript :=
  match readArguments arguments with
  | .error refusal => pure (.ofRefusal environment refusal)
  | .ok paths => do
      let runs ← convertFiles files {} (fun _ => pure ()) paths
      pure (.ofRuns environment runs)

end DialogCodemod
