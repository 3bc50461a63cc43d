import DialogCodemod.Report.Outcome

/-!
# Reports

A report has one entry for each path of a batch, in the order in which the paths were given, and a
summary that counts the outcomes.
-/

namespace DialogCodemod

/-- The outcome for one path. -/
structure FileReport where
  path : Path
  outcome : Outcome
  deriving DecidableEq, Repr

/-- The status line of a file. -/
def FileReport.statusLine (report : FileReport) (style : Style) : String :=
  style.marker report.outcome.marker ++ " " ++ report.path.name ++ ": " ++ report.outcome.message

/-- The outcomes of a batch. -/
structure BatchReport where
  files : List FileReport := []
  deriving DecidableEq, Repr

namespace BatchReport

/-- The number of files whose outcome is of a kind. -/
def count (report : BatchReport) (kind : Outcome → Bool) : Nat :=
  report.files.countP fun file => kind file.outcome

def updated (report : BatchReport) : Nat := report.count Outcome.isUpdated

def unchanged (report : BatchReport) : Nat := report.count Outcome.isUnchanged

def skipped (report : BatchReport) : Nat := report.count Outcome.isSkipped

def failed (report : BatchReport) : Nat := report.count Outcome.isFailed

/-- The worst that happened. -/
def marker (report : BatchReport) : Marker :=
  if 0 < report.failed then .error
  else if 0 < report.skipped then .warning
  else .success

/-- The counts in words. -/
def summary (report : BatchReport) : String :=
  "Processed " ++ toString report.files.length ++ " file(s): " ++ toString report.updated ++
    " updated, " ++ toString report.unchanged ++ " unchanged, " ++ toString report.skipped ++
    " skipped, " ++ toString report.failed ++ " failed"

/-- The last line of a report. -/
def summaryLine (report : BatchReport) (style : Style) : String :=
  style.marker report.marker ++ " " ++ style.emphasis report.summary

end BatchReport

end DialogCodemod
