import DialogCodemod.Report.ControlSequence

/-!
# Log records

What the program has to say about its own work, as data. Nothing is written while a text is
converted; the records travel with the results, and the command line chooses which ones to print.
-/

namespace DialogCodemod

/-- How important a record is. -/
inductive LogLevel where
  | debug
  | info
  | warn
  deriving DecidableEq, Repr

/-- The part of the program a record comes from. -/
inductive LogOrigin where
  | imports
  | rules
  | files
  deriving DecidableEq, Repr

/-- A line of the log. -/
structure LogRecord where
  level : LogLevel
  origin : LogOrigin
  message : String
  deriving DecidableEq, Repr

namespace LogLevel

/-- The level as printed. -/
def name : LogLevel → String
  | .debug => "DEBUG"
  | .info => "INFO"
  | .warn => "WARN"

/-- The level as printed, filled up to the width of the longest one. -/
def padded (level : LogLevel) : String :=
  level.name.pushn ' ' (5 - level.name.length)

/-- The place in the order of importance, counted from the least important threshold. -/
def rank : LogLevel → Nat
  | .debug => 1
  | .info => 2
  | .warn => 3

end LogLevel

namespace LogOrigin

/-- The origin as printed. -/
def name : LogOrigin → String
  | .imports => "notify_migrate::migration::imports"
  | .rules => "notify_migrate::migration::rewrite"
  | .files => "notify_migrate::commands::migrate"

end LogOrigin

/-- From which level on records are printed. -/
inductive LogThreshold where
  | trace
  | debug
  | info
  | warn
  | error
  | off
  deriving DecidableEq, Repr

namespace LogThreshold

/-- The place in the order of importance. -/
def rank : LogThreshold → Nat
  | .trace => 0
  | .debug => 1
  | .info => 2
  | .warn => 3
  | .error => 4
  | .off => 5

/-- The threshold with the given name, in whatever case its letters are. -/
def ofName? (name : String) : Option LogThreshold :=
  match name.map Char.toLower with
  | "trace" => some .trace
  | "debug" => some .debug
  | "info" => some .info
  | "warn" => some .warn
  | "error" => some .error
  | "off" => some .off
  | _ => none

/-- Whether records of a level are printed. -/
def admits (threshold : LogThreshold) (level : LogLevel) : Bool :=
  threshold.rank ≤ level.rank

end LogThreshold

namespace LogRecord

/-- The record as written. The later lines of a message are indented. -/
def line (record : LogRecord) : String :=
  "[" ++ record.level.padded ++ " " ++ record.origin.name ++ "] " ++
    record.message.replace "\n" "\n    " ++ "\n"

/-- The record as printed: without control sequences. One that is not finished may take the end of
the line with it. -/
def printed (record : LogRecord) : String :=
  String.ofList (Text.withoutControls .resumes record.line.toList)

end LogRecord

end DialogCodemod
