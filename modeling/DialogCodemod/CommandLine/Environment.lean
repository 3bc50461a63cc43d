import DialogCodemod.Log
import DialogCodemod.Report.Style

/-!
# Environment

The settings that the program takes from its surroundings: whether to decorate the output, and
which log records to print.
-/

namespace DialogCodemod

/-- The environment variables the program looks at, where they are set. -/
structure Environment where
  noColor : Option String := none
  cliColor : Option String := none
  cliColorForce : Option String := none
  term : Option String := none
  logLevel : Option String := none
  /-- Whether the output goes to a terminal. -/
  onTerminal : Bool := false
  deriving DecidableEq, Repr

namespace Environment

/-- When output is decorated. The request to force colours wins over those to suppress them. -/
def colorMode (environment : Environment) : ColorMode :=
  if environment.cliColorForce = some "1" then .always
  else if environment.noColor.isSome || environment.cliColor = some "0" then .never
  else .auto

/-- How output is written. Without a request it is decorated on terminals that are not dumb. -/
def style (environment : Environment) : Style :=
  environment.colorMode.style (environment.term ≠ some "dumb" && environment.onTerminal)

/-- Whether a variable is set to something. -/
def isFilled (value : Option String) : Bool :=
  value.any (!String.isEmpty ·)

/-- When the help text is decorated. Other than for status lines, the request to suppress colours
wins over the one to force them, and an empty variable requests nothing. -/
def helpColorMode (environment : Environment) : ColorMode :=
  if isFilled environment.noColor then .never
  else if isFilled environment.cliColorForce then .always
  else if environment.cliColor = some "0" then .never
  else .auto

/-- How the help text is written. Without a request it is decorated on terminals that are known to
show colours. -/
def helpStyle (environment : Environment) : Style :=
  let knownColors := environment.cliColor.isSome || environment.term.any (· != "dumb")
  environment.helpColorMode.style (environment.onTerminal && knownColors)

/-- Which log records are printed: warnings, unless a level was asked for. A level that is not
known admits nothing below errors. -/
def logThreshold (environment : Environment) : LogThreshold :=
  match environment.logLevel with
  | none => .warn
  | some name => (LogThreshold.ofName? name).getD .error

end Environment

end DialogCodemod
