/-!
# Styles of output

Status lines start with a marker. On a terminal that shows colours the markers are coloured symbols
and the summary is bold; everywhere else they are plain words in brackets.
-/

namespace DialogCodemod

/-- How well something went. -/
inductive Marker where
  | success
  | warning
  | error
  deriving DecidableEq, Repr

/-- How output is written. -/
inductive Style where
  | plain
  | decorated
  deriving DecidableEq, Repr

namespace Marker

/-- The marker in plain characters. -/
def word : Marker → String
  | .success => "[OK]"
  | .warning => "[WARN]"
  | .error => "[ERROR]"

/-- The marker as a symbol. -/
def symbol : Marker → String
  | .success => "✅"
  | .warning => "⚠️"
  | .error => "❌"

/-- The terminal code of the marker's colour. -/
def color : Marker → String
  | .success => "\x1b[32m"
  | .warning => "\x1b[33m"
  | .error => "\x1b[31m"

end Marker

namespace Style

/-- The terminal code that starts bold output. -/
def boldCode : String := "\x1b[1m"

/-- The terminal code that starts underlined output. -/
def underlineCode : String := "\x1b[4m"

/-- The terminal code that ends all colours and weights. -/
def resetCode : String := "\x1b[0m"

/-- The marker of a line. -/
def marker : Style → Marker → String
  | .plain, marker => marker.word
  | .decorated, marker => marker.color ++ marker.symbol ++ resetCode

/-- A text that stands out. Where the text itself goes back to plain output, bold starts again. -/
def emphasis : Style → String → String
  | .plain, text => text
  | .decorated, text => boldCode ++ text.replace resetCode (resetCode ++ boldCode) ++ resetCode

/-- A heading. -/
def heading : Style → String → String
  | .plain, text => text
  | .decorated, text => boldCode ++ underlineCode ++ text ++ resetCode

end Style

/-- When output is decorated. -/
inductive ColorMode where
  | auto
  | always
  | never
  deriving DecidableEq, Repr

/-- The style of a mode. Without a fixed choice, a terminal that can show colours decides. -/
def ColorMode.style (mode : ColorMode) (colorTerminal : Bool) : Style :=
  match mode with
  | .always => .decorated
  | .never => .plain
  | .auto => if colorTerminal then .decorated else .plain

end DialogCodemod
