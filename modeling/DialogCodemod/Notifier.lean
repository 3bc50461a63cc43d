import DialogCodemod.Text.Basic

/-!
# Notifiers

A notifier is the object that shows notifications without blocking the page. Converted code calls
it in place of the dialogs, and must import it first.
-/

namespace DialogCodemod

/-- The notifier that converted code calls. -/
structure Notifier where
  /-- The name of the object. -/
  name : Text := "notificationManager".toList
  /-- The module it is imported from. -/
  modulePath : Text := "../../utils/notification".toList
  /-- The severity with which an alert is shown. -/
  severity : Text := "info".toList
  /-- The framework module whose import shows where imports belong. -/
  framework : Text := "react".toList
  deriving DecidableEq, Repr

namespace Notifier

/-- The statement that imports the notifier. -/
def importStatement (notifier : Notifier) : Text :=
  "import ".toList ++ notifier.name ++ " from '".toList ++ notifier.modulePath ++ "';".toList

end Notifier

end DialogCodemod
