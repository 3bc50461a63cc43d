import DialogCodemod.Text.Word

/-!
# Blocking dialogs

JavaScript offers two dialogs that block the page while they are open: `alert` tells the user
something and `confirm` asks. This module says where a call of one of them may begin in a source
text, and finds out whether a text calls them at all.
-/

namespace DialogCodemod

/-- The blocking dialogs. -/
inductive Dialog where
  | alert
  | confirm
  deriving DecidableEq, Repr

/-- The access by which a dialog may be reached as a property of the global object. -/
def windowAccess : Text := "window.".toList

/-- A character after which an expression or a statement may begin. Word characters and the dollar
sign would extend a name, and a dot would make it a property of something else. -/
def isBoundary (char : Char) : Bool :=
  !(isWord char || char == '$' || char == '.')

namespace Dialog

/-- How a call of the dialog opens: its name and the parenthesis. -/
def opening : Dialog → Text
  | .alert => "alert(".toList
  | .confirm => "confirm(".toList

/-- Whether the text starts with a call of the dialog, reached by its name or through the global
object. -/
def opensAt (dialog : Dialog) (text : Text) : Bool :=
  (Text.after? dialog.opening text).isSome ||
    (Text.after? (windowAccess ++ dialog.opening) text).isSome

/-- Whether a call of the dialog opens after some boundary character of the text. -/
def opensAfterBoundary (dialog : Dialog) : Text → Bool
  | [] => false
  | char :: rest => isBoundary char && dialog.opensAt rest || dialog.opensAfterBoundary rest

/-- Whether a text calls the dialog: the call opens at its start or after a boundary. -/
def occursIn (dialog : Dialog) (text : Text) : Bool :=
  dialog.opensAt text || dialog.opensAfterBoundary text

end Dialog

/-- Which dialogs a text calls. -/
structure Detection where
  alert : Bool
  confirm : Bool
  deriving DecidableEq, Repr

namespace Detection

/-- Look for calls of both dialogs. -/
def ofText (text : Text) : Detection where
  alert := Dialog.alert.occursIn text
  confirm := Dialog.confirm.occursIn text

/-- Whether there is any call. -/
def any (detection : Detection) : Bool :=
  detection.alert || detection.confirm

end Detection

end DialogCodemod
