import DialogCodemod.Text.Basic

/-!
# Control sequences

A text may hold sequences that a terminal obeys instead of showing: they set colours, move the
cursor or name the window. Where output does not go to a terminal they are left out, with all other
characters that have no shape. White space stays.

A sequence begins with the escape character. The states of `ControlState` are the ways in which a
sequence can go on. `Text.withoutControls` is the text without sequences.
-/

namespace DialogCodemod

/-- Whether a character is white space among the ASCII control characters. -/
def isLayoutControl (char : Char) : Bool :=
  char == '\t' || char == '\n' || char == '\x0c' || char == '\r'

/-- Whether a character outside of control sequences is shown. -/
def isShown (char : Char) : Bool :=
  isLayoutControl char || (0x20 ≤ char.toNat && char.toNat != 0x7F)

/-- How far a control sequence has been read. -/
inductive ControlState where
  /-- No sequence has begun. -/
  | outside
  /-- After the escape character. -/
  | escape
  /-- In a short sequence, after its first marks. -/
  | escapeMarks
  /-- In a sequence with parameters, such as a colour. -/
  | parameters
  /-- In a command to the system around the terminal, such as a window title. -/
  | systemCommand
  /-- At the start of a string for the device. -/
  | deviceStart
  /-- In the parameters before a string for the device. -/
  | deviceParameters
  /-- In the marks before a string for the device. -/
  | deviceMarks
  /-- In a string that ends with its terminator. -/
  | controlString
  deriving DecidableEq, Repr

namespace ControlState

/-- Whether a character is shown in a state. A sequence that is not a string is interrupted by
white space. -/
def shows : ControlState → Char → Bool
  | .outside, char => isShown char
  | .escape, char | .escapeMarks, char | .parameters, char => isLayoutControl char
  | _, _ => false

/-- The state after the character that decides what kind of sequence follows an escape. -/
def afterEscape (code : Nat) : ControlState :=
  if code < 0x20 || 0x7F ≤ code then .escape
  else if code < 0x30 then .escapeMarks
  else if code = 0x5B then .parameters
  else if code = 0x5D then .systemCommand
  else if code = 0x50 then .deviceStart
  else if code = 0x58 || code = 0x5E || code = 0x5F then .controlString
  else .outside

/-- Whether the encoding of a character has the byte that ends a string. -/
def endsString (char : Char) : Bool :=
  (String.singleton char).toUTF8.toList.contains 0x9C

/-- The state after a character that is not shown. -/
def next (state : ControlState) (char : Char) : ControlState :=
  let code := char.toNat
  if code = 0x1B then .escape
  else if code = 0x18 || code = 0x1A then .outside
  else
    match state with
    | .outside => .outside
    | .escape => afterEscape code
    | .escapeMarks => if 0x30 ≤ code && code < 0x7F then .outside else .escapeMarks
    | .parameters => if 0x40 ≤ code && code < 0x7F then .outside else .parameters
    | .systemCommand => if code = 0x07 then .outside else .systemCommand
    | .deviceStart =>
        if code < 0x20 || 0x7F ≤ code then .deviceStart
        else if code < 0x30 then .deviceMarks
        else if code < 0x40 then .deviceParameters
        else .controlString
    | .deviceParameters =>
        if code < 0x20 || 0x7F ≤ code then .deviceParameters
        else if code < 0x30 then .deviceMarks
        else if code < 0x3C then .deviceParameters
        else .controlString
    | .deviceMarks =>
        if code < 0x30 || 0x7F ≤ code then .deviceMarks else .controlString
    | .controlString => if endsString char then .outside else .controlString

end ControlState

/-- What becomes of a sequence that white space interrupts. -/
inductive Interruption where
  /-- The sequence is over. -/
  | ends
  /-- The sequence goes on at the next character that is not shown. -/
  | resumes
  deriving DecidableEq, Repr

/-- The state after a shown character. A character beyond ASCII ends what was interrupted. -/
def Interruption.after (interruption : Interruption) (state : ControlState) (char : Char) :
    ControlState :=
  match interruption with
  | .ends => .outside
  | .resumes => if char.toNat < 0x80 then state else .outside

namespace Text

/-- The rest of a text without control sequences. The flag tells whether the character before was
shown: then all that can be shown is shown, whatever was interrupted. -/
def shownFrom (interruption : Interruption) :
    (state : ControlState) → (showing : Bool) → Text → Text
  | _, _, [] => []
  | state, showing, char :: rest =>
      if showing && isShown char || state.shows char then
        char :: shownFrom interruption (interruption.after state char) true rest
      else shownFrom interruption (state.next char) false rest

/-- A text without control sequences. -/
def withoutControls (interruption : Interruption) (text : Text) : Text :=
  shownFrom interruption .outside false text

end Text

end DialogCodemod
