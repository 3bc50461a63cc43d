import DialogCodemod.Text.Space

/-!
# Lines

A newline ends a line, and a carriage return before it belongs to the line ending. This module cuts
texts into lines, finds the line ending a text uses, and finds the indentation of a position.
-/

namespace DialogCodemod

/-- The two ways to end a line. -/
inductive LineEnding where
  | newline
  | carriageReturnNewline
  deriving DecidableEq, Repr

namespace LineEnding

/-- The characters of a line ending. -/
def text : LineEnding → Text
  | .newline => ['\n']
  | .carriageReturnNewline => ['\r', '\n']

/-- The line ending of a text is the one its first line has. A text of one line has newlines. -/
def ofText : Text → LineEnding
  | [] => .newline
  | '\r' :: '\n' :: _ => .carriageReturnNewline
  | char :: rest => if char = '\n' then .newline else ofText rest

end LineEnding

namespace Text

/-- The lines of a text without the newlines that end them. After a final newline no line
follows. -/
def lines : Text → List Text
  | [] => []
  | char :: rest =>
      if char = '\n' then [] :: lines rest
      else
        match lines rest with
        | [] => [[char]]
        | line :: later => (char :: line) :: later

/-- Cut a text after its first `count` lines, newlines included. -/
def splitLines : (count : Nat) → Text → Text × Text
  | 0, text => ([], text)
  | _ + 1, [] => ([], [])
  | count + 1, char :: rest =>
      let parts := if char = '\n' then splitLines count rest else splitLines (count + 1) rest
      (char :: parts.1, parts.2)

/-- Cutting loses nothing. -/
@[simp] theorem splitLines_append (count : Nat) (text : Text) :
    (text.splitLines count).1 ++ (text.splitLines count).2 = text := by
  fun_induction splitLines count text with
  | case1 => rfl
  | case2 => rfl
  | case3 count char rest parts newline other =>
      by_cases isNewline : char = '\n'
      · simpa [parts, isNewline] using newline
      · simpa [parts, isNewline] using other

/-- The number of newlines in a text. -/
def newlineCount (text : Text) : Nat :=
  text.count '\n'

/-- The blanks that start the line on which a position stands. The text before the position is
given in reverse, nearest character first. -/
def indentation (before : Text) : Text :=
  (before.takeWhile (· != '\n')).reverse.takeWhile isBlank

end Text

end DialogCodemod
