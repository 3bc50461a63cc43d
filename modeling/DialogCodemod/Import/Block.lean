import DialogCodemod.Import.Clause
import DialogCodemod.Text.Line

/-!
# The leading import block

A source text usually opens with its imports, among blank lines and comments. The leading block
ends with the last import before the first other line. An import may spread over several lines: it
stays open until a line closes it.
-/

namespace DialogCodemod.Import

/-- Whether a line begins an import statement. -/
def startsImport (line : Text) : Bool :=
  match Text.after? "import".toList line with
  | some (next :: _) =>
      isSpace next || next == '\x7b' || next == '*' || (Quote.ofChar? next).isSome
  | _ => false

/-- Whether a line imports a module for its effects alone, without a `from` clause. -/
def isEffectImport (line : Text) : Bool :=
  match (Text.after? "import".toList line).map Text.trimStart with
  | some (next :: _) => (Quote.ofChar? next).isSome
  | _ => false

/-- Whether a line closes an import: it ends in a semicolon or holds a `from` clause. -/
def closesImport (line : Text) : Bool :=
  line.getLast? == some ';' || hasFromClause false line

/-- Whether a line belongs to a comment, as far as its first characters tell. -/
def isComment (line : Text) : Bool :=
  (Text.after? "//".toList line).isSome || (Text.after? "/*".toList line).isSome ||
    line.head? == some '*'

/-- What a line means for the leading block. -/
inductive LineRole where
  /-- An import that closes on its own line. -/
  | closedImport
  /-- An import that a later line closes. -/
  | openImport
  /-- A blank line or a comment. -/
  | quiet
  /-- Anything else: the block has ended before. -/
  | code
  deriving DecidableEq, Repr

/-- The role of a line outside an open import. White space around the line has been dropped. -/
def LineRole.ofLine (line : Text) : LineRole :=
  if startsImport line then
    if closesImport line || isEffectImport line then .closedImport else .openImport
  else if line.isEmpty || isComment line then .quiet
  else .code

/-- Lines before the end of a block belong to it, and none does if no import follows. -/
def extendBlock : Nat → Nat
  | 0 => 0
  | length + 1 => length + 2

/-- The number of lines up to the last import of the block. The flag tells whether an import is
open. -/
def blockLength (importOpen : Bool) : List Text → Nat
  | [] => 0
  | line :: later =>
      if importOpen then
        if closesImport line then blockLength false later + 1
        else extendBlock (blockLength true later)
      else
        match LineRole.ofLine line with
        | .closedImport => blockLength false later + 1
        | .openImport => extendBlock (blockLength true later)
        | .quiet => extendBlock (blockLength false later)
        | .code => 0

/-- The number of lines of the leading import block of a text. -/
def leadingBlock (text : Text) : Nat :=
  blockLength false (text.lines.map Text.trim)

end DialogCodemod.Import
