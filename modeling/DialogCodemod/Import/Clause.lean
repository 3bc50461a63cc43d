import DialogCodemod.Text.Literal
import DialogCodemod.Text.Space
import DialogCodemod.Text.Word

/-!
# Import clauses

An import statement names its module in a `from` clause: the word `from` and a quoted module name.
This module finds such clauses. The word must stand by itself on the left; white space and line
breaks may follow it. The two quotes around a module name need not agree.
-/

namespace DialogCodemod.Import

/-- Read `from` up to the quote that opens the module name. -/
def fromOpening : Reader Unit := do
  Reader.word "from".toList
  let _ ← Reader.stretch isSpace
  let _ ← Quote.read

/-- Read a `from` clause that names the given module. -/
def fromModule (module : Text) : Reader Unit := do
  fromOpening
  Reader.word module
  let _ ← Quote.read

/-- Whether a `from` clause begins in the text. The flag tells whether a word character stands
before the text. -/
def hasFromClause (afterWord : Bool) : Text → Bool
  | [] => false
  | char :: rest =>
      !afterWord && (fromOpening.run (char :: rest)).isSome || hasFromClause (isWord char) rest

/-- What follows the first `from` clause that names the module, if no semicolon stands before the
clause. The flag tells whether a word character stands before the text. -/
def afterClause? (module : Text) (afterWord : Bool) : Text → Option Text
  | [] => none
  | char :: rest =>
      match if afterWord then none else (fromModule module).run (char :: rest) with
      | some (_, after) => some after
      | none => if char = ';' then none else afterClause? module (isWord char) rest

/-- What follows an import of the module, if the text starts with one. Blanks may stand before the
word `import`, which must stand by itself on the right. -/
def afterImport? (module : Text) (text : Text) : Option Text :=
  match Text.after? "import".toList (text.dropWhile isBlank) with
  | some (next :: rest) => if isWord next then none else afterClause? module true (next :: rest)
  | _ => none

/-- What follows the first import of the module that begins a line. The flag tells whether a line
begins here. -/
def afterFirstImport? (module : Text) (atLineStart : Bool) : Text → Option Text
  | [] => none
  | char :: rest =>
      match if atLineStart then afterImport? module (char :: rest) else none with
      | some after => some after
      | none => afterFirstImport? module (char == '\n') rest

end DialogCodemod.Import
