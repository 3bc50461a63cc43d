import DialogCodemod.Dialog.Call

/-!
# Statements with a dialog call

Three shapes of code around a dialog call are understood: the call on its own, a guard that returns
unless the user confirms, and a binding of the user's answer to a name. Each is read with its
layout, and `Statement.source` writes it back.
-/

namespace DialogCodemod

/-- A guard `if (!confirm('…')) return;`, by itself or as the `else` branch of another
conditional. The fields named for a gap hold the blanks at that place. -/
structure Guard where
  /-- The blanks between `else` and `if`, when the guard is an `else` branch. -/
  elseGap : Option Text
  ifGap : Text
  openGap : Text
  notGap : Text
  call : Call
  callGap : Text
  closeGap : Text
  returnGap : Text
  deriving DecidableEq, Repr

namespace Guard

/-- The `else` branch opening as written. -/
def elseSource : Option Text → Text
  | none => []
  | some gap => "else".toList ++ gap

/-- The guard as written. -/
def source (guard : Guard) : Text :=
  elseSource guard.elseGap ++ "if".toList ++ guard.ifGap ++ ['('] ++ guard.openGap ++ ['!'] ++
    guard.notGap ++ guard.call.source .confirm ++ guard.callGap ++ [')'] ++ guard.closeGap ++
    "return".toList ++ guard.returnGap ++ [';']

/-- Read `else` with the blanks after it. -/
def readElse : Reader Text := do
  Reader.word "else".toList
  Reader.someBlanks

/-- Read a guard. -/
def read : Reader Guard := do
  let elseGap ← Reader.option readElse
  Reader.word "if".toList
  let ifGap ← Reader.blanks
  Reader.word ['(']
  let openGap ← Reader.blanks
  Reader.word ['!']
  let notGap ← Reader.blanks
  let call ← Call.read .confirm .either
  let callGap ← Reader.blanks
  Reader.word [')']
  let closeGap ← Reader.blanks
  Reader.word "return".toList
  let returnGap ← Reader.blanks
  Reader.word [';']
  pure { elseGap, ifGap, openGap, notGap, call, callGap, closeGap, returnGap }

theorem eq_append_of_run_option_readElse {input rest : Text} {elseGap : Option Text}
    (success : (Reader.option readElse).run input = some (elseGap, rest)) :
    input = elseSource elseGap ++ rest := by
  cases elseGap with
  | none => exact (Reader.run_option_eq_some_none_iff.1 success).2
  | some gap =>
      have found := Reader.run_option_eq_some_some_iff.1 success
      simp only [readElse, Reader.run_bind_eq_some_iff, Reader.run_word_eq_some_iff,
        Reader.run_someBlanks_eq_some_iff] at found
      obtain ⟨_, _, rfl, rfl, _⟩ := found
      simp [elseSource]

/-- What was read is what stands at the start of the input. -/
theorem eq_append_of_run_read {input rest : Text} {guard : Guard}
    (success : read.run input = some (guard, rest)) : input = guard.source ++ rest := by
  obtain ⟨elseGap, _, opening, success⟩ := Reader.run_bind_eq_some_iff.1 success
  obtain ⟨_, _, ifWord, success⟩ := Reader.run_bind_eq_some_iff.1 success
  obtain ⟨ifGap, _, ifBlanks, success⟩ := Reader.run_bind_eq_some_iff.1 success
  obtain ⟨_, _, openWord, success⟩ := Reader.run_bind_eq_some_iff.1 success
  obtain ⟨openGap, _, openBlanks, success⟩ := Reader.run_bind_eq_some_iff.1 success
  obtain ⟨_, _, notWord, success⟩ := Reader.run_bind_eq_some_iff.1 success
  obtain ⟨notGap, _, notBlanks, success⟩ := Reader.run_bind_eq_some_iff.1 success
  obtain ⟨call, _, confirmed, success⟩ := Reader.run_bind_eq_some_iff.1 success
  obtain ⟨callGap, _, callBlanks, success⟩ := Reader.run_bind_eq_some_iff.1 success
  obtain ⟨_, _, closeWord, success⟩ := Reader.run_bind_eq_some_iff.1 success
  obtain ⟨closeGap, _, closeBlanks, success⟩ := Reader.run_bind_eq_some_iff.1 success
  obtain ⟨_, _, returnWord, success⟩ := Reader.run_bind_eq_some_iff.1 success
  obtain ⟨returnGap, _, returnBlanks, success⟩ := Reader.run_bind_eq_some_iff.1 success
  obtain ⟨_, _, endWord, success⟩ := Reader.run_bind_eq_some_iff.1 success
  obtain ⟨rfl, rfl⟩ := Reader.run_pure_eq_some_iff.1 success
  rw [eq_append_of_run_option_readElse opening, Reader.run_word_eq_some_iff.1 ifWord,
    (Reader.run_blanks_eq_some_iff.1 ifBlanks).1, Reader.run_word_eq_some_iff.1 openWord,
    (Reader.run_blanks_eq_some_iff.1 openBlanks).1, Reader.run_word_eq_some_iff.1 notWord,
    (Reader.run_blanks_eq_some_iff.1 notBlanks).1, Call.eq_append_of_run_read confirmed,
    (Reader.run_blanks_eq_some_iff.1 callBlanks).1, Reader.run_word_eq_some_iff.1 closeWord,
    (Reader.run_blanks_eq_some_iff.1 closeBlanks).1, Reader.run_word_eq_some_iff.1 returnWord,
    (Reader.run_blanks_eq_some_iff.1 returnBlanks).1, Reader.run_word_eq_some_iff.1 endWord]
  simp only [source, List.append_assoc]

end Guard

/-- The keywords that bind a name. -/
inductive BindingKeyword where
  | constant
  | scoped
  | variable
  deriving DecidableEq, Repr

namespace BindingKeyword

/-- The keyword as written. -/
def source : BindingKeyword → Text
  | .constant => "const".toList
  | .scoped => "let".toList
  | .variable => "var".toList

/-- Every keyword. -/
def all : List BindingKeyword := [.constant, .scoped, .variable]

/-- Read one of the keywords. -/
def read : Reader BindingKeyword :=
  fun input => all.findSome? fun keyword =>
    (Text.after? keyword.source input).map fun rest => (keyword, rest)

theorem eq_append_of_run_read {input rest : Text} {keyword : BindingKeyword}
    (success : read.run input = some (keyword, rest)) : input = keyword.source ++ rest := by
  simp only [read, StateT.run] at success
  obtain ⟨found, _, here⟩ := List.exists_of_findSome?_eq_some success
  obtain ⟨later, after, same⟩ := Option.map_eq_some_iff.1 here
  simp only [Prod.mk.injEq] at same
  obtain ⟨rfl, rfl⟩ := same
  exact Text.after?_eq_some_iff.1 after

end BindingKeyword

/-- A character that may start a name: an ASCII letter, the underscore or the dollar sign. -/
def startsName (char : Char) : Bool :=
  char.isAlpha || char == '_' || char == '$'

/-- A character that may continue a name. -/
def continuesName (char : Char) : Bool :=
  isWord char || char == '$'

/-- A binding `const ok = confirm('…')` of the user's answer. The fields named for a gap hold the
blanks at that place. -/
structure Binding where
  keyword : BindingKeyword
  keywordGap : Text
  nameStart : Char
  nameRest : Text
  nameGap : Text
  equalsGap : Text
  call : Call
  deriving DecidableEq, Repr

namespace Binding

/-- The name that is bound. -/
def name (binding : Binding) : Text :=
  binding.nameStart :: binding.nameRest

/-- The binding as written. -/
def source (binding : Binding) : Text :=
  binding.keyword.source ++ binding.keywordGap ++ binding.name ++ binding.nameGap ++ ['='] ++
    binding.equalsGap ++ binding.call.source .confirm

/-- Read a binding. -/
def read : Reader Binding := do
  let keyword ← BindingKeyword.read
  let keywordGap ← Reader.someBlanks
  let nameStart ← Reader.char startsName
  let nameRest ← Reader.stretch continuesName
  let nameGap ← Reader.blanks
  Reader.word ['=']
  let equalsGap ← Reader.blanks
  let call ← Call.read .confirm .either
  pure { keyword, keywordGap, nameStart, nameRest, nameGap, equalsGap, call }

/-- What was read is what stands at the start of the input. -/
theorem eq_append_of_run_read {input rest : Text} {binding : Binding}
    (success : read.run input = some (binding, rest)) : input = binding.source ++ rest := by
  obtain ⟨keyword, _, opening, success⟩ := Reader.run_bind_eq_some_iff.1 success
  obtain ⟨keywordGap, _, keywordBlanks, success⟩ := Reader.run_bind_eq_some_iff.1 success
  obtain ⟨nameStart, _, nameFirst, success⟩ := Reader.run_bind_eq_some_iff.1 success
  obtain ⟨nameRest, _, nameMore, success⟩ := Reader.run_bind_eq_some_iff.1 success
  obtain ⟨nameGap, _, nameBlanks, success⟩ := Reader.run_bind_eq_some_iff.1 success
  obtain ⟨_, _, equalsWord, success⟩ := Reader.run_bind_eq_some_iff.1 success
  obtain ⟨equalsGap, _, equalsBlanks, success⟩ := Reader.run_bind_eq_some_iff.1 success
  obtain ⟨call, _, confirmed, success⟩ := Reader.run_bind_eq_some_iff.1 success
  obtain ⟨rfl, rfl⟩ := Reader.run_pure_eq_some_iff.1 success
  rw [BindingKeyword.eq_append_of_run_read opening,
    (Reader.run_someBlanks_eq_some_iff.1 keywordBlanks).1,
    (Reader.run_char_eq_some_iff.1 nameFirst).1, (Reader.run_stretch_eq_some_iff.1 nameMore).1,
    (Reader.run_blanks_eq_some_iff.1 nameBlanks).1, Reader.run_word_eq_some_iff.1 equalsWord,
    (Reader.run_blanks_eq_some_iff.1 equalsBlanks).1, Call.eq_append_of_run_read confirmed]
  simp only [source, name, List.append_assoc, List.cons_append]

end Binding

/-- The code around a dialog call that is replaced as one piece. -/
inductive Statement where
  | alert (written : Call)
  | guard (written : Guard)
  | binding (written : Binding)
  deriving DecidableEq, Repr

namespace Statement

/-- The statement as written. -/
def source : Statement → Text
  | .alert written => written.source .alert
  | .guard written => written.source
  | .binding written => written.source

theorem source_ne_nil (statement : Statement) : statement.source ≠ [] := by
  cases statement <;> simp [source, Call.source, Guard.source, Binding.source]

end Statement

end DialogCodemod
