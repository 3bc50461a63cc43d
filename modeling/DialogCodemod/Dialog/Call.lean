import DialogCodemod.Dialog.Basic
import DialogCodemod.Text.Literal

/-!
# Dialog calls

The calls that can be replaced pass one string literal and nothing else. A call is kept with its
layout, so that its source can be written back character by character: `Call.source` undoes
`Call.read`.
-/

namespace DialogCodemod

/-- How a dialog is reached, as written. -/
def accessSource (viaWindow : Bool) : Text :=
  if viaWindow then windowAccess else []

/-- The ways to reach a dialog that a reader of calls admits. -/
inductive Access where
  | byName
  | viaWindow
  | either
  deriving DecidableEq, Repr

namespace Access

/-- Read how the dialog is reached. -/
def read : Access → Reader Bool
  | .byName => pure false
  | .viaWindow => do
      Reader.word windowAccess
      pure true
  | .either => do
      let access ← Reader.option (Reader.word windowAccess)
      pure access.isSome

theorem eq_append_of_run_read {access : Access} {input rest : Text} {viaWindow : Bool}
    (success : access.read.run input = some (viaWindow, rest)) :
    input = accessSource viaWindow ++ rest := by
  cases access with
  | byName =>
      simp only [read, Reader.run_pure_eq_some_iff] at success
      obtain ⟨rfl, rfl⟩ := success
      rfl
  | viaWindow =>
      simp only [read, Reader.run_bind_eq_some_iff, Reader.run_pure_eq_some_iff,
        Reader.run_word_eq_some_iff] at success
      obtain ⟨_, _, rfl, rfl, rfl⟩ := success
      rfl
  | either =>
      simp only [read, Reader.run_bind_eq_some_iff, Reader.run_pure_eq_some_iff] at success
      obtain ⟨found, _, first, rfl, rfl⟩ := success
      cases found with
      | none => exact (Reader.run_option_eq_some_none_iff.1 first).2
      | some =>
          exact Reader.run_word_eq_some_iff.1 (Reader.run_option_eq_some_some_iff.1 first)

end Access

/-- A call of a dialog with one literal. -/
structure Call where
  /-- Whether the dialog is reached through the global object. -/
  viaWindow : Bool
  /-- The blanks before the literal. -/
  lead : Text
  message : Literal
  /-- The blanks after the literal. -/
  trail : Text
  deriving DecidableEq, Repr

namespace Call

/-- The call of the given dialog as written. -/
def source (dialog : Dialog) (call : Call) : Text :=
  accessSource call.viaWindow ++ dialog.opening ++ call.lead ++ call.message.source ++
    call.trail ++ [')']

/-- Read a call of the given dialog. -/
def read (dialog : Dialog) (access : Access) : Reader Call := do
  let viaWindow ← access.read
  Reader.word dialog.opening
  let lead ← Reader.blanks
  let message ← Literal.read
  let trail ← Reader.blanks
  Reader.word [')']
  pure { viaWindow, lead, message, trail }

/-- What was read is what stands at the start of the input. -/
theorem eq_append_of_run_read {dialog : Dialog} {access : Access} {input rest : Text}
    {call : Call} (success : (read dialog access).run input = some (call, rest)) :
    input = call.source dialog ++ rest := by
  simp only [read, Reader.run_bind_eq_some_iff, Reader.run_pure_eq_some_iff,
    Reader.run_word_eq_some_iff, Reader.run_blanks_eq_some_iff, Literal.run_read_eq_some_iff]
    at success
  obtain ⟨viaWindow, _, first, _, _, rfl, lead, _, ⟨rfl, _⟩, message, _, ⟨rfl, _⟩, trail, _,
    ⟨rfl, _⟩, _, _, rfl, rfl, rfl⟩ := success
  simp [Access.eq_append_of_run_read first, source]

end Call

end DialogCodemod
