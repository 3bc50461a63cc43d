import DialogCodemod.Conversion
import DialogCodemod.Proofs.Occurrences

/-!
# Inserting the import

An import is inserted as a line of its own, between lines of the text. The text around it is kept;
at most a line break is added to a text that ends inside a line. Since a line break separates
calls, inserting the import changes nothing about the dialog calls of a text.
-/

namespace DialogCodemod

namespace Text

/-- The first lines of a text are complete, or they are the whole text. -/
theorem splitLines_complete (count : Nat) (text : Text) :
    (text.splitLines count).2 = [] ∨
      CompleteLines (text.splitLines count).1 ∧ (0 < count → (text.splitLines count).1 ≠ []) := by
  fun_induction splitLines count text with
  | case1 => exact .inr ⟨completeLines_nil, by simp⟩
  | case2 => exact .inl rfl
  | case3 count char rest parts newline other =>
      by_cases isNewline : char = '\n'
      · simp only [parts, isNewline, if_true]
        rcases newline with whole | ⟨complete, _⟩
        · exact .inl whole
        · refine .inr ⟨?_, by simp⟩
          cases head : (splitLines count rest).1 with
          | nil => simp [CompleteLines]
          | cons first more =>
              rw [head] at complete
              exact complete
      · simp only [parts, isNewline, if_false]
        rcases other with whole | ⟨complete, nonempty⟩
        · exact .inl whole
        · refine .inr ⟨?_, by simp⟩
          cases head : (splitLines (count + 1) rest).1 with
          | nil => exact absurd head (nonempty (Nat.succ_pos count))
          | cons first more =>
              rw [head] at complete
              exact complete

end Text

namespace Import

/-- The inserted statement is a line of its own. The text around it is the given one; only behind a
text that ends inside a line a line break is added. -/
theorem exists_insertLine_eq (text : Text) (line : Nat) (statement : Text) :
    ∃ before after,
      insertLine text line statement =
        before ++ (statement ++ ((LineEnding.ofText text).text ++ after)) ∧
      CompleteLines before ∧
      (text = before ++ after ∨
        before = text ++ (LineEnding.ofText text).text ∧ after = []) := by
  have whole := Text.splitLines_append line text
  rw [insertLine]
  simp only
  split
  next complete =>
    refine ⟨(text.splitLines line).1, (text.splitLines line).2, by simp, ?_, .inl whole.symm⟩
    rw [Bool.or_eq_true, List.isEmpty_iff, beq_iff_eq] at complete
    intro last member
    rcases complete with empty | newline
    · rw [empty] at member
      cases member
    · rw [newline] at member
      exact (Option.some.inj member).symm
  next incomplete =>
    rcases Text.splitLines_complete line text with last | ⟨complete, _⟩
    · rw [last, List.append_nil] at whole
      refine ⟨text ++ (LineEnding.ofText text).text, [], by simp [whole, last],
        completeLines_append_ending _ _, .inr ⟨rfl, rfl⟩⟩
    · exfalso
      apply incomplete
      rw [Bool.or_eq_true, List.isEmpty_iff, beq_iff_eq]
      cases found : (text.splitLines line).1.getLast? with
      | none => exact .inl (List.getLast?_eq_none_iff.1 found)
      | some last => exact .inr (congrArg some (complete last found))

/-- Inserting a line that does not call a dialog keeps the number of its calls. -/
theorem dialogCallCount_insertLine (dialog : Dialog) (text : Text) (line : Nat) {statement : Text}
    (quiet : dialog.callCount statement = 0) :
    dialog.callCount (insertLine text line statement) = dialog.callCount text := by
  obtain ⟨before, after, split, complete, origin⟩ := exists_insertLine_eq text line statement
  rw [split, dialog.callCount_append complete.endsAtBoundary, dialog.callCount_append_ending, quiet]
  rcases origin with whole | ⟨rfl, rfl⟩
  · rw [whole, dialog.callCount_append complete.endsAtBoundary]
    omega
  · have ended := dialog.callCount_append_ending (LineEnding.ofText text) text []
    have empty : dialog.callCount [] = 0 := dialog.callCount_eq_countP []
    rw [List.append_nil] at ended
    rw [ended, empty]
    omega

theorem dialogCallCount_place (dialog : Dialog) (text : Text) (placement : Option Nat) :
    dialog.callCount (place {} text placement) = dialog.callCount text := by
  cases placement with
  | none => rfl
  | some line =>
      apply dialogCallCount_insertLine
      cases dialog <;> decide

theorem callCount_place (text : Text) (placement : Option Nat) :
    callCount (place {} text placement) = callCount text := by
  simp only [callCount, dialogCallCount_place]

end Import

/-! ## Conversions -/

theorem convert?_eq_some_iff {notifier : Notifier} {text : Text} {conversion : Conversion} :
    convert? notifier text = some conversion ↔
      (Detection.ofText text).any = true ∧ conversion.detection = Detection.ofText text ∧
      conversion.importLine = Import.placement? notifier text ∧
      conversion.imported = Import.place notifier text (Import.placement? notifier text) ∧
      conversion.steps = Rule.steps notifier Rule.all conversion.imported := by
  obtain ⟨detection, importLine, imported, steps⟩ := conversion
  simp only [convert?, Option.ite_none_right_eq_some, Option.some.injEq, Conversion.mk.injEq]
  constructor
  · rintro ⟨detected, rfl, rfl, rfl, rfl⟩
    exact ⟨detected, rfl, rfl, rfl, rfl⟩
  · rintro ⟨detected, rfl, rfl, rfl, rfl⟩
    exact ⟨detected, rfl, rfl, rfl, rfl⟩

/-- A text is converted exactly when it calls a dialog. -/
theorem convert?_eq_none_iff {notifier : Notifier} {text : Text} :
    convert? notifier text = none ↔ callCount text = 0 := by
  have detected := @Detection.any_ofText_eq_true_iff text
  rw [convert?]
  simp only
  split
  next any => simp [Nat.ne_of_gt (detected.1 any)]
  next none => simpa using fun positive => none (detected.2 (Nat.pos_of_ne_zero positive))

namespace Conversion

variable {notifier : Notifier} {text : Text} {conversion : Conversion}

theorem imported_eq_place (converted : convert? notifier text = some conversion) :
    conversion.imported = Import.place notifier text (Import.placement? notifier text) :=
  (convert?_eq_some_iff.1 converted).2.2.2.1

theorem text_eq_applyAll (converted : convert? notifier text = some conversion) :
    conversion.text = Rule.applyAll notifier Rule.all conversion.imported := by
  rw [Conversion.text, (convert?_eq_some_iff.1 converted).2.2.2.2, Rule.foldl_text_steps]

theorem replacementCount_eq (converted : convert? notifier text = some conversion) :
    conversion.replacementCount =
      Rule.Step.total (Rule.steps notifier Rule.all conversion.imported) := by
  rw [replacementCount, (convert?_eq_some_iff.1 converted).2.2.2.2]

end Conversion

/-- Each replacement is one call less. -/
theorem Rule.callCount_applyAll (rules : List Rule) (text : Text) :
    callCount (applyAll {} rules text) + Step.total (steps {} rules text) = callCount text := by
  induction rules generalizing text with
  | nil => rfl
  | cons rule later ih =>
      have step := callCount_rewrite rule (LineEnding.ofText text) text
      have rest := ih (rule.apply {} text)
      rw [steps, Step.total]
      rw [← apply_eq_rewrite] at step
      simp only [applyAll, List.foldl_cons] at rest ⊢
      omega

/-- A conversion takes away as many calls as it replaces, and adds none. -/
theorem Conversion.callCount_text {text : Text} {conversion : Conversion}
    (converted : convert? {} text = some conversion) :
    callCount conversion.text + conversion.replacementCount = callCount text := by
  rw [text_eq_applyAll converted, replacementCount_eq converted, Rule.callCount_applyAll,
    imported_eq_place converted, Import.callCount_place]

end DialogCodemod
