import DialogCodemod.Proofs.Rerun

/-!
# Dialogs that are not detected

Detection looks at the text once, before the import is added and before any rule is applied. What
it does not find, no rule replaces later: neither the import nor a replacement opens a call, and
each rule takes away the calls of its own dialog only. So the calls of each dialog that are left in
a converted text and the statements that were replaced add up to the calls that were detected.
-/

namespace DialogCodemod

theorem Dialog.occursIn_eq_false_iff {dialog : Dialog} {text : Text} :
    dialog.occursIn text = false ↔ dialog.callCount text = 0 := by
  rw [← Bool.not_eq_true, occursIn_eq_true_iff, Nat.not_lt, Nat.le_zero]

namespace Rule

/-- Where no rule has a site, no step counts one. -/
theorem map_steps_of_siteCount_eq_zero {notifier : Notifier} {rules : List Rule} {text : Text}
    (clear : ∀ rule ∈ rules, rule.siteCount text = 0) :
    (steps notifier rules text).map (fun step => (step.rule, step.count)) =
      rules.map (fun rule => (rule, 0)) := by
  induction rules with
  | nil => rfl
  | cons rule rules ih =>
      rw [List.forall_mem_cons] at clear
      rw [steps, apply_of_siteCount_eq_zero clear.1, List.map_cons, List.map_cons, ih clear.2,
        clear.1]

end Rule

namespace Dialog

/-- The number of statements with a call of the dialog that steps replaced. -/
def replaced (dialog : Dialog) : List Rule.Step → Nat
  | [] => 0
  | step :: later =>
      (if step.rule.dialog = dialog then step.count else 0) + dialog.replaced later

/-- The calls of a dialog that rules leave and those they replace are the calls of the text. -/
theorem callCount_applyAll (dialog : Dialog) (rules : List Rule) (text : Text) :
    dialog.callCount (Rule.applyAll {} rules text) + dialog.replaced (Rule.steps {} rules text) =
      dialog.callCount text := by
  induction rules generalizing text with
  | nil => rfl
  | cons rule rules ih =>
      have step := dialog.callCount_rewrite rule (LineEnding.ofText text) text
      have rest := ih (rule.apply {} text)
      rw [← Rule.apply_eq_rewrite] at step
      rw [Rule.steps, replaced, ← step, ← rest]
      simp only [Rule.applyAll, List.foldl_cons]
      omega

/-- A conversion replaces no more statements with a call of a dialog than the text has calls. -/
theorem callCount_text (dialog : Dialog) {text : Text} {conversion : Conversion}
    (converted : convert? {} text = some conversion) :
    dialog.callCount conversion.text + dialog.replaced conversion.steps =
      dialog.callCount text := by
  have steps := (convert?_eq_some_iff.1 converted).2.2.2.2
  rw [Conversion.text_eq_applyAll converted, steps, callCount_applyAll,
    Conversion.imported_eq_place converted, Import.dialogCallCount_place]

end Dialog

/-- The counts of the four steps, two for each dialog. -/
theorem Rule.exists_counts (notifier : Notifier) (text : Text) :
    ∃ bareAlerts windowAlerts guards assignments,
      (steps notifier all text).map (fun step => (step.rule, step.count)) =
        [(.bareAlert, bareAlerts), (.windowAlert, windowAlerts), (.confirmGuard, guards),
          (.confirmAssignment, assignments)] ∧
      Dialog.alert.replaced (steps notifier all text) = bareAlerts + windowAlerts ∧
      Dialog.confirm.replaced (steps notifier all text) = guards + assignments := by
  refine ⟨_, _, _, _, rfl, ?_, ?_⟩
  · simp [all, steps, Dialog.replaced, dialog]
  · simp [all, steps, Dialog.replaced, dialog]

/-- What detection does not find is not replaced. If it finds nothing, the rules leave the text as
it is, for whatever notifier; and a conversion that finds only one of the dialogs replaces no
statement with a call of the other. -/
theorem undetected_dialogs_not_replaced :
    (∀ (notifier : Notifier) (text : Text), (Detection.ofText text).any = false →
      Rule.applyAll notifier Rule.all text = text ∧
      (Rule.steps notifier Rule.all text).map (fun step => (step.rule, step.count)) =
        [(.bareAlert, 0), (.windowAlert, 0), (.confirmGuard, 0), (.confirmAssignment, 0)]) ∧
    (∀ (text : Text) (conversion : Conversion), convert? {} text = some conversion →
      ∃ bareAlerts windowAlerts guards assignments,
        conversion.steps.map (fun step => (step.rule, step.count)) =
          [(.bareAlert, bareAlerts), (.windowAlert, windowAlerts), (.confirmGuard, guards),
            (.confirmAssignment, assignments)] ∧
        (conversion.detection.alert = false → bareAlerts = 0 ∧ windowAlerts = 0) ∧
        (conversion.detection.confirm = false → guards = 0 ∧ assignments = 0)) := by
  constructor
  · intro notifier text undetected
    have quiet := Detection.any_ofText_eq_false_iff.1 undetected
    have clear : ∀ rule ∈ Rule.all, rule.siteCount text = 0 := by
      intro rule _
      exact Rule.siteCount_eq_zero_of_callCount_eq_zero quiet rule
    exact ⟨Rule.applyAll_of_siteCount_eq_zero clear, Rule.map_steps_of_siteCount_eq_zero clear⟩
  · intro text conversion converted
    obtain ⟨_, detection, _, _, steps⟩ := convert?_eq_some_iff.1 converted
    have alerts := Dialog.alert.callCount_text converted
    have questions := Dialog.confirm.callCount_text converted
    have ⟨bareAlerts, windowAlerts, guards, assignments, counts, alertCounts, questionCounts⟩ :=
      Rule.exists_counts {} conversion.imported
    rw [steps, alertCounts] at alerts
    rw [steps, questionCounts] at questions
    rw [steps, detection]
    refine ⟨bareAlerts, windowAlerts, guards, assignments, counts, ?_, ?_⟩
    · intro undetected
      have quiet := Dialog.occursIn_eq_false_iff.1 undetected
      omega
    · intro undetected
      have quiet := Dialog.occursIn_eq_false_iff.1 undetected
      omega

/-- A method of the same name is no dialog: alone it is left as it is, and in the message of an
alert it is not detected as a question. -/
theorem undetected_dialogs_not_replaced_method :
    Rule.applyAll { name := "toast".toList } Rule.all "let a = b.confirm('x');".toList =
      "let a = b.confirm('x');".toList ∧
    ∃ conversion, convert? {} "alert('let a = b.confirm(\"x\")');\n".toList = some conversion ∧
      conversion.detection.confirm = false ∧
      ∃ bareAlerts windowAlerts, conversion.steps.map (fun step => (step.rule, step.count)) =
        [(.bareAlert, bareAlerts), (.windowAlert, windowAlerts), (.confirmGuard, 0),
          (.confirmAssignment, 0)] := by
  have ⟨conversion, converted, undetected⟩ := (Option.any_eq_true _ _).1
    (show (convert? {} "alert('let a = b.confirm(\"x\")');\n".toList).any
        (fun conversion => !conversion.detection.confirm) = true by
      decide +kernel)
  rw [Bool.not_eq_true'] at undetected
  have ⟨bareAlerts, windowAlerts, guards, assignments, counts, _, questions⟩ :=
    undetected_dialogs_not_replaced.2 _ conversion converted
  obtain ⟨rfl, rfl⟩ := questions undetected
  exact ⟨(undetected_dialogs_not_replaced.1 _ _ (by decide)).1, conversion, converted, undetected,
    bareAlerts, windowAlerts, counts⟩

end DialogCodemod
