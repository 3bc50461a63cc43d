import DialogCodemod.Proofs.Lines
import DialogCodemod.Proofs.Occurrences
import DialogCodemod.Proofs.Rendering

/-!
# Each line on its own

A newline separates everything: no statement reaches across it, the indentation of a replacement is
found on its own line, and a call opens behind a newline as it does at the start of a text. What a
rule does to a text is therefore what it does to the parts before and after a newline, and so on
through all the rules, as long as no carriage return makes the line ending of one part differ from
that of the other.
-/

namespace DialogCodemod

/-! ## Detection -/

theorem Dialog.occursIn_append_newline (dialog : Dialog) (first later : Text) :
    dialog.occursIn (first ++ '\n' :: later) =
      (dialog.occursIn first || dialog.occursIn later) := by
  have counted := dialog.callCount_append_ending .newline first later
  rw [LineEnding.text, List.singleton_append] at counted
  rw [Bool.eq_iff_iff, Bool.or_eq_true, occursIn_eq_true_iff, occursIn_eq_true_iff,
    occursIn_eq_true_iff, counted]
  omega

/-! ## Carriage returns -/

namespace Statement

variable {notifier : Notifier} {statement : Statement} {char : Char}

/-- A replacement has no carriage return if neither the statement nor the notifier has one. -/
theorem carriageReturn_notMem_replacement (inName : '\r' ∉ notifier.name)
    (inSeverity : '\r' ∉ notifier.severity) {layout : Layout} (blank : Blank layout.indent)
    (newline : layout.ending = .newline) (absent : '\r' ∉ statement.source) :
    '\r' ∉ statement.replacement notifier layout := by
  have lines := notMem_renderedLines (.inr rfl) inName inSeverity blank absent
  rw [replacement_eq_intercalate, newline, LineEnding.text]
  intro member
  have joined : '\r' ∈ joinLines false (statement.renderedLines notifier layout.indent) :=
    List.mem_append_left _ member
  rcases mem_joinLines joined with impossible | ⟨line, rendered, inLine⟩
  · cases impossible
  · exact lines line rendered inLine

end Statement

theorem carriageReturn_notMem_replaceSites {notifier : Notifier} (inName : '\r' ∉ notifier.name)
    (inSeverity : '\r' ∉ notifier.severity) (before : Text) {segments : List Segment}
    (absent : '\r' ∉ segments.flatMap Segment.source) :
    '\r' ∉ replaceSites notifier .newline before segments := by
  apply @Rule.replaceSites_of_parts notifier .newline ('\r' ∉ ·) List.not_mem_nil
  · intro first later inFirst inLater
    simp [inFirst, inLater]
  · intro char member
    rw [List.mem_singleton]
    rintro rfl
    exact absent member
  · intro statement layout inText blank newline
    exact Statement.carriageReturn_notMem_replacement inName inSeverity blank newline
      (fun member => absent (inText member))

namespace Rule

variable {notifier : Notifier} {first later : Text}

/-- Rules do not bring carriage returns into a text. -/
theorem carriageReturn_notMem_apply (rule : Rule) (inName : '\r' ∉ notifier.name)
    (inSeverity : '\r' ∉ notifier.severity) {text : Text} (absent : '\r' ∉ text) :
    '\r' ∉ rule.apply notifier text := by
  rw [apply, LineEnding.ofText_eq_newline absent]
  apply carriageReturn_notMem_replaceSites inName inSeverity
  rw [flatMap_source_segments]
  exact absent

/-! ## Rules -/

theorem apply_append_newline (rule : Rule) (inFirst : '\r' ∉ first) (inLater : '\r' ∉ later) :
    rule.apply notifier (first ++ '\n' :: later) =
      rule.apply notifier first ++ '\n' :: rule.apply notifier later := by
  have absent : '\r' ∉ first ++ '\n' :: later := by
    simp [inFirst, inLater]
  rw [apply_eq_rewrite, apply_eq_rewrite, apply_eq_rewrite, LineEnding.ofText_eq_newline absent,
    LineEnding.ofText_eq_newline inFirst, LineEnding.ofText_eq_newline inLater,
    rewrite_append_newline]

section Sequence

variable (inName : '\r' ∉ notifier.name) (inSeverity : '\r' ∉ notifier.severity)
  (rules : List Rule) (inFirst : '\r' ∉ first) (inLater : '\r' ∉ later)

include inName inSeverity inFirst inLater

/-- Rules applied one after the other treat the two sides of a newline apart. -/
theorem applyAll_append_newline :
    applyAll notifier rules (first ++ '\n' :: later) =
      applyAll notifier rules first ++ '\n' :: applyAll notifier rules later := by
  induction rules generalizing first later with
  | nil => rfl
  | cons rule rules ih =>
      simp only [applyAll, List.foldl_cons] at ih ⊢
      rw [rule.apply_append_newline inFirst inLater]
      exact ih (rule.carriageReturn_notMem_apply inName inSeverity inFirst)
        (rule.carriageReturn_notMem_apply inName inSeverity inLater)

/-- What each rule replaces is added up from the two sides. -/
theorem map_count_steps_append_newline :
    (steps notifier rules (first ++ '\n' :: later)).map Step.count =
      List.zipWith (· + ·) ((steps notifier rules first).map Step.count)
        ((steps notifier rules later).map Step.count) := by
  induction rules generalizing first later with
  | nil => rfl
  | cons rule rules ih =>
      have rest := ih (rule.carriageReturn_notMem_apply inName inSeverity inFirst)
        (rule.carriageReturn_notMem_apply inName inSeverity inLater)
      simp only [steps, List.map_cons, List.zipWith_cons_cons]
      rw [rule.apply_append_newline inFirst inLater, siteCount_append_newline, rest]

end Sequence

end Rule

/-- Rewriting is local to lines: a rule, the rules one after the other, and detection treat the two
sides of a newline as texts of their own. -/
theorem rewriting_local_to_lines :
    (∀ (rule : Rule) (notifier : Notifier) (first later : Text), '\r' ∉ first → '\r' ∉ later →
      rule.apply notifier (first ++ '\n' :: later) =
        rule.apply notifier first ++ '\n' :: rule.apply notifier later ∧
      rule.siteCount (first ++ '\n' :: later) = rule.siteCount first + rule.siteCount later) ∧
    (∀ (notifier : Notifier) (first later : Text), '\r' ∉ notifier.name →
      '\r' ∉ notifier.severity → '\r' ∉ first → '\r' ∉ later →
      Rule.applyAll notifier Rule.all (first ++ '\n' :: later) =
        Rule.applyAll notifier Rule.all first ++ '\n' :: Rule.applyAll notifier Rule.all later ∧
      (Rule.steps notifier Rule.all (first ++ '\n' :: later)).map Rule.Step.count =
        List.zipWith (· + ·) ((Rule.steps notifier Rule.all first).map Rule.Step.count)
          ((Rule.steps notifier Rule.all later).map Rule.Step.count)) ∧
    (∀ first later : Text, Detection.ofText (first ++ '\n' :: later) =
      { alert := (Detection.ofText first).alert || (Detection.ofText later).alert
        confirm := (Detection.ofText first).confirm || (Detection.ofText later).confirm }) := by
  refine ⟨?_, ?_, ?_⟩
  · intro rule notifier first later inFirst inLater
    exact ⟨rule.apply_append_newline inFirst inLater, Rule.siteCount_append_newline first later⟩
  · intro notifier first later inName inSeverity inFirst inLater
    exact ⟨Rule.applyAll_append_newline inName inSeverity Rule.all inFirst inLater,
      Rule.map_count_steps_append_newline inName inSeverity Rule.all inFirst inLater⟩
  · intro first later
    simp only [Detection.ofText, Dialog.occursIn_append_newline]

/-- The quote that is left open on the first line does not reach the guard on the second. -/
theorem rewriting_local_to_lines_open_quote :
    Rule.applyAll {} Rule.all "alert('a\n  if (!confirm('b')) return;".toList =
      ("alert('a\n  const confirmed = await new Promise((resolve) => \x7b\n" ++
        "    notificationManager.confirm('b', resolve);\n  \x7d);\n" ++
        "  if (!confirmed) return;").toList ∧
    (Rule.steps {} Rule.all "alert('a\n  if (!confirm('b')) return;".toList).map Rule.Step.count =
      [0, 0, 1, 0] ∧
    Rule.confirmGuard.siteCount "alert('a\n  if (!confirm('b')) return;".toList = 1 := by
  have ⟨rewritten, counted⟩ := rewriting_local_to_lines.2.1 {} "alert('a".toList
    "  if (!confirm('b')) return;".toList (by decide) (by decide) (by decide) (by decide)
  have ⟨_, guards⟩ := rewriting_local_to_lines.1 .confirmGuard {} "alert('a".toList
    "  if (!confirm('b')) return;".toList (by decide) (by decide)
  refine ⟨rewritten.trans ?_, counted.trans ?_, guards.trans ?_⟩
  · decide +kernel
  · decide +kernel
  · decide +kernel

end DialogCodemod
