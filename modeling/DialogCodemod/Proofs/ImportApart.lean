import DialogCodemod.Proofs.Insertion
import DialogCodemod.Proofs.LineEndings

/-!
# The import stays apart from the calls

The import is one more line in a text. No rule has a site in it, the texts before and after it are
rewritten as without it, and all rules go on finding the same line ending. Hence inserting it and
rewriting the calls can change places.
-/

namespace DialogCodemod

theorem completeLines_iff {text : Text} :
    CompleteLines text ↔ text = [] ∨ text.getLast? = some '\n' := by
  constructor
  · intro complete
    rcases complete.eq_nil_or_concat with empty | ⟨front, concat⟩
    · exact .inl empty
    · exact .inr (by simp [concat])
  · rintro (rfl | ends) last member
    · cases member
    · rw [ends] at member
      exact (Option.some.inj member).symm

/-- The line break that a text needs before another line, if its last line is open. -/
def LineEnding.completion (ending : LineEnding) (text : Text) : Text :=
  if text = [] ∨ text.getLast? = some '\n' then [] else ending.text

theorem LineEnding.completion_of_completeLines {text : Text} (complete : CompleteLines text)
    (ending : LineEnding) : ending.completion text = [] :=
  if_pos (completeLines_iff.1 complete)

theorem LineEnding.completion_of_open {text : Text} (openLine : ¬CompleteLines text)
    (ending : LineEnding) : ending.completion text = ending.text :=
  if_neg (fun complete => openLine (completeLines_iff.2 complete))

theorem completeLines_append_completion (ending : LineEnding) (text : Text) :
    CompleteLines (text ++ ending.completion text) := by
  by_cases complete : CompleteLines text
  · rw [LineEnding.completion_of_completeLines complete, List.append_nil]
    exact complete
  · rw [LineEnding.completion_of_open complete]
    exact completeLines_append_ending text ending

theorem EndsAlike.completion_eq {first second : Text} (alike : EndsAlike first second)
    (ending : LineEnding) : ending.completion first = ending.completion second :=
  if_congr (or_congr alike.eq_nil_iff (alike.getLast?_iff (.inl rfl))) rfl rfl

theorem EndsAlike.completeLines_iff {first second : Text} (alike : EndsAlike first second) :
    CompleteLines first ↔ CompleteLines second := by
  rw [DialogCodemod.completeLines_iff, DialogCodemod.completeLines_iff, alike.eq_nil_iff,
    alike.getLast?_iff (.inl rfl)]

/-- The second text is the first one with the import of the standard notifier as one more line:
between two lines, or behind the last one. -/
def ImportApart (ending : LineEnding) (text imported : Text) : Prop :=
  ∃ head tail, text = head ++ tail ∧ (CompleteLines head ∨ tail = []) ∧
    imported = head ++ (ending.completion head ++
      (({} : Notifier).importStatement ++ (ending.text ++ tail)))

theorem Import.insertLine_eq (text : Text) (line : Nat) (statement : Text) :
    insertLine text line statement = (text.splitLines line).1 ++
      ((LineEnding.ofText text).completion (text.splitLines line).1 ++
        (statement ++ ((LineEnding.ofText text).text ++ (text.splitLines line).2))) := by
  simp only [insertLine, LineEnding.completion, Bool.or_eq_true, List.isEmpty_iff, beq_iff_eq]
  split
  · simp
  · simp

theorem importApart_insertLine (text : Text) (line : Nat) :
    ImportApart (LineEnding.ofText text) text
      (Import.insertLine text line ({} : Notifier).importStatement) := by
  refine ⟨(text.splitLines line).1, (text.splitLines line).2,
    (Text.splitLines_append line text).symm, ?_, Import.insertLine_eq text line _⟩
  exact (Text.splitLines_complete line text).symm.imp_left And.left

namespace ImportApart

variable {ending : LineEnding} {text imported : Text}

/-- Rewriting treats the lines around the import alike in both texts, and finds as many sites. -/
theorem rewrite (apart : ImportApart ending text imported) (rule : Rule) :
    ImportApart ending (rule.rewrite {} ending text) (rule.rewrite {} ending imported) ∧
      rule.siteCount imported = rule.siteCount text := by
  obtain ⟨head, tail, rfl, whole, rfl⟩ := apart
  have quiet : callCount ({} : Notifier).importStatement = 0 := by
    decide +kernel
  have completed := completeLines_append_completion ending head
  have alike := rule.endsAlike_rewrite {} ending head
  -- The completion has no site, and stays where it is.
  have rewriteCompleted : rule.rewrite {} ending (head ++ ending.completion head) =
      rule.rewrite {} ending head ++ ending.completion head := by
    by_cases complete : CompleteLines head
    · rw [LineEnding.completion_of_completeLines complete, List.append_nil, List.append_nil]
    · have ended := @rule.rewrite_append_lineBreak {} ending head ending []
      rw [List.append_nil, Rule.rewrite_nil, List.append_nil] at ended
      rw [LineEnding.completion_of_open complete, ended]
  have countCompleted : rule.siteCount (head ++ ending.completion head) = rule.siteCount head := by
    by_cases complete : CompleteLines head
    · rw [LineEnding.completion_of_completeLines complete, List.append_nil]
    · have ended := rule.siteCount_append_lineBreak head ending []
      rw [List.append_nil, Rule.siteCount_nil, Nat.add_zero] at ended
      rw [LineEnding.completion_of_open complete, ended]
  constructor
  · refine ⟨rule.rewrite {} ending head, rule.rewrite {} ending tail, ?_, ?_, ?_⟩
    · rcases whole with complete | rfl
      · exact (rule.rewrite_append complete tail).1
      · rw [Rule.rewrite_nil, List.append_nil, List.append_nil]
    · rcases whole with complete | rfl
      · exact .inl (alike.completeLines_iff.2 complete)
      · exact .inr Rule.rewrite_nil
    · rw [alike.completion_eq, ← List.append_assoc, (rule.rewrite_append completed _).1,
        rewriteCompleted, Rule.rewrite_append_ending quiet, List.append_assoc]
  · have importCount := Rule.siteCount_eq_zero_of_callCount_eq_zero quiet rule
    rw [← List.append_assoc, rule.siteCount_append completed, countCompleted,
      rule.siteCount_append_lineBreak, importCount, Nat.zero_add]
    rcases whole with complete | rfl
    · rw [rule.siteCount_append complete]
    · rw [Rule.siteCount_nil, List.append_nil, Nat.add_zero]

/-- Both texts keep their common line ending, and so each rule does the same to both. -/
theorem applyAll (apart : ImportApart ending text imported)
    (inText : LineEnding.ofText text = ending) (inImported : LineEnding.ofText imported = ending)
    (rules : List Rule) :
    ImportApart ending (Rule.applyAll {} rules text) (Rule.applyAll {} rules imported) ∧
      (Rule.steps {} rules imported).map Rule.Step.count =
        (Rule.steps {} rules text).map Rule.Step.count := by
  induction rules generalizing text imported with
  | nil => exact ⟨apart, rfl⟩
  | cons rule rules ih =>
      have ⟨rewritten, counted⟩ := apart.rewrite rule
      have keeps (content : Text) :
          LineEnding.ofText (rule.apply {} content) = LineEnding.ofText content :=
        rule.ofText_apply (by decide) (by decide) content
      have applied : ImportApart ending (rule.apply {} text) (rule.apply {} imported) := by
        rw [Rule.apply_eq_rewrite, Rule.apply_eq_rewrite, inText, inImported]
        exact rewritten
      have ⟨last, counts⟩ := ih applied ((keeps text).trans inText)
        ((keeps imported).trans inImported)
      refine ⟨last, ?_⟩
      rw [Rule.steps, Rule.steps, List.map_cons, List.map_cons, counts, counted]

end ImportApart

/-- Adding the import commutes with rewriting the calls. With the import each rule replaces as many
sites as without it, and the results differ by the line of the import alone. This is also what a
conversion of the text comes to. -/
theorem import_commutes_with_rewriting {text imported : Text}
    (added : Import.withImport? {} text = some imported)
    (sameEnding : LineEnding.ofText imported = LineEnding.ofText text) :
    (Rule.steps {} Rule.all imported).map Rule.Step.count =
      (Rule.steps {} Rule.all text).map Rule.Step.count ∧
    ∃ head tail,
      Rule.applyAll {} Rule.all text = head ++ tail ∧
      (head = [] ∨ head.getLast? = some '\n' ∨ tail = []) ∧
      Rule.applyAll {} Rule.all imported =
        head ++ ((LineEnding.ofText text).completion head ++
          (({} : Notifier).importStatement ++ ((LineEnding.ofText text).text ++ tail))) ∧
      ∀ conversion, convert? {} text = some conversion →
        conversion.text = Rule.applyAll {} Rule.all imported ∧
        conversion.steps.map Rule.Step.count =
          (Rule.steps {} Rule.all text).map Rule.Step.count := by
  obtain ⟨line, placed, rfl⟩ := Option.map_eq_some_iff.1 added
  have ⟨apart, counts⟩ := (importApart_insertLine text line).applyAll rfl sameEnding Rule.all
  obtain ⟨head, tail, split, whole, withImport⟩ := apart
  refine ⟨counts, head, tail, split, ?_, withImport, ?_⟩
  · rw [← or_assoc, ← completeLines_iff]
    exact whole
  · intro conversion converted
    have inserted : conversion.imported =
        Import.insertLine text line ({} : Notifier).importStatement := by
      rw [Conversion.imported_eq_place converted, placed]
      rfl
    have steps := (convert?_eq_some_iff.1 converted).2.2.2.2
    rw [inserted] at steps
    refine ⟨?_, ?_⟩
    · rw [Conversion.text_eq_applyAll converted, inserted]
    · rw [steps, counts]

/-- The import goes behind the guard on an open last line, in a text with carriage returns. -/
theorem import_commutes_with_rewriting_open_line :
    ∃ imported,
      Import.withImport? {}
        "import 'a';\r\nimport 'b'; if (!confirm('c')) return;".toList =
          some imported ∧
      (Rule.steps {} Rule.all imported).map Rule.Step.count = [0, 0, 1, 0] ∧
      ∃ head tail,
        head ++ tail = ("import 'a';\r\nimport 'b'; const confirmed = " ++
          "await new Promise((resolve) => \x7b\r\n  notificationManager.confirm('c', " ++
          "resolve);\r\n\x7d);\r\nif (!confirmed) return;").toList ∧
        Rule.applyAll {} Rule.all imported =
          head ++ (LineEnding.carriageReturnNewline.completion head ++
            (({} : Notifier).importStatement ++ ("\r\n".toList ++ tail))) := by
  have ⟨imported, added, ending⟩ := (Option.any_eq_true _ _).1
    (show (Import.withImport? {}
        "import 'a';\r\nimport 'b'; if (!confirm('c')) return;".toList).any
        (fun imported => LineEnding.ofText imported == .carriageReturnNewline) = true by
      decide +kernel)
  have ⟨counts, head, tail, split, _, withImport, _⟩ :=
    import_commutes_with_rewriting added (beq_iff_eq.1 ending)
  refine ⟨imported, added, counts.trans (by decide +kernel), head, tail, split.symm.trans ?_,
    withImport⟩
  decide +kernel

end DialogCodemod
