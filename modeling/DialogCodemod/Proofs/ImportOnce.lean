import DialogCodemod.Proofs.Insertion

/-!
# The import is added once

Every replacement mentions the notifier, and so does its import. A text that has been converted
therefore mentions it, whatever the notifier is called, and no later run adds an import again. For
the standard notifier more is true: the import that the first run adds stays the only one, on a
line of its own, through all the rules that follow.
-/

namespace DialogCodemod

namespace Text

variable {text later word : Text}

theorem mentions_append_of_left (mentioned : text.mentions word = true) :
    (text ++ later).mentions word = true := by
  obtain ⟨before, after, rfl⟩ := mentions_eq_true_iff.1 mentioned
  exact mentions_eq_true_iff.2 ⟨before, after ++ later, by simp⟩

theorem mentions_append_of_right (mentioned : later.mentions word = true) :
    (text ++ later).mentions word = true := by
  obtain ⟨before, after, rfl⟩ := mentions_eq_true_iff.1 mentioned
  exact mentions_eq_true_iff.2 ⟨text ++ before, after, by simp⟩

end Text

/-! ## Every notifier -/

section EveryNotifier

variable {notifier : Notifier}

theorem Notifier.mentions_awaitedAnswer (layout : Layout) (message : Literal) :
    (notifier.awaitedAnswer layout message).mentions notifier.name = true := by
  unfold Notifier.awaitedAnswer
  exact Text.mentions_eq_true_iff.2
    ⟨"await new Promise((resolve) => \x7b".toList ++ layout.nested.lineBreak,
      ".confirm(".toList ++ (message.source ++ (", resolve);".toList ++ (layout.lineBreak ++
        "\x7d)".toList))), by simp only [List.append_assoc]⟩

theorem Notifier.mentions_awaitedGuard (layout : Layout) (message : Literal) :
    (notifier.awaitedGuard layout message).mentions notifier.name = true := by
  unfold Notifier.awaitedGuard
  apply Text.mentions_append_of_left
  apply Text.mentions_append_of_left
  apply Text.mentions_append_of_left
  apply Text.mentions_append_of_right
  exact mentions_awaitedAnswer layout message

/-- Every replacement calls the notifier by its name. -/
theorem Statement.mentions_replacement (layout : Layout) (statement : Statement) :
    (statement.replacement notifier layout).mentions notifier.name = true := by
  cases statement with
  | alert written =>
      unfold replacement Notifier.showCall
      exact Text.mentions_eq_true_iff.2
        ⟨[], ".show(".toList ++ (written.message.source ++ (", '".toList ++ (notifier.severity ++
          "')".toList))), by simp only [List.append_assoc, List.nil_append]⟩
  | guard written =>
      obtain ⟨elseGap, ifGap, openGap, notGap, call, callGap, closeGap, returnGap⟩ := written
      cases elseGap with
      | none => exact Notifier.mentions_awaitedGuard layout call.message
      | some gap =>
          unfold replacement
          apply Text.mentions_append_of_left
          apply Text.mentions_append_of_left
          apply Text.mentions_append_of_right
          exact Notifier.mentions_awaitedGuard layout.nested call.message
  | binding written =>
      unfold replacement
      apply Text.mentions_append_of_right
      exact Notifier.mentions_awaitedAnswer layout written.call.message

/-- Where a site is replaced, the notifier is mentioned afterwards. -/
theorem mentions_replaceSites {ending : LineEnding} {before : Text} {segments : List Segment}
    (found : 0 < segments.countP Segment.isSite) :
    (replaceSites notifier ending before segments).mentions notifier.name = true := by
  induction segments generalizing before with
  | nil => cases found
  | cons segment later ih =>
      cases segment with
      | plain char =>
          rw [List.countP_cons_of_neg (by simp [Segment.isSite])] at found
          exact @Text.mentions_append_of_right [char] _ _ (ih found)
      | site site =>
          rw [replaceSites]
          apply Text.mentions_append_of_left
          apply Text.mentions_append_of_right
          exact site.statement.mentions_replacement _

namespace Rule

/-- No rule erases the last mention of the notifier. -/
theorem mentions_apply (rule : Rule) {text : Text}
    (mentioned : text.mentions notifier.name = true) :
    (rule.apply notifier text).mentions notifier.name = true := by
  cases count : rule.siteCount text with
  | zero => rwa [apply_eq_rewrite, rewrite_of_siteCount_eq_zero count]
  | succ others =>
      have found : 0 < rule.siteCount text := by omega
      exact mentions_replaceSites found

theorem mentions_applyAll (rules : List Rule) {text : Text}
    (mentioned : text.mentions notifier.name = true) :
    (applyAll notifier rules text).mentions notifier.name = true := by
  induction rules generalizing text with
  | nil => exact mentioned
  | cons rule later ih => exact ih (rule.mentions_apply mentioned)

end Rule

theorem Import.mentions_place (text : Text) :
    (place notifier text (placement? notifier text)).mentions notifier.name = true := by
  rw [placement?]
  split
  next mentioned => exact mentioned
  next =>
    obtain ⟨before, after, split, _⟩ := exists_insertLine_eq text
      (insertionLine notifier.framework text) notifier.importStatement
    rw [place, split]
    apply Text.mentions_append_of_right
    apply Text.mentions_append_of_left
    unfold Notifier.importStatement
    exact Text.mentions_eq_true_iff.2 ⟨"import ".toList, " from '".toList ++ (notifier.modulePath ++
      "';".toList), by simp only [List.append_assoc]⟩

/-- A converted text mentions the notifier. -/
theorem Conversion.mentions_text {text : Text} {conversion : Conversion}
    (converted : convert? notifier text = some conversion) :
    conversion.text.mentions notifier.name = true := by
  rw [text_eq_applyAll converted, imported_eq_place converted]
  exact Rule.mentions_applyAll Rule.all (Import.mentions_place text)

theorem Conversion.imported_eq_self {text : Text} {conversion : Conversion}
    (mentioned : text.mentions notifier.name = true)
    (converted : convert? notifier text = some conversion) : conversion.imported = text := by
  rw [imported_eq_place converted, Import.placement?, mentioned]
  rfl

/-- A text that mentions the notifier gets no import. -/
theorem Conversion.importInserted_eq {text : Text} {conversion : Conversion}
    (converted : convert? notifier text = some conversion) :
    conversion.importInserted = !text.mentions notifier.name := by
  rw [importInserted, (convert?_eq_some_iff.1 converted).2.2.1, Import.placement?]
  cases text.mentions notifier.name <;> rfl

/-- No run adds an import to a text that mentions the notifier, nor does any run after it. -/
theorem importInserted_eq_false_of_mem_convertRepeatedly {times : Nat} {text : Text}
    (mentioned : text.mentions notifier.name = true) :
    ∀ run ∈ convertRepeatedly notifier times text, ∀ conversion ∈ run,
      conversion.importInserted = false := by
  induction times generalizing text with
  | zero => simp [convertRepeatedly]
  | succ times ih =>
      rw [convertRepeatedly]
      cases converted : convert? notifier text with
      | none => simp
      | some first =>
          intro run member conversion result
          rcases List.mem_cons.1 member with rfl | member
          · cases result
            rw [Conversion.importInserted_eq converted, mentioned]
            rfl
          · exact ih (Conversion.mentions_text converted) run member conversion result

/-- Of successive runs, at most the first adds the import. -/
theorem importInserted_eq_false_of_mem_tail {times : Nat} {text : Text} :
    ∀ run ∈ (convertRepeatedly notifier times text).tail, ∀ conversion ∈ run,
      conversion.importInserted = false := by
  cases times with
  | zero => simp [convertRepeatedly]
  | succ times =>
      rw [convertRepeatedly]
      cases converted : convert? notifier text with
      | none => simp
      | some first =>
          exact importInserted_eq_false_of_mem_convertRepeatedly
            (Conversion.mentions_text converted)

end EveryNotifier

/-! ## The standard notifier -/

/-- Pieces that are the name of the standard notifier and the boundary after it. In replacements the
name is followed by a dot and goes on. -/
def nameTest : PieceTest where
  holds piece := piece.dropLast == ({} : Notifier).name
  holds_vocabulary := by
    intro word known char _
    rw [List.dropLast_concat, beq_eq_false_iff_ne]
    rintro rfl
    revert known
    decide
  holds_name := by
    intro word char _
    rw [List.dropLast_concat, List.dropLast_concat]
  holds_access := by
    intro dialog viaWindow
    cases dialog <;> cases viaWindow <;> decide

theorem nameTest_count_rewrite (rule : Rule) (ending : LineEnding) (text : Text) :
    nameTest.count (rule.rewrite {} ending text) = nameTest.count text := by
  have counted := nameTest.count_rewrite rule ending text
  have other : (nameTest.holds rule.dialog.opening).toNat = 0 := by
    cases rule <;> decide
  rw [other] at counted
  simpa using counted

theorem nameTest_count_eq_zero {text : Text}
    (absent : text.occurrences ({} : Notifier).name = 0) : nameTest.count text = 0 := by
  rw [PieceTest.count, List.countP_eq_zero]
  intro piece member holds
  obtain ⟨ending, piece'⟩ := List.dropLast_prefix piece
  rw [beq_iff_eq.1 holds] at piece'
  obtain ⟨before, after, split⟩ := List.append_of_mem member
  have mentioned : text.mentions ({} : Notifier).name = true := by
    rw [← text.flatten_pieces, split, List.flatten_append, List.flatten_cons, ← piece']
    exact Text.mentions_eq_true_iff.2
      ⟨before.flatten, ending ++ after.flatten, by simp only [List.append_assoc]⟩
  rw [Text.mentions_eq_true_iff_occurrences (by decide), absent] at mentioned
  cases mentioned

/-- Without such a piece there is no import of the notifier. -/
theorem occurrences_importStatement_eq_zero {text : Text} (quiet : nameTest.count text = 0) :
    text.occurrences ({} : Notifier).importStatement = 0 := by
  apply Nat.eq_zero_of_not_pos
  intro occurs
  rw [← Text.mentions_eq_true_iff_occurrences (by decide)] at occurs
  obtain ⟨before, after, split⟩ := Text.mentions_eq_true_iff.1 occurs
  have parts : text = (before ++ "import ".toList) ++ (({} : Notifier).name ++
      ' ' :: ("from '../../utils/notification';".toList ++ after)) := by
    rw [split, List.append_assoc, List.append_assoc]
    rfl
  have ends : EndsAtBoundary (before ++ "import ".toList) := by
    intro last member
    rw [List.getLast?_append_of_ne_nil _ (by decide)] at member
    cases member
    rfl
  have found : nameTest.holds (({} : Notifier).name ++ [' ']) = true := by
    decide
  have letters : ∀ char ∈ ({} : Notifier).name, isBoundary char = false :=
    Text.isBoundary_eq_false_of_all (by decide)
  rw [parts, nameTest.count_append ends, nameTest.count_word_append letters rfl, found] at quiet
  simp at quiet

/-- The import stands on a line of its own, and the name alone nowhere else. -/
def ImportLine (text : Text) : Prop :=
  ∃ before after, ∃ ending : LineEnding,
    text = before ++ (({} : Notifier).importStatement ++ (ending.text ++ after)) ∧
      CompleteLines before ∧ nameTest.count before = 0 ∧ nameTest.count after = 0

theorem importLine_insertLine {text : Text} (line : Nat)
    (absent : text.occurrences ({} : Notifier).name = 0) :
    ImportLine (Import.insertLine text line ({} : Notifier).importStatement) := by
  obtain ⟨before, after, inserted, complete, kept | ⟨kept, rest⟩⟩ :=
    Import.exists_insertLine_eq text line ({} : Notifier).importStatement
  · have bound := Text.occurrences_add_le_occurrences_append ({} : Notifier).name before after
    rw [← kept, absent] at bound
    refine ⟨before, after, _, inserted, complete, ?_, ?_⟩
    · exact nameTest_count_eq_zero (by omega)
    · exact nameTest_count_eq_zero (by omega)
  · refine ⟨before, after, _, inserted, complete, ?_, by rw [rest]; rfl⟩
    apply nameTest_count_eq_zero
    rw [kept, ← List.append_nil (LineEnding.text _),
      Text.occurrences_append_ending (by decide) (by decide) (by decide), absent]
    rfl

theorem ImportLine.rewrite {text : Text} (imported : ImportLine text) (rule : Rule)
    (ending : LineEnding) : ImportLine (rule.rewrite {} ending text) := by
  obtain ⟨before, after, own, rfl, complete, quietBefore, quietAfter⟩ := imported
  have quiet : callCount ({} : Notifier).importStatement = 0 := by
    decide +kernel
  -- The lines before the import, its own line and the lines after it are rewritten apart.
  refine ⟨rule.rewrite {} ending before, rule.rewrite {} ending after, own, ?_,
    (rule.rewrite_append complete []).2, ?_, ?_⟩
  · rw [(rule.rewrite_append complete _).1, Rule.rewrite_append_ending quiet]
  · rw [nameTest_count_rewrite, quietBefore]
  · rw [nameTest_count_rewrite, quietAfter]

/-- No sequence of rules breaks the line of the import or writes a second one. -/
theorem ImportLine.applyAll {text : Text} (imported : ImportLine text) (rules : List Rule) :
    ImportLine (Rule.applyAll {} rules text) := by
  induction rules generalizing text with
  | nil => exact imported
  | cons rule rules ih => exact ih (imported.rewrite rule (LineEnding.ofText text))

theorem ImportLine.occurrences_eq_one {text : Text} (imported : ImportLine text) :
    text.occurrences ({} : Notifier).importStatement = 1 := by
  obtain ⟨before, after, own, rfl, complete, quietBefore, quietAfter⟩ := imported
  have once : ({} : Notifier).importStatement.occurrences ({} : Notifier).importStatement = 1 := by
    decide +kernel
  rw [Text.occurrences_append_of_completeLines (by decide) (by decide) complete,
    Text.occurrences_append_ending (by decide) (by decide) (by decide), once,
    occurrences_importStatement_eq_zero quietBefore,
    occurrences_importStatement_eq_zero quietAfter]

/-- A conversion that adds the import leaves it on its own line. -/
theorem Conversion.importLine_text {text : Text} {conversion : Conversion}
    (absent : text.mentions ({} : Notifier).name = false)
    (converted : convert? {} text = some conversion) : ImportLine conversion.text := by
  have unnamed : text.occurrences ({} : Notifier).name = 0 := by
    apply Nat.eq_zero_of_not_pos
    rw [← Text.mentions_eq_true_iff_occurrences (by decide), absent]
    exact Bool.false_ne_true
  rw [text_eq_applyAll converted, imported_eq_place converted, Import.placement?, absent]
  exact (importLine_insertLine _ unnamed).applyAll Rule.all

/-- The import of the notifier is added at most once, by the first of successive conversions. The
standard import is then a line of the text and occurs nowhere else. -/
theorem import_added_at_most_once :
    (∀ (notifier : Notifier) (text : Text) (conversion : Conversion),
      convert? notifier text = some conversion →
        conversion.text.mentions notifier.name = true) ∧
    (∀ (notifier : Notifier) (times : Nat) (text : Text),
      ∀ run ∈ (convertRepeatedly notifier times text).tail, ∀ conversion ∈ run,
        conversion.importInserted = false) ∧
    (∀ text : Text, text.mentions ({} : Notifier).name = false →
      (Detection.ofText text).any = true →
      ∃ conversion, convert? {} text = some conversion ∧
        conversion.importInserted = true ∧
        conversion.text.occurrences ({} : Notifier).importStatement = 1 ∧
        ∃ before after, ∃ ending : LineEnding, CompleteLines before ∧
          conversion.text =
            before ++ (({} : Notifier).importStatement ++ (ending.text ++ after))) := by
  refine ⟨?_, ?_, ?_⟩
  · intro notifier text conversion converted
    exact Conversion.mentions_text converted
  · intro notifier times text
    exact importInserted_eq_false_of_mem_tail
  · intro text absent detected
    cases converted : convert? {} text with
    | none =>
        rw [convert?_eq_none_iff] at converted
        rw [Detection.any_ofText_eq_true_iff, converted] at detected
        cases detected
    | some conversion =>
        have imported := Conversion.importLine_text absent converted
        refine ⟨conversion, rfl, ?_, imported.occurrences_eq_one, ?_⟩
        · rw [Conversion.importInserted_eq converted, absent]
          rfl
        · obtain ⟨before, after, ending, split, complete, _, _⟩ := imported
          exact ⟨before, after, ending, complete, split⟩

/-- The text calls one dialog in the message of another, so both runs rewrite it. -/
theorem import_added_at_most_once_nested_call :
    ∃ conversion, convert? {} "alert('alert(\"x\")');\r\n".toList = some conversion ∧
      conversion.importInserted = true ∧
      conversion.text.occurrences ({} : Notifier).importStatement = 1 ∧
      ∀ run ∈ (convertRepeatedly {} 2 "alert('alert(\"x\")');\r\n".toList).tail,
        ∀ later ∈ run, later.importInserted = false := by
  obtain ⟨conversion, converted, inserted, once, _⟩ :=
    import_added_at_most_once.2.2 "alert('alert(\"x\")');\r\n".toList (by decide +kernel)
      (by decide +kernel)
  exact ⟨conversion, converted, inserted, once, import_added_at_most_once.2.1 {} 2 _⟩

end DialogCodemod
