import DialogCodemod.Proofs.ImportPosition
import DialogCodemod.Proofs.SupportedLine
import Mathlib.Data.List.InsertIdx

/-!
# Texts of supported lines

A text of supported lines is converted line by line: each statement becomes the lines that are
written out for it, all else stays, and the result calls no dialog. The import that a conversion
adds is a supported line as well, and becomes one of the lines.
-/

namespace DialogCodemod

/-! ## Rules applied to supported lines -/

namespace Line

theorem notMem_source (line : Line) {char : Char} (ends : EndsLine char) : char ∉ line.source := by
  cases line with
  | plain text quiet unbroken =>
      rcases ends with rfl | rfl
      · exact unbroken.1
      · exact unbroken.2
  | dialog line => exact line.notMem_source ends

theorem rendering_ne_nil (line : Line) : line.rendering ≠ [] := by
  cases line with
  | plain text quiet unbroken => exact List.cons_ne_nil text []
  | dialog line => exact enclose_ne_nil _ _ _

theorem carriageReturn_notMem_textAfterRules (done : List Rule) (line : Line) :
    '\r' ∉ line.textAfterRules done := by
  cases line with
  | plain text quiet unbroken => exact unbroken.2
  | dialog line =>
      rw [textAfterRules]
      split
      · intro member
        have joined : '\r' ∈ joinLines false line.rendering := List.mem_append_left [] member
        rcases mem_joinLines joined with newline | ⟨text, among, inside⟩
        · cases newline
        · exact line.carriageReturn_notMem_rendering text among inside
      · exact line.notMem_source (.inr rfl)

theorem callCount_source (line : Line) : callCount line.source = line.rule?.toList.length := by
  cases line with
  | plain text quiet unbroken => exact Detection.any_ofText_eq_false_iff.1 quiet
  | dialog line => exact line.callCount_source

theorem callCount_rendering (line : Line) :
    callCount (['\n'].intercalate line.rendering) = 0 := by
  cases line with
  | plain text quiet unbroken =>
      rw [rendering, List.intercalate_singleton]
      exact Detection.any_ofText_eq_false_iff.1 quiet
  | dialog line => exact line.callCount_rendering

variable (finalNewline : Bool) (lines : List Line)

/-- One rule is applied to every line. -/
theorem apply_joinLines (rule : Rule) (done : List Rule) :
    rule.apply {} (joinLines finalNewline (lines.map (textAfterRules done))) =
      joinLines finalNewline (lines.map (textAfterRules (rule :: done))) := by
  have unbroken : '\r' ∉ joinLines finalNewline (lines.map (textAfterRules done)) := by
    intro member
    rcases mem_joinLines member with newline | ⟨text, among, inside⟩
    · cases newline
    · obtain ⟨line, _, rfl⟩ := List.mem_map.1 among
      exact line.carriageReturn_notMem_textAfterRules done inside
  rw [Rule.apply_eq_rewrite, LineEnding.ofText_eq_newline unbroken, Rule.rewrite_joinLines,
    List.map_map]
  congr 1
  exact List.map_congr_left (fun line _ => rewrite_textAfterRules rule done line)

/-- Rules applied one after the other are applied to every line. -/
theorem applyAll_joinLines (rules done : List Rule) :
    Rule.applyAll {} rules (joinLines finalNewline (lines.map (textAfterRules done))) =
      joinLines finalNewline (lines.map (textAfterRules (rules.reverseAux done))) := by
  induction rules generalizing done with
  | nil => rfl
  | cons rule rules ih =>
      rw [Rule.applyAll, List.foldl_cons, apply_joinLines]
      exact ih (rule :: done)

theorem siteCount_joinLines {rule : Rule} {done : List Rule} (fresh : rule ∉ done) :
    rule.siteCount (joinLines finalNewline (lines.map (textAfterRules done))) =
      lines.countP (fun line => line.rule? = some rule) := by
  rw [count_joinLines (Rule.siteCount_eq_zero_of_callCount_eq_zero callCount_nil rule)
    (fun line later => Rule.siteCount_append_newline line later), List.map_map]
  induction lines with
  | nil => rfl
  | cons line lines ih =>
      rw [List.map_cons, List.sum_cons, ih, List.countP_cons, Function.comp_apply,
        siteCount_textAfterRules fresh, Nat.add_comm]
      simp

/-- Each rule replaces the statements that are its own. -/
theorem steps_joinLines {rules done : List Rule} (distinct : rules.Nodup)
    (fresh : ∀ rule ∈ rules, rule ∉ done) :
    (Rule.steps {} rules (joinLines finalNewline (lines.map (textAfterRules done)))).map
        (fun step => (step.rule, step.count)) =
      rules.map (fun rule => (rule, lines.countP (fun line => line.rule? = some rule))) := by
  induction rules generalizing done with
  | nil => rfl
  | cons rule rules ih =>
      rw [List.nodup_cons] at distinct
      have later : ∀ other ∈ rules, other ∉ rule :: done := by
        intro other member
        rw [List.mem_cons, not_or]
        refine ⟨?_, fresh other (List.mem_cons_of_mem rule member)⟩
        intro same
        exact distinct.1 (same ▸ member)
      rw [Rule.steps, List.map_cons, List.map_cons,
        siteCount_joinLines _ _ (fresh rule List.mem_cons_self), apply_joinLines,
        ih distinct.2 later]

/-- Once all rules have been applied, every statement has been replaced. -/
theorem joinLines_textAfterRules_all :
    joinLines finalNewline (lines.map (textAfterRules Rule.all.reverse)) =
      joinLines finalNewline (lines.flatMap rendering) := by
  rw [← joinLines_map_intercalate rendering_ne_nil, List.map_congr_left]
  intro line _
  exact line.textAfterRules_all

theorem applyAll_joinLines_source :
    Rule.applyAll {} Rule.all (joinLines finalNewline (lines.map source)) =
      joinLines finalNewline (lines.flatMap rendering) := by
  have start : lines.map source = lines.map (textAfterRules []) :=
    List.map_congr_left (fun line _ => line.textAfterRules_nil.symm)
  rw [start, applyAll_joinLines, ← joinLines_textAfterRules_all]
  rfl

theorem callCount_joinLines_source :
    callCount (joinLines finalNewline (lines.map source)) =
      lines.countP (fun line => line.rule?.isSome) := by
  rw [count_joinLines callCount_nil (callCount_append_ending .newline), List.map_map]
  induction lines with
  | nil => rfl
  | cons line lines ih =>
      rw [List.map_cons, List.sum_cons, ih, List.countP_cons, Function.comp_apply,
        line.callCount_source, Nat.add_comm]
      cases line.rule? <;> rfl

/-- Nothing is left to replace. -/
theorem callCount_joinLines_rendering :
    callCount (joinLines finalNewline (lines.flatMap rendering)) = 0 := by
  rw [← joinLines_map_intercalate rendering_ne_nil,
    count_joinLines callCount_nil (callCount_append_ending .newline), List.map_map]
  induction lines with
  | nil => rfl
  | cons line lines ih =>
      rw [List.map_cons, List.sum_cons, ih, Function.comp_apply, line.callCount_rendering]

end Line

/-! ## The import among supported lines -/

/-- An empty line. -/
def Line.empty : Line :=
  .plain [] (by decide) (by decide)

/-- The line that imports the standard notifier. -/
def Line.standardImport : Line :=
  .plain ({} : Notifier).importStatement (by decide +kernel) (by decide +kernel)

/-- The lines with the import among them, if it was inserted. -/
def Line.withImport (importLine : Option Nat) (lines : List Line) : List Line :=
  match importLine with
  | none => lines
  | some position => lines.insertIdx position Line.standardImport

theorem LineEnding.completion_append_newline (ending : LineEnding) (line later : Text) :
    ending.completion (line ++ '\n' :: later) = ending.completion later := by
  rcases List.eq_nil_or_concat later with rfl | ⟨front, last, rfl⟩
  · simp [completion]
  · simp [completion, List.getLast?_append, List.getLast?_cons]

/-- Below a single line there is nothing, and the line is ended there. -/
theorem splitLines_joinLines_singleton {line : Text} (oneLine : '\n' ∉ line) {finalNewline : Bool}
    {position : Nat} (bound : position + 1 ≤ (joinLines finalNewline [line]).lines.length) :
    position = 0 ∧ ∃ head, (joinLines finalNewline [line]).splitLines (position + 1) = (head, []) ∧
      head ++ LineEnding.newline.completion head = line ++ ['\n'] := by
  rw [joinLines, List.intercalate_singleton] at bound ⊢
  cases finalNewline with
  | true =>
      rw [if_pos rfl] at bound ⊢
      rw [Text.lines_append_newline oneLine] at bound
      obtain rfl : position = 0 := by simpa [Text.lines] using bound
      refine ⟨rfl, line ++ ['\n'], ?_, ?_⟩
      · rw [Text.splitLines_succ_append_newline oneLine, Text.splitLines_zero]
      · rw [LineEnding.completion_append_newline,
          LineEnding.completion_of_completeLines completeLines_nil, List.append_nil]
  | false =>
      rw [if_neg (by decide), List.append_nil] at bound ⊢
      by_cases empty : line = []
      · rw [empty] at bound
        cases bound
      · rw [Text.lines_of_newline_notMem oneLine empty, List.length_singleton] at bound
        obtain rfl : position = 0 := by omega
        have unended : ¬CompleteLines line := fun complete =>
          empty (complete.eq_nil_of_notMem oneLine)
        refine ⟨rfl, line, Text.splitLines_succ_of_notMem oneLine 0, ?_⟩
        rw [LineEnding.completion_of_open unended]
        rfl

namespace Import

/-- A line that is inserted between lines is one of them. Below the last line it is ended, and so
is the last line. -/
theorem insertLine_joinLines {parts : List Text} (unbroken : ∀ part ∈ parts, '\n' ∉ part)
    (nonempty : parts ≠ []) {finalNewline : Bool}
    (newline : LineEnding.ofText (joinLines finalNewline parts) = .newline) {position : Nat}
    (bound : position ≤ (joinLines finalNewline parts).lines.length) (statement : Text) :
    position ≤ parts.length ∧
    insertLine (joinLines finalNewline parts) position statement =
      joinLines (finalNewline || position == parts.length)
        (parts.insertIdx position statement) := by
  rw [insertLine_eq, newline]
  clear newline
  induction parts generalizing position with
  | nil => exact absurd rfl nonempty
  | cons part parts ih =>
      obtain ⟨oneLine, others⟩ := List.forall_mem_cons.1 unbroken
      cases position with
      | zero =>
          rw [Text.splitLines_zero, List.insertIdx_zero, joinLines_cons_cons,
            LineEnding.completion_of_completeLines completeLines_nil]
          simp [LineEnding.text]
      | succ position =>
          cases parts with
          | nil =>
              obtain ⟨rfl, head, cut, ended⟩ := splitLines_joinLines_singleton oneLine bound
              refine ⟨Nat.le_refl 1, ?_⟩
              rw [cut, ← List.append_assoc, ended]
              simp [joinLines, LineEnding.text]
          | cons next parts =>
              rw [joinLines_cons_cons, Text.lines_append_newline oneLine, List.length_cons,
                Nat.succ_le_succ_iff] at bound
              obtain ⟨within, inserted⟩ := ih others (List.cons_ne_nil next parts) bound
              have some_line : (next :: parts).insertIdx position statement ≠ [] := by
                apply List.ne_nil_of_length_pos
                rw [List.length_insertIdx_of_le_length within]
                exact Nat.succ_pos _
              obtain ⟨first, later, found⟩ := List.exists_cons_of_ne_nil some_line
              refine ⟨Nat.succ_le_succ within, ?_⟩
              rw [joinLines_cons_cons, Text.splitLines_succ_append_newline oneLine,
                LineEnding.completion_append_newline, List.insertIdx_succ_cons, found,
                joinLines_cons_cons, ← found, List.append_assoc, List.cons_append, inserted]
              simp

end Import

theorem carriageReturn_notMem_joinLines_source (finalNewline : Bool) (lines : List Line) :
    '\r' ∉ joinLines finalNewline (lines.map Line.source) := by
  intro member
  rcases mem_joinLines member with newline | ⟨text, among, inside⟩
  · cases newline
  · obtain ⟨line, _, rfl⟩ := List.mem_map.1 among
    exact line.notMem_source (.inr rfl) inside

/-- The import becomes one of the lines. -/
theorem Line.place_joinLines {lines : List Line} (nonempty : lines ≠ []) (finalNewline : Bool)
    {importLine : Option Nat}
    (placed : Import.placement? {} (joinLines finalNewline (lines.map source)) = importLine) :
    (∀ position ∈ importLine, position ≤ lines.length) ∧
    Import.place {} (joinLines finalNewline (lines.map source)) importLine =
      joinLines (finalNewline || importLine == some lines.length)
        ((withImport importLine lines).map source) := by
  cases importLine with
  | none => simp [Import.place, withImport]
  | some position =>
      have bound : position ≤ (joinLines finalNewline (lines.map source)).lines.length := by
        rw [Import.placement?] at placed
        split at placed
        · cases placed
        · rw [← Option.some.inj placed]
          exact Import.insertionLine_le_length _ _
      have unbroken : ∀ part ∈ lines.map source, '\n' ∉ part := by
        intro part member
        obtain ⟨line, _, rfl⟩ := List.mem_map.1 member
        exact line.notMem_source (.inl rfl)
      obtain ⟨within, inserted⟩ := Import.insertLine_joinLines unbroken (by simpa using nonempty)
        (LineEnding.ofText_eq_newline (carriageReturn_notMem_joinLines_source finalNewline lines))
        bound standardImport.source
      rw [List.length_map] at within inserted
      refine ⟨by simpa using within, ?_⟩
      rw [withImport, List.map_insertIdx]
      exact inserted

/-- The rules turn supported lines into the lines written out for them, in order, each rule the
statements that are its own, and leave no call. So does a conversion, which adds the import as a
line of its own where it is missing. A last line that is not ended is ended if the import comes
below it. -/
theorem supported_lines_converted (finalNewline : Bool) (lines : List Line) :
    Rule.applyAll {} Rule.all (joinLines finalNewline (lines.map Line.source)) =
      joinLines finalNewline (lines.flatMap Line.rendering) ∧
    (Rule.steps {} Rule.all (joinLines finalNewline (lines.map Line.source))).map
        (fun step => (step.rule, step.count)) =
      Rule.all.map (fun rule => (rule, lines.countP (fun line => line.rule? = some rule))) ∧
    (Detection.ofText (joinLines finalNewline (lines.flatMap Line.rendering))).any = false ∧
    ((∃ line ∈ lines, line.rule?.isSome = true) →
      ∃ conversion,
        convert? {} (joinLines finalNewline (lines.map Line.source)) = some conversion ∧
        conversion.replacementCount = lines.countP (fun line => line.rule?.isSome) ∧
        convert? {} conversion.text = none ∧
        (∀ position ∈ conversion.importLine, position ≤ lines.length) ∧
        ∃ finalNewline', ∃ lines' : List Line,
          finalNewline' = (finalNewline || conversion.importLine == some lines.length) ∧
          lines' = Line.withImport conversion.importLine lines ∧
          conversion.imported = joinLines finalNewline' (lines'.map Line.source) ∧
          conversion.text = joinLines finalNewline' (lines'.flatMap Line.rendering)) := by
  have quiet := Line.callCount_joinLines_rendering finalNewline lines
  have start : lines.map Line.source = lines.map (Line.textAfterRules []) :=
    List.map_congr_left (fun line _ => line.textAfterRules_nil.symm)
  refine ⟨Line.applyAll_joinLines_source finalNewline lines, ?_,
    Detection.any_ofText_eq_false_iff.2 quiet, ?_⟩
  · rw [start]
    exact Line.steps_joinLines finalNewline lines (by decide) (by simp)
  · intro present
    have counted := Line.callCount_joinLines_source finalNewline lines
    have positive := List.countP_pos_iff.2 present
    cases converted : convert? {} (joinLines finalNewline (lines.map Line.source)) with
    | none =>
        rw [convert?_eq_none_iff.1 converted] at counted
        omega
    | some conversion =>
        have replaced := Conversion.callCount_text converted
        have nonempty : lines ≠ [] := by
          rintro rfl
          cases positive
        have importLine := (convert?_eq_some_iff.1 converted).2.2.1
        have ⟨within, placed⟩ := Line.place_joinLines nonempty finalNewline importLine.symm
        have imported := Conversion.imported_eq_place converted
        rw [← importLine, placed] at imported
        have result := Conversion.text_eq_applyAll converted
        rw [imported, Line.applyAll_joinLines_source] at result
        have none := Line.callCount_joinLines_rendering
          (finalNewline || conversion.importLine == some lines.length)
          (Line.withImport conversion.importLine lines)
        rw [← result] at none
        exact ⟨conversion, rfl, by omega, convert?_eq_none_iff.2 none, within, _, _, rfl, rfl,
          imported, result⟩

/-- A guard in the `else` branch of a conditional, with a comment after it. -/
def elseGuardLine : DialogLine where
  indent := "\t".toList
  closing := some " ".toList
  rule := .confirmGuard
  statement := .guard {
    elseGap := some " ".toList
    ifGap := " ".toList
    openGap := []
    notGap := []
    call := { viaWindow := true, lead := [], message := ⟨.double, "Sure?".toList⟩, trail := [] }
    callGap := []
    closeGap := " ".toList
    returnGap := [] }
  rest := " // alert".toList
  indent_blank := by simp [Blank, isBlank]
  closing_blank := by simp [Blank, isBlank]
  admitted := by
    refine ⟨?_, ?_, ?_, ?_, ⟨?_, ?_, ?_⟩, ?_, ?_, ?_⟩ <;>
      simp [Blank, isBlank, Literal.WellFormed, Literal.allows, Quote.char]
  message_quiet := by decide
  message_unbroken := by decide
  rest_quiet := by decide
  rest_unbroken := by decide

theorem supported_lines_converted_else_guard :
    Rule.applyAll {} Rule.all
        "\n\t\x7d else if (!window.confirm(\"Sure?\")) return; // alert\n".toList =
      ("\n\t\x7d else \x7b\n\t  const confirmed = await new Promise((resolve) => \x7b\n" ++
        "\t    notificationManager.confirm(\"Sure?\", resolve);\n\t  \x7d);\n" ++
        "\t  if (!confirmed) return;\n\t\x7d // alert\n").toList ∧
    ∃ conversion,
      convert? {} "\n\t\x7d else if (!window.confirm(\"Sure?\")) return; // alert\n".toList =
        some conversion ∧
      conversion.replacementCount = 1 ∧ convert? {} conversion.text = none ∧
      conversion.imported =
        ("import notificationManager from '../../utils/notification';\n" ++
          "\n\t\x7d else if (!window.confirm(\"Sure?\")) return; // alert\n").toList := by
  have ⟨rewritten, _, _, converted⟩ :=
    supported_lines_converted true [Line.empty, .dialog elseGuardLine]
  have written : joinLines true ([Line.empty, .dialog elseGuardLine].map Line.source) =
      "\n\t\x7d else if (!window.confirm(\"Sure?\")) return; // alert\n".toList := by
    decide +kernel
  rw [written] at rewritten converted
  obtain ⟨conversion, found, replaced, settled, _, _, _, ended, added, imported, _⟩ :=
    converted ⟨.dialog elseGuardLine, by simp, rfl⟩
  have first : (convert? {}
      "\n\t\x7d else if (!window.confirm(\"Sure?\")) return; // alert\n".toList).map
        Conversion.importLine = some (some 0) := by
    decide +kernel
  rw [found] at first
  rw [Option.some.inj first] at ended added
  refine ⟨rewritten.trans ?_, conversion, found, replaced, settled, imported.trans ?_⟩
  · decide +kernel
  · rw [ended, added]
    decide +kernel

end DialogCodemod
