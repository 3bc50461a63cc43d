import DialogCodemod.Proofs.FrameworkImport
import DialogCodemod.Proofs.ImportApart
import DialogCodemod.Proofs.LeadingBlock

/-!
# The line of the import

The place of the import is found by counting lines, in one of two ways: with the pass over the
leading block, or by the newlines up to the end of an import of the framework. The text is then cut
at its newlines. The counts agree with the cut: the place is between two lines of the text, above
the first or below the last, and there the import becomes one more line.
-/

namespace DialogCodemod

/-! ## Lines up to white space -/

namespace Text

theorem trim_append_space {char : Char} (space : isSpace char = true) (text : Text) :
    trim (text ++ [char]) = text.trim := by
  rw [trim, trim, trimStart, trimStart, List.dropWhile_append]
  split
  · next blank => simp [List.isEmpty_iff.1 blank, space]
  · simp [space]

theorem trim_of_ends {first last : Char} (startsInk : isSpace first = false)
    (endsInk : isSpace last = false) (middle : Text) :
    trim (first :: (middle ++ [last])) = first :: (middle ++ [last]) := by
  simp [trim, trimStart, startsInk, endsInk]

/-- Up to white space, the lines of a text do not depend on how its first line is ended. -/
theorem map_trim_lines_append_ending {line : Text} (oneLine : '\n' ∉ line) (ending : LineEnding)
    (later : Text) :
    (lines (line ++ (ending.text ++ later))).map trim = line.trim :: later.lines.map trim := by
  cases ending with
  | newline =>
      rw [LineEnding.text, List.singleton_append, lines_append_newline oneLine, List.map_cons]
  | carriageReturnNewline =>
      have returned : '\n' ∉ line ++ ['\r'] := by
        simp [oneLine]
      have regrouped : line ++ (LineEnding.carriageReturnNewline.text ++ later) =
          (line ++ ['\r']) ++ '\n' :: later := by
        simp [LineEnding.text]
      rw [regrouped, lines_append_newline returned, List.map_cons, trim_append_space rfl]

/-- Up to white space, ending the last line leaves the lines as they are. -/
theorem map_trim_lines_append_completion (ending : LineEnding) (text : Text) :
    (lines (text ++ ending.completion text)).map trim = text.lines.map trim := by
  by_cases complete : CompleteLines text
  · rw [LineEnding.completion_of_completeLines complete, List.append_nil]
  · obtain ⟨above, line, rfl, completeAbove, oneLine⟩ := text.exists_lastLine
    have nonempty : line ≠ [] := by
      rintro rfl
      rw [List.append_nil] at complete
      exact complete completeAbove
    have ended := map_trim_lines_append_ending oneLine ending []
    rw [List.append_nil] at ended
    rw [LineEnding.completion_of_open complete, List.append_assoc, lines_append completeAbove,
      lines_append completeAbove, List.map_append, List.map_append, ended,
      lines_of_newline_notMem oneLine nonempty]
    rfl

end Text

namespace Import

/-- Up to white space, an inserted line is one more line, and the others stay in their order. -/
theorem map_trim_lines_insertLine {statement : Text} (oneLine : '\n' ∉ statement) (text : Text)
    (line : Nat) :
    (insertLine text line statement).lines.map Text.trim =
      (text.lines.take line).map Text.trim ++
        statement.trim :: (text.lines.drop line).map Text.trim := by
  have ⟨headLines, tailLines⟩ := text.lines_splitLines line
  rw [insertLine_eq, ← List.append_assoc, Text.lines_append (completeLines_append_completion _ _),
    List.map_append, Text.map_trim_lines_append_completion,
    Text.map_trim_lines_append_ending oneLine, headLines, tailLines]

/-! ## The place of the import -/

/-- Both counts stay within the lines of the text. -/
theorem insertionLine_le_length (framework text : Text) :
    insertionLine framework text ≤ text.lines.length := by
  have block := leadingBlock_le_length text
  rw [insertionLine]
  split
  · cases anchored : anchorLine? framework text with
    | none => exact Nat.zero_le _
    | some line => exact (closesAbove_of_anchorLine? anchored).le_length
  · next line counted =>
      rw [counted] at block
      exact block

/-! ## The statement as a line -/

theorem newline_notMem_importStatement {notifier : Notifier} (nameOneLine : '\n' ∉ notifier.name)
    (pathOneLine : '\n' ∉ notifier.modulePath) : '\n' ∉ notifier.importStatement := by
  unfold Notifier.importStatement
  simp only [List.mem_append, not_or]
  exact ⟨⟨⟨⟨by decide, nameOneLine⟩, by decide⟩, pathOneLine⟩, by decide⟩

theorem trim_importStatement (notifier : Notifier) :
    notifier.importStatement.trim = notifier.importStatement := by
  have opening : "import ".toList = 'i' :: "mport ".toList := by
    decide
  have closing : "';".toList = "'".toList ++ [';'] := by
    decide
  unfold Notifier.importStatement
  rw [opening, closing]
  simp only [List.cons_append, ← List.append_assoc]
  exact Text.trim_of_ends rfl rfl _

/-- The place of the import is within the text. The lines above it and the lines below it are those
of two parts of the text, and the import goes between the parts, with a line break before it where
the upper part ends in an open line. So the lines are the old ones in their order, with the import
among them, up to the line endings. -/
theorem import_inserted_as_line (notifier : Notifier) (nameOneLine : '\n' ∉ notifier.name)
    (pathOneLine : '\n' ∉ notifier.modulePath) (text : Text) :
    insertionLine notifier.framework text ≤ text.lines.length ∧
    ∃ head tail,
      text = head ++ tail ∧
      head.lines = text.lines.take (insertionLine notifier.framework text) ∧
      tail.lines = text.lines.drop (insertionLine notifier.framework text) ∧
      (head = [] ∨ head.getLast? = some '\n' ∨ tail = []) ∧
      ∀ imported, withImport? notifier text = some imported ↔
        text.mentions notifier.name = false ∧
        imported = head ++ ((LineEnding.ofText text).completion head ++
          (notifier.importStatement ++ ((LineEnding.ofText text).text ++ tail))) ∧
        imported.lines.map Text.trim =
          (text.lines.take (insertionLine notifier.framework text)).map Text.trim ++
            notifier.importStatement ::
              (text.lines.drop (insertionLine notifier.framework text)).map Text.trim := by
  generalize placed : insertionLine notifier.framework text = line
  have ⟨headLines, tailLines⟩ := text.lines_splitLines line
  have inserted := insertLine_eq text line notifier.importStatement
  have oneMore := map_trim_lines_insertLine
    (newline_notMem_importStatement nameOneLine pathOneLine) text line
  rw [trim_importStatement] at oneMore
  refine ⟨placed ▸ insertionLine_le_length notifier.framework text, (text.splitLines line).1,
    (text.splitLines line).2, (text.splitLines_append line).symm, headLines, tailLines, ?_, ?_⟩
  · rw [← or_assoc, ← completeLines_iff]
    exact (text.splitLines_complete line).symm.imp_left And.left
  · intro imported
    rw [← inserted]
    cases mentioned : text.mentions notifier.name with
    | true => simp [withImport?, placement?, mentioned]
    | false =>
        have added : withImport? notifier text =
            some (insertLine text line notifier.importStatement) := by
          simp [withImport?, placement?, mentioned, placed]
        rw [added, Option.some.injEq]
        constructor
        · rintro rfl
          exact ⟨rfl, rfl, oneMore⟩
        · rintro ⟨_, same, _⟩
          exact same.symm

/-- The import of the framework is not in the leading block and ends with the text. Its open line
gets the line ending of the others before the new line follows. -/
theorem import_inserted_as_line_below_last :
    ∃ imported,
      withImport? {} "'use client';\r\nimport React\r\nfrom 'react'".toList = some imported ∧
      imported = "'use client';\r\nimport React\r\nfrom 'react'\r\n".toList ++
        (({} : Notifier).importStatement ++ "\r\n".toList) ∧
      imported.lines.map Text.trim =
        ["'use client';".toList, "import React".toList, "from 'react'".toList,
          ({} : Notifier).importStatement] := by
  have ⟨_, head, tail, split, _, tailLines, _, inserts⟩ :=
    import_inserted_as_line {} (by decide) (by decide)
      "'use client';\r\nimport React\r\nfrom 'react'".toList
  have noLines : tail.lines = [] := tailLines.trans (by decide +kernel)
  rw [Text.eq_nil_of_lines_eq_nil noLines, List.append_nil] at split
  have ⟨imported, added⟩ := Option.isSome_iff_exists.1
    (show (withImport? {} "'use client';\r\nimport React\r\nfrom 'react'".toList).isSome = true by
      decide +kernel)
  have ⟨_, whole, lines⟩ := (inserts imported).1 added
  refine ⟨imported, added, ?_, lines.trans (by decide +kernel)⟩
  rw [whole, Text.eq_nil_of_lines_eq_nil noLines, ← split]
  decide +kernel

end Import

end DialogCodemod
