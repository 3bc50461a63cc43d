import DialogCodemod.Proofs.ImportPosition

/-!
# The import extends the leading block

A new import goes below the leading block, and there it belongs to the block: it is complete on its
own line, and the pass over the lines is outside any import before it and behind it. So the lines
below it mean what they meant before, also an import that is opened there and never closed.
-/

namespace DialogCodemod.Import

/-- The import of a notifier is complete on its own line. -/
theorem ofLine_importStatement (notifier : Notifier) :
    LineRole.ofLine notifier.importStatement = .closedImport := by
  have opening : "import ".toList = "import".toList ++ [' '] := by
    decide
  have closing : "';".toList = "'".toList ++ [';'] := by
    decide
  have starts : startsImport notifier.importStatement = true := by
    unfold Notifier.importStatement startsImport
    rw [opening]
    simp only [List.append_assoc, Text.after?_append]
    rfl
  have ends : notifier.importStatement.getLast? = some ';' := by
    unfold Notifier.importStatement
    rw [closing, ← List.append_assoc, List.getLast?_concat]
  refine LineRole.ofLine_eq_closedImport_iff.2 ⟨starts, .inl ?_⟩
  rw [closesImport, ends]
  rfl

/-- A complete import below the leading block belongs to it, and the lines behind it are passed as
before. -/
theorem blockLength_insert {statement : Text} (role : LineRole.ofLine statement = .closedImport)
    (lines further : List Text) :
    blockLength false (lines.take (blockLength false lines) ++
        statement :: (lines.drop (blockLength false lines) ++ further)) =
      blockLength false (lines ++ further) + 1 := by
  rcases blockFrom_take_blockLength false lines with none | block
  · rw [none, List.take_zero, List.drop_zero, List.nil_append,
      blockLength_of_closedImport role]
  · have passed := ImportBlock.blockLength_append block
      (lines.drop (blockLength false lines) ++ further)
    rw [← List.append_assoc, List.take_append_drop] at passed
    rw [ImportBlock.blockLength_append block, blockLength_of_closedImport role, passed]
    omega

/-- The leading block comes first when a place for the import is looked for. -/
theorem insertionLine_eq_leadingBlock {framework text : Text}
    (placed : 0 < leadingBlock text ∨ anchorLine? framework text = none) :
    insertionLine framework text = leadingBlock text := by
  rw [insertionLine]
  split
  · next empty =>
      rw [empty] at placed ⊢
      rw [placed.resolve_left (Nat.lt_irrefl 0)]
      rfl
  · next counted => exact counted.symm

/-- If the text has a leading block, or no import of the framework that shows another place, then a
new import becomes the last line of the leading block. Whatever lines were to follow the text, its
block is longer by this line and no other. -/
theorem import_joins_leading_block (notifier : Notifier) (nameOneLine : '\n' ∉ notifier.name)
    (pathOneLine : '\n' ∉ notifier.modulePath) (text imported : Text)
    (added : withImport? notifier text = some imported)
    (placed : 0 < leadingBlock text ∨ anchorLine? notifier.framework text = none) :
    leadingBlock imported = leadingBlock text + 1 ∧
    (imported.lines.map Text.trim)[leadingBlock text]? = some notifier.importStatement ∧
    LineRole.ofLine notifier.importStatement = .closedImport ∧
    ∀ further, blockLength false (imported.lines.map Text.trim ++ further) =
      blockLength false (text.lines.map Text.trim ++ further) + 1 := by
  obtain ⟨line, chosen, rfl⟩ := Option.map_eq_some_iff.1 added
  have below : line = leadingBlock text := by
    rw [placement?] at chosen
    split at chosen
    · cases chosen
    · rw [← insertionLine_eq_leadingBlock placed]
      exact (Option.some.inj chosen).symm
  have oneMore := map_trim_lines_insertLine
    (newline_notMem_importStatement nameOneLine pathOneLine) text line
  rw [trim_importStatement, below, List.map_take, List.map_drop] at oneMore
  have role := ofLine_importStatement notifier
  have joined (further : List Text) :
      blockLength false
          ((insertLine text line notifier.importStatement).lines.map Text.trim ++ further) =
        blockLength false (text.lines.map Text.trim ++ further) + 1 := by
    rw [below, oneMore, List.append_assoc, List.cons_append]
    exact blockLength_insert role (text.lines.map Text.trim) further
  refine ⟨?_, ?_, role, joined⟩
  · have alone := joined []
    rw [List.append_nil, List.append_nil] at alone
    exact alone
  · have above : ((text.lines.map Text.trim).take (leadingBlock text)).length =
        leadingBlock text := by
      rw [List.length_take, List.length_map, Nat.min_eq_left (leadingBlock_le_length text)]
    rw [below, oneMore, List.getElem?_append_right (by omega), above, Nat.sub_self]
    rfl

/-- Behind the block an import is opened and never closed, and the last line is open. -/
theorem import_joins_leading_block_unclosed :
    ∃ imported,
      withImport? {} "import a from 'a'\r\n\r\nimport \x7b\r\n  b".toList = some imported ∧
      leadingBlock imported = 2 ∧
      (imported.lines.map Text.trim)[1]? = some ({} : Notifier).importStatement ∧
      ∀ further, blockLength false (imported.lines.map Text.trim ++ further) =
        blockLength false (["import a from 'a'".toList, [], "import \x7b".toList, "b".toList] ++
          further) + 1 := by
  have block : leadingBlock "import a from 'a'\r\n\r\nimport \x7b\r\n  b".toList = 1 := by
    decide +kernel
  have lines : (Text.lines "import a from 'a'\r\n\r\nimport \x7b\r\n  b".toList).map Text.trim =
      ["import a from 'a'".toList, [], "import \x7b".toList, "b".toList] := by
    decide +kernel
  have ⟨imported, added⟩ := Option.isSome_iff_exists.1
    (show (withImport? {} "import a from 'a'\r\n\r\nimport \x7b\r\n  b".toList).isSome = true by
      decide +kernel)
  have ⟨longer, last, _, passed⟩ := import_joins_leading_block {} (by decide) (by decide) _ imported
    added (.inl (by rw [block]; exact Nat.one_pos))
  rw [block] at longer last
  rw [lines] at passed
  exact ⟨imported, added, longer, last, passed⟩

end DialogCodemod.Import
