import DialogCodemod.Import.Block
import Mathlib.Order.Bounds.Defs
import Mathlib.Order.Nat

/-!
# The leading import block, declared

The leading block of a text is found by one pass over its lines, which keeps track of an import that
is still open. Here it is declared without a pass: lines are a block if they split into blank lines,
comments and whole imports and end with an import. The pass finds the longest block with which the
text begins.
-/

namespace DialogCodemod.Import

/-! ## Blocks -/

/-- A blank line or a comment, as far as its first characters tell. -/
def QuietLine (line : Text) : Prop :=
  line = [] ∨ "//".toList <+: line ∨ "/*".toList <+: line ∨ "*".toList <+: line

/-- The lines of one import: a line that is complete by itself, or a line that is not, further lines
that do not close the import, and the line that does. -/
inductive ImportLines : List Text → Prop where
  | single {line : Text} (starts : startsImport line = true)
      (ends : closesImport line = true ∨ isEffectImport line = true) : ImportLines [line]
  | spread {first last : Text} {inner : List Text} (starts : startsImport first = true)
      (unclosed : closesImport first = false) (noEffect : isEffectImport first = false)
      (innerUnclosed : ∀ line ∈ inner, closesImport line = false)
      (closes : closesImport last = true) : ImportLines (first :: (inner ++ [last]))

/-- The segments of a block: a quiet line or an import. -/
inductive BlockSegment : List Text → Prop where
  | quiet {line : Text} (quiet : QuietLine line) : BlockSegment [line]
  | statement {lines : List Text} (statement : ImportLines lines) : BlockSegment lines

/-- Lines that split into segments, the last of them an import. -/
def ImportBlock (lines : List Text) : Prop :=
  ∃ (segments : List (List Text)) (statement : List Text),
    lines = segments.flatten ++ statement ∧ (∀ segment ∈ segments, BlockSegment segment) ∧
    ImportLines statement

theorem ImportLines.length_pos {lines : List Text} (statement : ImportLines lines) :
    0 < lines.length := by
  cases statement <;> simp

theorem ImportLines.importBlock {lines : List Text} (statement : ImportLines lines) :
    ImportBlock lines :=
  ⟨[], lines, rfl, by simp, statement⟩

/-- A segment before a block makes a longer one. -/
theorem ImportBlock.append {segment lines : List Text} (block : ImportBlock lines)
    (first : BlockSegment segment) : ImportBlock (segment ++ lines) := by
  obtain ⟨segments, statement, rfl, all, last⟩ := block
  exact ⟨segment :: segments, statement, by simp, List.forall_mem_cons.2 ⟨first, all⟩, last⟩

/-! ## The roles of lines -/

section Roles

variable {line : Text}

theorem isSome_after?_iff {word : Text} :
    (Text.after? word line).isSome = true ↔ word <+: line := by
  rw [Option.isSome_iff_exists, List.prefix_iff_exists_append_eq]
  exact exists_congr fun rest => Text.after?_eq_some_iff.trans eq_comm

theorem quietLine_iff : QuietLine line ↔ (line.isEmpty || isComment line) = true := by
  have star : "*".toList <+: line ↔ (line.head? == some '*') = true := by
    rw [beq_iff_eq, List.head?_eq_some_iff, List.prefix_iff_exists_append_eq]
    exact exists_congr fun rest => eq_comm
  rw [QuietLine, isComment, Bool.or_eq_true, Bool.or_eq_true, Bool.or_eq_true, List.isEmpty_iff,
    isSome_after?_iff, isSome_after?_iff, star, or_assoc]

instance (line : Text) : Decidable (QuietLine line) :=
  decidable_of_iff' _ quietLine_iff

/-- No import is a blank line or a comment. -/
theorem QuietLine.startsImport_eq_false (quiet : QuietLine line) : startsImport line = false := by
  cases found : Text.after? "import".toList line with
  | none => rw [startsImport, found]
  | some rest =>
      rw [Text.after?_eq_some_iff] at found
      rcases quiet with empty | ⟨_, comment⟩ | ⟨_, comment⟩ | ⟨_, comment⟩
      · rw [empty] at found
        cases found
      all_goals
        rw [← comment] at found
        cases found

namespace LineRole

theorem ofLine_eq_quiet_iff : ofLine line = .quiet ↔ QuietLine line := by
  constructor
  · intro role
    rw [quietLine_iff]
    unfold ofLine at role
    split at role
    · split at role <;> cases role
    · split at role
      next quiet => exact quiet
      next => cases role
  · intro quiet
    rw [ofLine, quiet.startsImport_eq_false, quietLine_iff.1 quiet]
    rfl

theorem ofLine_eq_closedImport_iff : ofLine line = .closedImport ↔
    startsImport line = true ∧ (closesImport line = true ∨ isEffectImport line = true) := by
  grind [ofLine]

theorem ofLine_eq_openImport_iff : ofLine line = .openImport ↔
    startsImport line = true ∧ closesImport line = false ∧ isEffectImport line = false := by
  grind [ofLine]

theorem ofLine_eq_code_iff : ofLine line = .code ↔ startsImport line = false ∧ ¬QuietLine line := by
  grind [ofLine, quietLine_iff]

end LineRole

end Roles

/-! ## The pass over a block -/

theorem extendBlock_of_pos {length : Nat} (positive : 0 < length) :
    extendBlock length = length + 1 := by
  cases length with
  | zero => cases positive
  | succ length => rfl

theorem blockLength_le_length (importOpen : Bool) (lines : List Text) :
    blockLength importOpen lines ≤ lines.length := by
  have extended (length : Nat) : extendBlock length ≤ length + 1 := by
    cases length <;> simp [extendBlock]
  induction lines generalizing importOpen with
  | nil => rfl
  | cons line later ih =>
      have opened := Nat.le_trans (extended _) (Nat.succ_le_succ (ih true))
      have passed := Nat.le_trans (extended _) (Nat.succ_le_succ (ih false))
      cases importOpen with
      | true =>
          rw [blockLength, if_pos rfl]
          split
          · exact Nat.succ_le_succ (ih false)
          · exact opened
      | false =>
          simp only [blockLength, Bool.false_eq_true, if_false]
          split
          · exact Nat.succ_le_succ (ih false)
          · exact opened
          · exact passed
          · exact Nat.zero_le _

theorem leadingBlock_le_length (text : Text) : leadingBlock text ≤ text.lines.length := by
  have bound := blockLength_le_length false (text.lines.map Text.trim)
  rw [List.length_map] at bound
  exact bound

section Steps

variable {line : Text}

theorem blockLength_of_closedImport (role : LineRole.ofLine line = .closedImport)
    (later : List Text) : blockLength false (line :: later) = blockLength false later + 1 := by
  simp [blockLength, role]

theorem blockLength_of_openImport (role : LineRole.ofLine line = .openImport)
    (later : List Text) :
    blockLength false (line :: later) = extendBlock (blockLength true later) := by
  simp [blockLength, role]

theorem blockLength_of_quiet (role : LineRole.ofLine line = .quiet) (later : List Text) :
    blockLength false (line :: later) = extendBlock (blockLength false later) := by
  simp [blockLength, role]

theorem blockLength_of_code (role : LineRole.ofLine line = .code) (later : List Text) :
    blockLength false (line :: later) = 0 := by
  simp [blockLength, role]

end Steps

/-- An open import is passed up to the line that closes it. -/
theorem blockLength_true_append {inner : List Text} {last : Text}
    (unclosed : ∀ line ∈ inner, closesImport line = false) (closes : closesImport last = true)
    (later : List Text) :
    blockLength true (inner ++ last :: later) = blockLength false later + (inner.length + 1) := by
  induction inner with
  | nil => simp [blockLength, closes]
  | cons line inner ih =>
      rw [List.forall_mem_cons] at unclosed
      have rest := ih unclosed.2
      have positive : 0 < blockLength true (inner ++ last :: later) := by
        omega
      rw [List.cons_append, blockLength, if_pos rfl, if_neg (by simp [unclosed.1]),
        extendBlock_of_pos positive, rest, List.length_cons]
      omega

/-- An import is passed as a whole. -/
theorem ImportLines.blockLength_append {lines : List Text} (statement : ImportLines lines)
    (later : List Text) :
    blockLength false (lines ++ later) = blockLength false later + lines.length := by
  cases statement with
  | single starts ends =>
      exact blockLength_of_closedImport (LineRole.ofLine_eq_closedImport_iff.2 ⟨starts, ends⟩) later
  | @spread first last inner starts unclosed noEffect innerUnclosed closes =>
      have role := LineRole.ofLine_eq_openImport_iff.2 ⟨starts, unclosed, noEffect⟩
      have rest := blockLength_true_append innerUnclosed closes later
      rw [List.cons_append, List.append_assoc, List.singleton_append,
        blockLength_of_openImport role, rest, extendBlock_of_pos (by omega), List.length_cons,
        List.length_append, List.length_singleton]
      omega

/-- A segment belongs to the block of the lines behind it, if they have one. -/
theorem BlockSegment.blockLength_append {lines later : List Text} (segment : BlockSegment lines)
    (found : 0 < blockLength false later) :
    blockLength false (lines ++ later) = blockLength false later + lines.length := by
  cases segment with
  | quiet quiet =>
      rw [List.singleton_append, blockLength_of_quiet (LineRole.ofLine_eq_quiet_iff.2 quiet),
        extendBlock_of_pos found, List.length_singleton]
  | statement statement => exact statement.blockLength_append later

/-- A block is passed as a whole, and what follows it is passed as if it stood alone. -/
theorem ImportBlock.blockLength_append {lines : List Text} (block : ImportBlock lines)
    (later : List Text) :
    blockLength false (lines ++ later) = blockLength false later + lines.length := by
  obtain ⟨segments, statement, rfl, all, last⟩ := block
  induction segments with
  | nil => exact last.blockLength_append later
  | cons segment segments ih =>
      rw [List.forall_mem_cons] at all
      have rest := ih all.2
      have found : 0 < blockLength false (segments.flatten ++ statement ++ later) := by
        have nonempty := last.length_pos
        rw [rest, List.length_append]
        omega
      rw [List.flatten_cons, List.append_assoc segment, List.append_assoc segment,
        all.1.blockLength_append found, rest]
      simp only [List.length_append]
      omega

/-- The pass does not stop inside a block. -/
theorem ImportBlock.length_le_blockLength {lines : List Text} (block : ImportBlock lines)
    (later : List Text) : lines.length ≤ blockLength false (lines ++ later) := by
  rw [block.blockLength_append later]
  exact Nat.le_add_left _ _

/-! ## What the pass has found -/

/-- Lines that close an open import, and a block behind them or nothing. -/
def ClosingBlock (lines : List Text) : Prop :=
  ∃ inner last later, lines = inner ++ last :: later ∧
    (∀ line ∈ inner, closesImport line = false) ∧ closesImport last = true ∧
    (later = [] ∨ ImportBlock later)

/-- What the lines up to the end of the block are, if an import is open before them or not. -/
def BlockFrom : (importOpen : Bool) → List Text → Prop
  | true => ClosingBlock
  | false => ImportBlock

/-- What the pass has found is a block, unless it has found nothing. -/
theorem blockFrom_take_blockLength (importOpen : Bool) (lines : List Text) :
    blockLength importOpen lines = 0 ∨
      BlockFrom importOpen (lines.take (blockLength importOpen lines)) := by
  induction lines generalizing importOpen with
  | nil => exact .inl rfl
  | cons line later ih =>
      -- A line before a block is taken along; without a block nothing is found.
      have extended {before behind : Bool} (longer : ∀ {lines}, BlockFrom behind lines →
            BlockFrom before (line :: lines)) :
          extendBlock (blockLength behind later) = 0 ∨
            BlockFrom before ((line :: later).take (extendBlock (blockLength behind later))) := by
        have found := ih behind
        cases length : blockLength behind later with
        | zero => exact .inl rfl
        | succ length =>
            rw [length] at found
            exact .inr (longer (found.resolve_left (Nat.succ_ne_zero _)))
      -- A line that ends an import is found in any case.
      have ended {before : Bool} (alone : BlockFrom before [line])
          (longer : ∀ {lines}, ImportBlock lines → BlockFrom before (line :: lines)) :
          BlockFrom before ((line :: later).take (blockLength false later + 1)) := by
        rw [List.take_succ_cons]
        rcases ih false with none | found
        · rw [none]
          exact alone
        · exact longer found
      cases importOpen with
      | true =>
          rw [blockLength, if_pos rfl]
          split
          next closes =>
            refine .inr (ended ⟨[], line, [], rfl, by simp, closes, .inl rfl⟩ ?_)
            intro lines block
            exact ⟨[], line, lines, rfl, by simp, closes, .inr block⟩
          next unclosed =>
            apply extended
            rintro _ ⟨inner, last, rest, rfl, innerUnclosed, closes, block⟩
            refine ⟨line :: inner, last, rest, rfl, ?_, closes, block⟩
            exact List.forall_mem_cons.2 ⟨eq_false_of_ne_true unclosed, innerUnclosed⟩
      | false =>
          cases role : LineRole.ofLine line with
          | closedImport =>
              have ⟨starts, ends⟩ := LineRole.ofLine_eq_closedImport_iff.1 role
              have statement := ImportLines.single starts ends
              rw [blockLength_of_closedImport role]
              refine .inr (ended statement.importBlock ?_)
              intro lines block
              exact block.append (.statement statement)
          | openImport =>
              have ⟨starts, unclosed, noEffect⟩ := LineRole.ofLine_eq_openImport_iff.1 role
              rw [blockLength_of_openImport role]
              apply extended
              rintro _ ⟨inner, last, rest, rfl, innerUnclosed, closes, block⟩
              have statement := ImportLines.spread starts unclosed noEffect innerUnclosed closes
              rcases block with rfl | block
              · exact statement.importBlock
              · have longer := block.append (.statement statement)
                rw [List.cons_append, List.append_assoc] at longer
                exact longer
          | quiet =>
              have quiet := BlockSegment.quiet (LineRole.ofLine_eq_quiet_iff.1 role)
              rw [blockLength_of_quiet role]
              exact extended fun block => block.append quiet
          | code => exact .inl (blockLength_of_code role later)

/-- A line of a segment is a quiet one, or the segment is an import. -/
theorem BlockSegment.importLines {before after : List Text} {line : Text}
    (segment : BlockSegment (before ++ line :: after)) (loud : ¬QuietLine line) :
    ImportLines (before ++ line :: after) := by
  generalize whole : before ++ line :: after = lines at segment ⊢
  cases segment with
  | statement statement => exact statement
  | @quiet only quiet =>
      have member : line ∈ [only] := by
        rw [← whole]
        simp
      rw [List.mem_singleton.1 member] at loud
      exact absurd quiet loud

/-- Every line of a block is a quiet one, or it lies in an import. -/
theorem ImportBlock.exists_importLines {before after : List Text} {line : Text}
    (block : ImportBlock (before ++ line :: after)) (loud : ¬QuietLine line) :
    ∃ earlier first inner later, before = earlier ++ first ∧ after = inner ++ later ∧
      ImportLines (first ++ line :: inner) := by
  obtain ⟨segments, statement, split, all, last⟩ := block
  induction segments generalizing before with
  | nil =>
      rw [List.flatten_nil, List.nil_append] at split
      exact ⟨[], before, after, [], rfl, by simp, split ▸ last⟩
  | cons segment segments ih =>
      rw [List.forall_mem_cons] at all
      rw [List.flatten_cons, List.append_assoc] at split
      by_cases behind : ∃ passed, before = segment ++ passed
      · obtain ⟨passed, rfl⟩ := behind
        rw [List.append_assoc, List.append_cancel_left_eq] at split
        obtain ⟨earlier, first, inner, later, rfl, rfl, found⟩ := ih split all.2
        exact ⟨segment ++ earlier, first, inner, later, by simp, rfl, found⟩
      · -- The first segment goes on with the line.
        rcases List.append_eq_append_iff.1 split with ⟨rest, inside, same⟩ | ⟨passed, ends, _⟩
        · cases rest with
          | nil => exact absurd ⟨[], by simpa using inside.symm⟩ behind
          | cons next rest =>
              rw [List.cons_append, List.cons.injEq] at same
              obtain ⟨rfl, rfl⟩ := same
              rw [inside] at all
              exact ⟨[], before, rest, _, rfl, rfl, all.1.importLines loud⟩
        · exact absurd ⟨passed, ends⟩ behind

/-- The leading block is the longest block of whole lines with which a text begins, and it has no
lines if there is none. A line of it that is neither blank nor a comment lies in an import. -/
theorem leading_block_is_longest (text : Text) :
    IsGreatest {length | length = 0 ∨
        length ≤ text.lines.length ∧ ImportBlock ((text.lines.map Text.trim).take length)}
      (leadingBlock text) ∧
    ∀ before line after,
      (text.lines.map Text.trim).take (leadingBlock text) = before ++ line :: after →
      ¬QuietLine line →
      ∃ earlier first inner later, before = earlier ++ first ∧ after = inner ++ later ∧
        ImportLines (first ++ line :: inner) := by
  have found := blockFrom_take_blockLength false (text.lines.map Text.trim)
  have bound := leadingBlock_le_length text
  refine ⟨⟨found.imp_right fun block => ⟨bound, block⟩, ?_⟩, ?_⟩
  · rintro length (rfl | ⟨available, block⟩)
    · exact Nat.zero_le _
    · have longest := block.length_le_blockLength ((text.lines.map Text.trim).drop length)
      rw [List.take_append_drop, List.length_take, List.length_map,
        Nat.min_eq_left available] at longest
      exact longest
  · intro before line after split loud
    rw [leadingBlock] at split
    rcases found with none | block
    · rw [none] at split
      simp at split
    · rw [split] at block
      exact ImportBlock.exists_importLines block loud

/-- A text with an import of three lines, and another one behind other code. -/
def spreadImportText : Text :=
  "// a\nimport \x7b\n  b\n\x7d from 'c';\n\nx();\nimport d from 'd';\n".toList

/-- The comment and the import of three lines are the block, which ends before the blank line. -/
theorem leading_block_is_longest_spread_import :
    IsGreatest {length | length = 0 ∨
      length ≤ 7 ∧ ImportBlock ((spreadImportText.lines.map Text.trim).take length)} 4 ∧
    ∃ earlier first inner later,
      ["// a".toList, "import \x7b".toList] = earlier ++ first ∧
      ["\x7d from 'c';".toList] = inner ++ later ∧ ImportLines (first ++ "b".toList :: inner) := by
  have ⟨longest, inside⟩ := leading_block_is_longest spreadImportText
  have lines : spreadImportText.lines.length = 7 := by
    decide +kernel
  have block : leadingBlock spreadImportText = 4 := by
    decide +kernel
  rw [lines, block] at longest
  exact ⟨longest, inside ["// a".toList, "import \x7b".toList] "b".toList
    ["\x7d from 'c';".toList] (by decide +kernel) (by decide +kernel)⟩

end DialogCodemod.Import
