import DialogCodemod.Proofs.Scan
import Mathlib.Algebra.GroupWithZero.Nat

/-!
# Lines of a text

A text is the lines it was joined from, and is cut between lines by their number. What never looks
across a newline, such as a rewrite or a count of sites, is known from what it does to each line.
-/

namespace DialogCodemod

/-- A text without carriage returns ends its lines with newlines. -/
theorem LineEnding.ofText_eq_newline {text : Text} (absent : '\r' ∉ text) :
    ofText text = .newline := by
  fun_induction ofText text with
  | case1 => rfl
  | case2 => simp at absent
  | case3 => rfl
  | case4 char rest _ _ ih => exact ih (fun member => absent (List.mem_cons_of_mem char member))

theorem CompleteLines.of_append_newline {line later : Text}
    (complete : CompleteLines (line ++ '\n' :: later)) : CompleteLines later := by
  intro last member
  apply complete last
  rw [List.getLast?_append, List.getLast?_cons, Option.mem_def.1 member]
  rfl

theorem CompleteLines.eq_nil_of_notMem {text : Text} (complete : CompleteLines text)
    (oneLine : '\n' ∉ text) : text = [] := by
  rcases complete.eq_nil_or_concat with empty | ⟨front, rfl⟩
  · exact empty
  · simp at oneLine

namespace Text

/-- Induction over the lines of a text. -/
@[elab_as_elim]
theorem lineInduction {motive : Text → Prop} (lastLine : ∀ line, '\n' ∉ line → motive line)
    (newline : ∀ line later, '\n' ∉ line → motive later → motive (line ++ '\n' :: later))
    (text : Text) : motive text := by
  by_cases broken : '\n' ∈ text
  · obtain ⟨line, later, split, oneLine⟩ := List.eq_append_cons_of_mem broken
    rw [split]
    exact newline line later oneLine (lineInduction lastLine newline later)
  · exact lastLine text broken
termination_by text.length
decreasing_by
  rw [split]
  simp
  omega

theorem lines_of_newline_notMem {line : Text} (oneLine : '\n' ∉ line) (nonempty : line ≠ []) :
    line.lines = [line] := by
  induction line with
  | nil => exact absurd rfl nonempty
  | cons char line ih =>
      rw [List.mem_cons, not_or] at oneLine
      rw [lines, if_neg (Ne.symm oneLine.1)]
      cases line with
      | nil => rfl
      | cons next line => rw [ih oneLine.2 (List.cons_ne_nil next line)]

theorem lines_append_newline {line : Text} (oneLine : '\n' ∉ line) (later : Text) :
    (line ++ '\n' :: later).lines = line :: later.lines := by
  induction line with
  | nil => rfl
  | cons char line ih =>
      rw [List.mem_cons, not_or] at oneLine
      rw [List.cons_append, lines, if_neg (Ne.symm oneLine.1), ih oneLine.2]

/-- The lines behind complete lines are those of the text that follows. -/
theorem lines_append {before : Text} (complete : CompleteLines before) (later : Text) :
    (before ++ later).lines = before.lines ++ later.lines := by
  induction before using lineInduction with
  | lastLine line oneLine =>
      rw [complete.eq_nil_of_notMem oneLine]
      rfl
  | newline line rest oneLine ih =>
      rw [List.append_assoc, List.cons_append, lines_append_newline oneLine,
        lines_append_newline oneLine, ih complete.of_append_newline, List.cons_append]

theorem eq_nil_of_lines_eq_nil {text : Text} (none : text.lines = []) : text = [] := by
  cases text with
  | nil => rfl
  | cons char rest =>
      rw [lines] at none
      split at none
      · cases none
      · split at none <;> cases none

/-! ### The number of lines -/

/-- The last line of a text is what follows its last newline. -/
theorem exists_lastLine (text : Text) :
    ∃ above line, text = above ++ line ∧ CompleteLines above ∧ '\n' ∉ line := by
  by_cases broken : '\n' ∈ text.reverse
  · obtain ⟨near, far, split, oneLine⟩ := List.eq_append_cons_of_mem broken
    refine ⟨far.reverse ++ ['\n'], near.reverse, ?_, by simp [CompleteLines], ?_⟩
    · rw [← List.reverse_reverse text, split]
      simp
    · rw [List.mem_reverse]
      exact oneLine
  · exact ⟨[], text, rfl, completeLines_nil, by simpa using broken⟩

/-- Complete lines are as many as their newlines. -/
theorem length_lines_of_completeLines {text : Text} (complete : CompleteLines text) :
    text.lines.length = text.newlineCount := by
  induction text using lineInduction with
  | lastLine line oneLine =>
      rw [complete.eq_nil_of_notMem oneLine]
      rfl
  | newline line later oneLine ih =>
      rw [lines_append_newline oneLine, List.length_cons, ih complete.of_append_newline,
        newlineCount, newlineCount, List.count_append, List.count_eq_zero_of_not_mem oneLine,
        List.count_cons_self, Nat.zero_add]

/-- A text that goes on within a line has more lines than newlines up to there. -/
theorem newlineCount_lt_length_lines {char : Char} (inside : char ≠ '\n') (before after : Text) :
    (before ++ [char]).newlineCount < (before ++ char :: after).lines.length := by
  obtain ⟨above, line, rfl, complete, oneLine⟩ := before.exists_lastLine
  have breaks : (above ++ line ++ [char]).newlineCount = above.newlineCount := by
    simp [newlineCount, List.count_eq_zero_of_not_mem oneLine, inside]
  have furtherLines : 0 < (line ++ char :: after).lines.length := by
    rw [List.length_pos_iff]
    intro none
    simpa using eq_nil_of_lines_eq_nil none
  rw [breaks, List.append_assoc, lines_append complete, List.length_append,
    length_lines_of_completeLines complete]
  omega

/-! ### Cutting between lines -/

theorem splitLines_zero (text : Text) : text.splitLines 0 = ([], text) := by
  rw [splitLines]

theorem splitLines_succ_of_notMem {line : Text} (oneLine : '\n' ∉ line) (count : Nat) :
    line.splitLines (count + 1) = (line, []) := by
  induction line with
  | nil => rfl
  | cons char line ih =>
      rw [List.mem_cons, not_or] at oneLine
      rw [splitLines, if_neg (Ne.symm oneLine.1), ih oneLine.2]

theorem splitLines_succ_append_newline {line : Text} (oneLine : '\n' ∉ line) (count : Nat)
    (later : Text) :
    (line ++ '\n' :: later).splitLines (count + 1) =
      (line ++ '\n' :: (later.splitLines count).1, (later.splitLines count).2) := by
  induction line with
  | nil => rfl
  | cons char line ih =>
      rw [List.mem_cons, not_or] at oneLine
      rw [List.cons_append, splitLines, if_neg (Ne.symm oneLine.1), ih oneLine.2]
      rfl

/-- Cutting a text after some of its lines cuts the list of its lines. -/
theorem lines_splitLines (count : Nat) (text : Text) :
    (text.splitLines count).1.lines = text.lines.take count ∧
      (text.splitLines count).2.lines = text.lines.drop count := by
  induction text using lineInduction generalizing count with
  | lastLine line oneLine =>
      cases count with
      | zero =>
          rw [splitLines_zero]
          exact ⟨rfl, rfl⟩
      | succ count =>
          rw [splitLines_succ_of_notMem oneLine]
          by_cases empty : line = []
          · rw [empty]
            exact ⟨rfl, rfl⟩
          · rw [lines_of_newline_notMem oneLine empty, List.take_succ_cons, List.drop_succ_cons,
              List.take_nil, List.drop_nil]
            exact ⟨rfl, rfl⟩
  | newline line later oneLine ih =>
      cases count with
      | zero =>
          rw [splitLines_zero]
          exact ⟨rfl, rfl⟩
      | succ count =>
          rw [splitLines_succ_append_newline oneLine, lines_append_newline oneLine,
            lines_append_newline oneLine, (ih count).1, (ih count).2]
          exact ⟨rfl, rfl⟩

end Text

/-! ## Lines joined into a text -/

/-- Join lines by newlines, and end the last one if asked to. -/
def joinLines (finalNewline : Bool) (lines : List Text) : Text :=
  ['\n'].intercalate lines ++ (if finalNewline then ['\n'] else [])

theorem joinLines_cons_cons (finalNewline : Bool) (line next : Text) (later : List Text) :
    joinLines finalNewline (line :: next :: later) =
      line ++ '\n' :: joinLines finalNewline (next :: later) := by
  simp [joinLines, List.intercalate_cons_cons]

/-- What is counted apart in the texts before and after a newline is added up over the lines. -/
theorem count_joinLines {count : Text → Nat} (empty : count [] = 0)
    (additive : ∀ line later, count (line ++ '\n' :: later) = count line + count later)
    (finalNewline : Bool) (lines : List Text) :
    count (joinLines finalNewline lines) = (lines.map count).sum := by
  have ended (line : Text) :
      count (line ++ (if finalNewline then ['\n'] else [])) = count line := by
    cases finalNewline with
    | false => exact congrArg count (List.append_nil line)
    | true => exact (additive line []).trans (by rw [empty, Nat.add_zero])
  induction lines with
  | nil => exact (ended []).trans empty
  | cons line later ih =>
      cases later with
      | nil => simp [joinLines, ended]
      | cons next later =>
          rw [joinLines_cons_cons, additive, ih]
          exact List.sum_cons.symm

/-- Lines are rewritten one by one. -/
theorem Rule.rewrite_joinLines (rule : Rule) (notifier : Notifier) (ending : LineEnding)
    (finalNewline : Bool) (lines : List Text) :
    rule.rewrite notifier ending (joinLines finalNewline lines) =
      joinLines finalNewline (lines.map (rule.rewrite notifier ending)) := by
  have ended (line : Text) :
      rule.rewrite notifier ending (line ++ (if finalNewline then ['\n'] else [])) =
        rule.rewrite notifier ending line ++ (if finalNewline then ['\n'] else []) := by
    cases finalNewline with
    | false => simp
    | true =>
        have split := @rule.rewrite_append_newline notifier ending line []
        rw [rewrite_nil] at split
        exact split
  induction lines with
  | nil =>
      have whole := ended []
      rw [rewrite_nil] at whole
      exact whole
  | cons line later ih =>
      cases later with
      | nil => simp [joinLines, ended]
      | cons next later =>
          rw [joinLines_cons_cons, rewrite_append_newline, ih, List.map_cons, List.map_cons,
            List.map_cons, joinLines_cons_cons]

theorem mem_joinLines {char : Char} {finalNewline : Bool} {lines : List Text}
    (member : char ∈ joinLines finalNewline lines) :
    char = '\n' ∨ ∃ line ∈ lines, char ∈ line := by
  have ended {line : Text} (found : char ∈ line ++ (if finalNewline then ['\n'] else [])) :
      char = '\n' ∨ char ∈ line := by
    cases finalNewline with
    | false => exact .inr (by simpa using found)
    | true => exact (List.mem_append.1 found).symm.imp_left List.mem_singleton.1
  induction lines with
  | nil => exact .inl ((ended member).resolve_right List.not_mem_nil)
  | cons line later ih =>
      cases later with
      | nil =>
          rw [joinLines, List.intercalate_singleton] at member
          exact (ended member).imp_right (fun found => ⟨line, List.mem_cons_self, found⟩)
      | cons next later =>
          rw [joinLines_cons_cons, List.mem_append, List.mem_cons] at member
          rcases member with found | found | found
          · exact .inr ⟨line, List.mem_cons_self, found⟩
          · exact .inl found
          · exact (ih found).imp_right
              (fun ⟨other, among, inside⟩ => ⟨other, List.mem_cons_of_mem line among, inside⟩)

theorem intercalate_append {first later : List Text} (some_first : first ≠ [])
    (some_later : later ≠ []) :
    ['\n'].intercalate (first ++ later) =
      ['\n'].intercalate first ++ ['\n'] ++ ['\n'].intercalate later := by
  induction first with
  | nil => exact absurd rfl some_first
  | cons line first ih =>
      cases first with
      | nil => rw [List.singleton_append, List.intercalate_cons_of_ne_nil some_later,
          List.intercalate_singleton]
      | cons next first =>
          rw [List.cons_append, List.cons_append, List.intercalate_cons_cons,
            List.intercalate_cons_cons, ← List.cons_append, ih (List.cons_ne_nil next first)]
          simp only [List.append_assoc]

/-- Lines that are themselves joined from lines are joined all at once. -/
theorem joinLines_map_intercalate {α : Type} {parts : α → List Text}
    (nonempty : ∀ item, parts item ≠ []) (finalNewline : Bool) (items : List α) :
    joinLines finalNewline (items.map (fun item => ['\n'].intercalate (parts item))) =
      joinLines finalNewline (items.flatMap parts) := by
  rw [joinLines, joinLines]
  congr 1
  induction items with
  | nil => rfl
  | cons item items ih =>
      cases items with
      | nil => simp
      | cons next items =>
          have others : (next :: items).flatMap parts ≠ [] := by
            simp [nonempty next]
          rw [List.flatMap_cons, intercalate_append (nonempty item) others, ← ih]
          simp only [List.map_cons, List.intercalate_cons_cons]

end DialogCodemod
