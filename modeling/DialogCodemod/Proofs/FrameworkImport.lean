import DialogCodemod.Import.Placement
import DialogCodemod.Proofs.Lines
import Mathlib.Order.Bounds.Defs
import Mathlib.Order.Nat

/-!
# The earliest import of the framework

An import of a module may spread over several lines and run across other imports, so that many
stretches of a text can be read as one. Here they are declared by their parts. The search takes the
first line that begins one and the first clause behind it. No other import of the module closes
earlier, wherever it begins: a clause that follows the first line belongs to that line too.
-/

namespace DialogCodemod

theorem Quote.isSpace_char (quote : Quote) : isSpace quote.char = false := by
  cases quote <;> rfl

theorem Quote.char_ne_newline (quote : Quote) : quote.char ≠ '\n' := by
  cases quote <;> decide

namespace Import

/-! ## Clauses -/

/-- A word begins or ends here: a word character stands on one side and none on the other. -/
def WordBoundary (before after : Text) : Prop :=
  before.getLast?.any isWord ≠ after.head?.any isWord

/-- A `from` clause that names a module. The two quotes need not agree. -/
structure FromClause where
  gap : Text
  opening : Quote
  closing : Quote
  deriving DecidableEq, Repr

namespace FromClause

/-- The clause before the quote that closes the module name. -/
def body (module : Text) (clause : FromClause) : Text :=
  "from".toList ++ (clause.gap ++ clause.opening.char :: module)

/-- The clause as written. -/
def source (module : Text) (clause : FromClause) : Text :=
  clause.body module ++ [clause.closing.char]

/-- White space may separate the word from the module name. -/
def WellFormed (clause : FromClause) : Prop :=
  White clause.gap

end FromClause

theorem run_fromOpening_eq_some_iff {text after : Text} {value : Unit} :
    fromOpening.run text = some (value, after) ↔
      ∃ gap, ∃ quote : Quote, White gap ∧ text = "from".toList ++ (gap ++ quote.char :: after) := by
  simp only [fromOpening, Reader.run_bind_eq_some_iff, Reader.run_pure_eq_some_iff,
    Reader.run_word_eq_some_iff, Reader.run_stretch_eq_some_iff, Quote.run_read_eq_some_iff]
  constructor
  · rintro ⟨_, _, rfl, gap, _, ⟨rfl, white, _⟩, quote, _, rfl, _, rfl⟩
    exact ⟨gap, quote, white, rfl⟩
  · rintro ⟨gap, quote, white, rfl⟩
    have stops : Stops isSpace (quote.char :: after) := stops_cons.2 quote.isSpace_char
    exact ⟨(), _, rfl, gap, _, ⟨rfl, white, stops⟩, quote, after, rfl, trivial, rfl⟩

/-- Reading a clause accepts exactly the well-formed ones. -/
theorem run_fromModule_eq_some_iff {module text after : Text} {value : Unit} :
    (fromModule module).run text = some (value, after) ↔
      ∃ clause : FromClause, clause.WellFormed ∧ text = clause.source module ++ after := by
  simp only [fromModule, Reader.run_bind_eq_some_iff, Reader.run_pure_eq_some_iff,
    run_fromOpening_eq_some_iff, Reader.run_word_eq_some_iff, Quote.run_read_eq_some_iff]
  constructor
  · rintro ⟨_, _, ⟨gap, opening, white, rfl⟩, _, _, rfl, closing, _, rfl, _, rfl⟩
    exact ⟨⟨gap, opening, closing⟩, white, by simp [FromClause.source, FromClause.body]⟩
  · rintro ⟨⟨gap, opening, closing⟩, white, rfl⟩
    exact ⟨(), module ++ closing.char :: after,
      ⟨gap, opening, white, by simp [FromClause.source, FromClause.body]⟩,
      (), closing.char :: after, rfl, closing, after, rfl, trivial, rfl⟩

/-- Of two clauses in a text, the one that begins first ends first: no clause begins between the
word of another and its module name. -/
theorem FromClause.WellFormed.length_le_of_later {module before rest after : Text}
    {clause later : FromClause} (wellFormed : clause.WellFormed) (behind : before ≠ [])
    (split : clause.source module ++ after = before ++ (later.source module ++ rest)) :
    rest.length ≤ after.length := by
  obtain ⟨first, before, rfl⟩ := List.exists_cons_of_ne_nil behind
  have opened : clause.source module ++ after =
      ('f' :: ("rom".toList ++ (clause.gap ++ [clause.opening.char]))) ++
        (module ++ clause.closing.char :: after) := by
    simp [source, body]
  rw [opened] at split
  rcases List.append_eq_append_iff.1 split with ⟨passed, _, remaining⟩ | ⟨excess, inside, remaining⟩
  · have lengths := congrArg List.length remaining
    simp only [source, body, List.length_append, List.length_cons] at lengths
    omega
  · cases excess with
    | nil =>
        have lengths := congrArg List.length remaining
        simp only [source, body, List.length_append, List.length_cons, List.length_nil] at lengths
        omega
    | cons char excess =>
        have letter : char = 'f' := by
          simp only [source, body, List.cons_append] at remaining
          exact (List.cons.inj remaining).1.symm
        rw [List.cons_append, List.cons.injEq] at inside
        have member : 'f' ∈ "rom".toList ++ (clause.gap ++ [clause.opening.char]) := by
          rw [inside.2, letter]
          simp
        rcases List.mem_append.1 member with word | member
        · exact absurd word (by decide)
        · rcases List.mem_append.1 member with gap | quote
          · cases wellFormed 'f' gap
          · cases opening : clause.opening <;> simp [opening, Quote.char] at quote

/-- Whether a word character stands behind the text. For the empty text the flag tells. -/
def wordBefore (afterWord : Bool) (before : Text) : Bool :=
  (before.getLast?.map isWord).getD afterWord

theorem wordBefore_cons (afterWord : Bool) (char : Char) (before : Text) :
    wordBefore afterWord (char :: before) = wordBefore (isWord char) before := by
  rw [wordBefore, wordBefore, List.getLast?_cons]
  cases before.getLast? <;> rfl

theorem wordBefore_append (afterWord : Bool) (before more : Text) :
    wordBefore afterWord (before ++ more) = wordBefore (wordBefore afterWord before) more := by
  rw [wordBefore, wordBefore, List.getLast?_append]
  cases more.getLast? <;> rfl

section Clauses

variable {module text middle rest after : Text} {afterWord : Bool} {clause : FromClause}

/-- A clause is found where it stands. -/
theorem afterClause?_of_clause (wellFormed : clause.WellFormed) (rest : Text) :
    afterClause? module false (clause.source module ++ rest) = some rest := by
  have here : (fromModule module).run (clause.source module ++ rest) = some ((), rest) :=
    run_fromModule_eq_some_iff.2 ⟨clause, wellFormed, rfl⟩
  have letter : clause.source module ++ rest =
      'f' :: ("rom".toList ++ (clause.gap ++ clause.opening.char ::
        (module ++ clause.closing.char :: rest))) := by
    simp [FromClause.source, FromClause.body]
  rw [letter] at here ⊢
  rw [afterClause?, if_neg Bool.false_ne_true, here]

/-- What was found is a clause, and no semicolon stands before it. -/
theorem exists_clause_of_afterClause? (found : afterClause? module afterWord text = some after) :
    ∃ (middle : Text) (clause : FromClause), text = middle ++ (clause.source module ++ after) ∧
      ';' ∉ middle ∧ wordBefore afterWord middle = false ∧ clause.WellFormed := by
  induction text generalizing afterWord with
  | nil => cases found
  | cons char later ih =>
      rw [afterClause?] at found
      split at found
      · next value here =>
          cases found
          cases afterWord with
          | true => cases here
          | false =>
              obtain ⟨clause, wellFormed, split⟩ := run_fromModule_eq_some_iff.1 here
              exact ⟨[], clause, split, List.not_mem_nil, rfl, wellFormed⟩
      · split at found
        · cases found
        · next noSemicolon =>
            obtain ⟨middle, clause, rfl, absent, boundary, wellFormed⟩ := ih found
            refine ⟨char :: middle, clause, rfl, ?_, ?_, wellFormed⟩
            · exact List.not_mem_cons_of_ne_of_not_mem (Ne.symm noSemicolon) absent
            · rw [wordBefore_cons]
              exact boundary

/-- A clause is found if there is one with no semicolon before it. -/
theorem exists_afterClause? (absent : ';' ∉ middle) (boundary : wordBefore afterWord middle = false)
    (wellFormed : clause.WellFormed) (rest : Text) :
    ∃ after, afterClause? module afterWord (middle ++ (clause.source module ++ rest)) =
      some after := by
  induction middle generalizing afterWord with
  | nil =>
      have start : afterWord = false := boundary
      rw [start]
      exact ⟨rest, afterClause?_of_clause wellFormed rest⟩
  | cons char middle ih =>
      rw [List.mem_cons, not_or] at absent
      rw [wordBefore_cons] at boundary
      rw [List.cons_append, afterClause?]
      split
      · next after _ => exact ⟨after, rfl⟩
      · rw [if_neg (Ne.symm absent.1)]
        exact ih absent.2 boundary

/-- The clause that is found is the first one in the text, whether or not a semicolon stands before
the others. -/
theorem length_le_of_afterClause? (found : afterClause? module afterWord text = some after)
    (split : text = middle ++ (clause.source module ++ rest))
    (boundary : wordBefore afterWord middle = false) (wellFormed : clause.WellFormed) :
    rest.length ≤ after.length := by
  induction text generalizing afterWord middle with
  | nil => cases found
  | cons char later ih =>
      cases middle with
      | nil =>
          have start : afterWord = false := boundary
          rw [start, split, List.nil_append, afterClause?_of_clause wellFormed] at found
          cases found
          exact Nat.le_refl _
      | cons first middle =>
          rw [afterClause?] at found
          split at found
          · next value here =>
              cases found
              cases afterWord with
              | true => cases here
              | false =>
                  obtain ⟨earlier, earlierWellFormed, own⟩ := run_fromModule_eq_some_iff.1 here
                  exact earlierWellFormed.length_le_of_later (List.cons_ne_nil first middle)
                    (own.symm.trans split)
          · split at found
            · cases found
            · rw [List.cons_append, List.cons.injEq] at split
              obtain ⟨rfl, split⟩ := split
              rw [wordBefore_cons] at boundary
              exact ih found split boundary

end Clauses

/-! ## Imports of a module -/

/-- An import of a module: the word `import`, whatever it binds, and the clause. -/
structure ModuleImport where
  lead : Text
  middle : Text
  clause : FromClause
  deriving DecidableEq, Repr

namespace ModuleImport

/-- The import before the quote that closes the module name. -/
def body (module : Text) (written : ModuleImport) : Text :=
  written.lead ++ ("import".toList ++ (written.middle ++ written.clause.body module))

/-- The import as written, up to the quote that closes the module name. -/
def source (module : Text) (written : ModuleImport) : Text :=
  written.body module ++ [written.clause.closing.char]

/-- Blanks stand before the word `import`, and no semicolon between the words `import` and `from`,
which are words by themselves where they face each other. -/
structure WellFormed (written : ModuleImport) : Prop where
  lead : Blank written.lead
  importEnds : WordBoundary "import".toList (written.middle ++ "from".toList)
  middle : ';' ∉ written.middle
  fromStarts : WordBoundary ("import".toList ++ written.middle) "from".toList
  clause : written.clause.WellFormed

theorem source_append (module : Text) (written : ModuleImport) (after : Text) :
    written.source module ++ after =
      written.lead ++ ("import".toList ++
        (written.middle ++ (written.clause.source module ++ after))) := by
  simp only [source, body, FromClause.source, List.append_assoc]

end ModuleImport

section Words

theorem wordBoundary_import_iff {middle : Text} :
    WordBoundary "import".toList (middle ++ "from".toList) ↔
      ∃ next more, middle = next :: more ∧ isWord next = false := by
  have word : "import".toList.getLast?.any isWord = true := by
    decide
  rw [WordBoundary, word, ne_eq, eq_comm, Bool.not_eq_true]
  cases middle with
  | nil => exact ⟨fun faces => absurd faces (by decide), fun ⟨_, _, empty, _⟩ => nomatch empty⟩
  | cons next more =>
      rw [List.cons_append, List.head?_cons, Option.any_some]
      constructor
      · intro faces
        exact ⟨next, more, rfl, faces⟩
      · rintro ⟨_, _, same, faces⟩
        cases same
        exact faces

theorem wordBoundary_from_iff {before : Text} :
    WordBoundary before "from".toList ↔ wordBefore false before = false := by
  have word : "from".toList.head?.any isWord = true := by
    decide
  have last : before.getLast?.any isWord = wordBefore false before := by
    rw [wordBefore]
    cases before.getLast? <;> rfl
  rw [WordBoundary, word, last, ne_eq, Bool.not_eq_true]

theorem wordBefore_import_append (afterWord : Bool) (middle : Text) :
    wordBefore afterWord ("import".toList ++ middle) = wordBefore true middle := by
  rw [wordBefore_append]
  rfl

end Words

section Imports

variable {module text before rest after : Text} {written : ModuleImport}

theorem dropWhile_isBlank_import {lead : Text} (blank : Blank lead) (later : Text) :
    List.dropWhile isBlank (lead ++ ("import".toList ++ later)) = "import".toList ++ later := by
  rw [List.dropWhile_append_of_pos blank]
  rfl

/-- An import is looked for behind the blanks and the word `import`. -/
theorem afterImport?_eq_some_iff : afterImport? module text = some after ↔
    ∃ lead next more, text = lead ++ ("import".toList ++ next :: more) ∧ Blank lead ∧
      isWord next = false ∧ afterClause? module true (next :: more) = some after := by
  constructor
  · intro found
    rw [afterImport?] at found
    split at found
    · next next more opened =>
        split at found
        · cases found
        · next noWord =>
            refine ⟨text.takeWhile isBlank, next, more, ?_, ?_, eq_false_of_ne_true noWord, found⟩
            · rw [← Text.after?_eq_some_iff.1 opened, List.takeWhile_append_dropWhile]
            · intro char member
              exact List.all_eq_true.1 List.all_takeWhile char member
    · cases found
  · rintro ⟨lead, next, more, rfl, blank, noWord, found⟩
    rw [afterImport?, dropWhile_isBlank_import blank, Text.after?_append]
    simp only [noWord, Bool.false_eq_true, if_false]
    exact found

/-- What was found is an import of the module. -/
theorem exists_import_of_afterImport? (found : afterImport? module text = some after) :
    ∃ written : ModuleImport, written.WellFormed ∧ text = written.source module ++ after := by
  obtain ⟨lead, next, more, rfl, blank, noWord, found⟩ := afterImport?_eq_some_iff.1 found
  obtain ⟨middle, clause, split, absent, boundary, wellFormed⟩ :=
    exists_clause_of_afterClause? found
  cases middle with
  | nil => cases boundary
  | cons first middle =>
      have faces : isWord first = false := (List.cons.inj split).1 ▸ noWord
      refine ⟨⟨lead, first :: middle, clause⟩, ⟨blank, ?_, absent, ?_, wellFormed⟩, ?_⟩
      · exact wordBoundary_import_iff.2 ⟨first, middle, rfl, faces⟩
      · exact wordBoundary_from_iff.2 ((wordBefore_import_append false _).trans boundary)
      · rw [split, ModuleImport.source_append]

theorem ModuleImport.WellFormed.wordBefore_middle (wellFormed : written.WellFormed) :
    wordBefore true written.middle = false :=
  (wordBefore_import_append false _).symm.trans (wordBoundary_from_iff.1 wellFormed.fromStarts)

/-- An import of the module is found where it stands. -/
theorem exists_afterImport? (wellFormed : written.WellFormed) (rest : Text) :
    ∃ after, afterImport? module (written.source module ++ rest) = some after := by
  obtain ⟨next, more, middle, noWord⟩ := wordBoundary_import_iff.1 wellFormed.importEnds
  obtain ⟨after, found⟩ :=
    exists_afterClause? wellFormed.middle wellFormed.wordBefore_middle wellFormed.clause rest
  refine ⟨after, afterImport?_eq_some_iff.2 ⟨written.lead, next,
    more ++ (written.clause.source module ++ rest), ?_, wellFormed.lead, noWord, ?_⟩⟩
  · rw [ModuleImport.source_append, middle, List.cons_append]
  · rw [← List.cons_append, ← middle]
    exact found

/-- No import of the module that begins here or on a later line ends before the one that is found
here. -/
theorem length_le_of_afterImport? (found : afterImport? module text = some after)
    (split : text = before ++ (written.source module ++ rest)) (starts : CompleteLines before)
    (wellFormed : written.WellFormed) : rest.length ≤ after.length := by
  obtain ⟨lead, next, more, rfl, blank, noWord, found⟩ := afterImport?_eq_some_iff.1 found
  rw [ModuleImport.source_append] at split
  have boundary := wellFormed.wordBefore_middle
  rcases starts.eq_nil_or_concat with rfl | ⟨front, rfl⟩
  · -- Both begin here, with the same word `import`.
    have same := congrArg (List.dropWhile isBlank) split
    rw [List.nil_append, dropWhile_isBlank_import blank,
      dropWhile_isBlank_import wellFormed.lead] at same
    exact length_le_of_afterClause? found (List.append_cancel_left same) boundary wellFormed.clause
  · -- The other begins on a later line, so that its clause follows the first word `import` too.
    have oneLine : '\n' ∉ lead ++ "import".toList := by
      rw [List.mem_append, not_or]
      exact ⟨blank.notMem (.inl rfl), by decide⟩
    rw [← List.append_assoc, List.append_assoc front, List.singleton_append] at split
    obtain ⟨remaining, _, behind⟩ := exists_append_of_notMem oneLine split.symm
    have regrouped : next :: more =
        (remaining ++ '\n' :: written.lead ++ "import".toList ++ written.middle) ++
          (written.clause.source module ++ rest) := by
      rw [behind]
      simp only [List.append_assoc, List.cons_append]
    refine length_le_of_afterClause? found regrouped ?_ wellFormed.clause
    rw [wordBefore_append, wordBefore_append]
    exact boundary

/-- A line begins behind the text. For the empty text the flag tells. -/
def LineBefore (atLineStart : Bool) (before : Text) : Prop :=
  (before = [] → atLineStart = true) ∧ CompleteLines before

theorem lineBefore_cons {atLineStart : Bool} {char : Char} {before : Text} :
    LineBefore atLineStart (char :: before) ↔ LineBefore (char == '\n') before := by
  rw [LineBefore, LineBefore, CompleteLines, CompleteLines, List.getLast?_cons]
  cases before with
  | nil => simp
  | cons first before =>
      rw [List.getLast?_cons]
      simp

theorem afterFirstImport?_of_afterImport? (here : afterImport? module text = some after) :
    afterFirstImport? module true text = some after := by
  cases text with
  | nil => cases here
  | cons char later => rw [afterFirstImport?, if_pos rfl, here]

/-- What was found is the end of an import of the module that begins a line. -/
theorem exists_import_of_afterFirstImport? {atLineStart : Bool}
    (found : afterFirstImport? module atLineStart text = some after) :
    ∃ (before : Text) (written : ModuleImport), text = before ++ (written.source module ++ after) ∧
      LineBefore atLineStart before ∧ written.WellFormed := by
  induction text generalizing atLineStart with
  | nil => cases found
  | cons char later ih =>
      rw [afterFirstImport?] at found
      split at found
      · next here =>
          cases found
          cases atLineStart with
          | false => cases here
          | true =>
              obtain ⟨written, wellFormed, split⟩ := exists_import_of_afterImport? here
              exact ⟨[], written, split, ⟨fun _ => rfl, completeLines_nil⟩, wellFormed⟩
      · obtain ⟨before, written, rfl, starts, wellFormed⟩ := ih found
        exact ⟨char :: before, written, rfl, lineBefore_cons.2 starts, wellFormed⟩

/-- Some import of the module is found if one begins a line. -/
theorem exists_afterFirstImport? {atLineStart : Bool} (starts : LineBefore atLineStart before)
    (wellFormed : written.WellFormed) (rest : Text) :
    ∃ after, afterFirstImport? module atLineStart (before ++ (written.source module ++ rest)) =
      some after := by
  induction before generalizing atLineStart with
  | nil =>
      obtain ⟨after, here⟩ := exists_afterImport? wellFormed rest
      rw [starts.1 rfl]
      exact ⟨after, afterFirstImport?_of_afterImport? here⟩
  | cons char before ih =>
      rw [List.cons_append, afterFirstImport?]
      split
      · next after _ => exact ⟨after, rfl⟩
      · exact ih (lineBefore_cons.1 starts)

/-- No import of the module that begins a line ends before the one that is found. -/
theorem length_le_of_afterFirstImport? {atLineStart : Bool}
    (found : afterFirstImport? module atLineStart text = some after)
    (split : text = before ++ (written.source module ++ rest))
    (starts : LineBefore atLineStart before) (wellFormed : written.WellFormed) :
    rest.length ≤ after.length := by
  induction text generalizing atLineStart before with
  | nil => cases found
  | cons char later ih =>
      rw [afterFirstImport?] at found
      split at found
      · next here =>
          cases found
          cases atLineStart with
          | false => cases here
          | true => exact length_le_of_afterImport? here split starts.2 wellFormed
      · next missing =>
          cases before with
          | nil =>
              obtain ⟨earliest, here⟩ := @exists_afterImport? module written wellFormed rest
              rw [starts.1 rfl, if_pos rfl, split, List.nil_append, here] at missing
              cases missing
          | cons first before =>
              rw [List.cons_append, List.cons.injEq] at split
              obtain ⟨rfl, split⟩ := split
              exact ih found split (lineBefore_cons.1 starts)

end Imports

/-! ## The line below the earliest import -/

/-- An import of the module begins a line of the text, behind the text `before`. -/
def ImportAt (module text before : Text) (written : ModuleImport) : Prop :=
  CompleteLines before ∧ written.WellFormed ∧ before ++ written.source module <+: text

/-- The line below the one on which an import of the module closes. -/
def ClosesAbove (module text : Text) (line : Nat) : Prop :=
  ∃ before written, ImportAt module text before written ∧
    line = (before ++ written.body module).newlineCount + 1

/-- The newlines before the quote that closes an import, counted from the end of the text. -/
theorem newlineCount_sub_newlineCount (module before : Text) (written : ModuleImport)
    (after : Text) :
    (before ++ (written.source module ++ after)).newlineCount - after.newlineCount =
      (before ++ written.body module).newlineCount := by
  have quote := written.clause.closing.char_ne_newline
  simp only [ModuleImport.source, Text.newlineCount, List.count_append, List.count_cons,
    List.count_nil, beq_iff_eq, quote, if_false]
  omega

theorem closesAbove_of_anchorLine? {module text : Text} {line : Nat}
    (anchored : anchorLine? module text = some line) : ClosesAbove module text line := by
  obtain ⟨after, found, rfl⟩ := Option.map_eq_some_iff.1 anchored
  obtain ⟨before, written, rfl, starts, wellFormed⟩ := exists_import_of_afterFirstImport? found
  refine ⟨before, written, ⟨starts.2, wellFormed, after, List.append_assoc _ _ _⟩, ?_⟩
  rw [newlineCount_sub_newlineCount]

/-- The closing quote stands on a line of the text. -/
theorem ClosesAbove.le_length {module text : Text} {line : Nat}
    (closes : ClosesAbove module text line) : line ≤ text.lines.length := by
  obtain ⟨before, written, ⟨_, _, after, rfl⟩, rfl⟩ := closes
  have quote := written.clause.closing.char_ne_newline
  have inside := Text.newlineCount_lt_length_lines quote (before ++ written.body module) after
  simp only [ModuleImport.source, List.append_assoc, List.singleton_append, Text.newlineCount,
    List.count_append, List.count_singleton, beq_iff_eq, quote, if_false] at inside ⊢
  omega

/-- No import of the module closes above the line that is found. -/
theorem le_of_closesAbove {module text : Text} {line other : Nat}
    (anchored : anchorLine? module text = some line) (closes : ClosesAbove module text other) :
    line ≤ other := by
  obtain ⟨after, found, rfl⟩ := Option.map_eq_some_iff.1 anchored
  obtain ⟨first, firstWritten, own, _⟩ := exists_import_of_afterFirstImport? found
  obtain ⟨before, written, ⟨starts, wellFormed, rest, whole⟩, rfl⟩ := closes
  rw [List.append_assoc] at whole
  have earlier := length_le_of_afterFirstImport? found whole.symm ⟨fun _ => rfl, starts⟩ wellFormed
  -- What follows the other import follows this one too.
  have restSuffix : rest <:+ text :=
    ⟨before ++ written.source module, by rw [List.append_assoc, whole]⟩
  have afterSuffix : after <:+ text :=
    ⟨first ++ firstWritten.source module, by rw [List.append_assoc, own]⟩
  have behind := (List.suffix_of_suffix_length_le restSuffix afterSuffix earlier).sublist.count_le
    '\n'
  have count := newlineCount_sub_newlineCount module before written rest
  rw [whole] at count
  simp only [Text.newlineCount] at behind count ⊢
  omega

/-- The line below an import of the module is found if there is such an import. It is the line below
the earliest place where one closes, over all imports of the module in the text. -/
theorem anchor_below_earliest_import (module text : Text) :
    ((anchorLine? module text).isSome = true ↔
      ∃ before written, ImportAt module text before written) ∧
    ∀ line, anchorLine? module text = some line →
      IsLeast {below | ClosesAbove module text below} line ∧ line ≤ text.lines.length := by
  refine ⟨⟨?_, ?_⟩, ?_⟩
  · intro some
    obtain ⟨line, anchored⟩ := Option.isSome_iff_exists.1 some
    obtain ⟨before, written, found, _⟩ := closesAbove_of_anchorLine? anchored
    exact ⟨before, written, found⟩
  · rintro ⟨before, written, starts, wellFormed, rest, rfl⟩
    obtain ⟨after, found⟩ := @exists_afterFirstImport? module before written true
      ⟨fun _ => rfl, starts⟩ wellFormed rest
    rw [anchorLine?, List.append_assoc, found]
    rfl
  · intro line anchored
    have closes := closesAbove_of_anchorLine? anchored
    exact ⟨⟨closes, fun _ other => le_of_closesAbove anchored other⟩, closes.le_length⟩

/-- The first line that says `import` has no clause of its own. Its import runs on to the clause of
the second, across two lines and another import, and there it closes. -/
theorem anchor_below_earliest_import_across :
    IsLeast {below | ClosesAbove "react".toList
      "'use client'\nimport a\nimport b from 'b'\n  import c from \"react'\nx".toList below} 4 ∧
    4 ≤ (Text.lines
      "'use client'\nimport a\nimport b from 'b'\n  import c from \"react'\nx".toList).length :=
  (anchor_below_earliest_import _ _).2 4 (by decide +kernel)

end Import

end DialogCodemod
