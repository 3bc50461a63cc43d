import DialogCodemod.Proofs.BlockExtension
import DialogCodemod.Proofs.CallPosition

/-!
# Imports with a list in braces

An import may list what it binds in braces, one name to a line, and a comment may follow each name.
The pass over the lines keeps such an import open up to a line that ends in a semicolon or holds the
start of a `from` clause. A comment can look like that too. This module says which comments do, and
where a new import lands: behind the list if there is none, and otherwise inside it.
-/

namespace DialogCodemod

/-- The code points of white space. -/
def spaceCodes : List Nat :=
  List.range' 0x9 5 ++ [0x20, 0x85, 0xA0, 0x1680] ++ List.range' 0x2000 11 ++
    [0x2028, 0x2029, 0x202F, 0x205F, 0x3000]

/-- White space ends a name. -/
theorem continuesName_eq_false_of_isSpace {char : Char} (space : isSpace char = true) :
    continuesName char = false := by
  have listed : char.toNat ∈ spaceCodes := by
    simp only [isSpace, Bool.or_eq_true, Bool.and_eq_true, decide_eq_true_eq, beq_iff_eq] at space
    simp only [spaceCodes, List.mem_append, List.mem_range'_1, List.mem_cons, List.not_mem_nil,
      or_false]
    grind
  have checked : ∀ code ∈ spaceCodes, continuesName (Char.ofNat code) = false := by
    decide +kernel
  have here := checked char.toNat listed
  rw [Char.ofNat_toNat] at here
  exact here

/-- A longest stretch of a class is all that is taken of it. -/
theorem takeWhile_of_stops {accepts : Char → Bool} {taken rest : Text}
    (all : ∀ char ∈ taken, accepts char = true) (stops : Stops accepts rest) :
    (taken ++ rest).takeWhile accepts = taken :=
  (Prod.mk.inj (Option.some.inj (Reader.run_stretch_eq_some_iff.2 ⟨rfl, all, stops⟩))).1

theorem Quote.continuesName_char (quote : Quote) : continuesName quote.char = false := by
  cases quote <;> rfl

/-- A name as it is bound: an ASCII letter, an underscore or a dollar sign first, and then word
characters and dollar signs. -/
def IsName (name : Text) : Prop :=
  ∃ first rest, name = first :: rest ∧ startsName first = true ∧
    ∀ char ∈ rest, continuesName char = true

theorem IsName.continuesName {name : Text} (isName : IsName name) :
    ∀ char ∈ name, DialogCodemod.continuesName char = true := by
  obtain ⟨first, rest, rfl, starts, continues⟩ := isName
  exact List.forall_mem_cons.2 ⟨continuesName_of_startsName starts, continues⟩

namespace Import

/-! ## Starts of `from` clauses -/

/-- A `from` clause starts in the text: the word `from`, by itself on the left, and a quote behind
white space. -/
def HoldsClause (text : Text) : Prop :=
  ∃ before gap after, ∃ quote : Quote,
    text = before ++ ("from".toList ++ (gap ++ quote.char :: after)) ∧
    WordBoundary before "from".toList ∧ White gap

theorem hasFromClause_eq_true_iff {afterWord : Bool} {text : Text} :
    hasFromClause afterWord text = true ↔ ∃ before gap after, ∃ quote : Quote,
      text = before ++ ("from".toList ++ (gap ++ quote.char :: after)) ∧
      wordBefore afterWord before = false ∧ White gap := by
  induction text generalizing afterWord with
  | nil => simp [hasFromClause]
  | cons char later ih =>
      rw [hasFromClause, Bool.or_eq_true, Bool.and_eq_true, ih, Option.isSome_iff_exists]
      constructor
      · rintro (⟨noWord, ⟨_, after⟩, here⟩ | ⟨before, gap, after, quote, rfl, boundary, white⟩)
        · obtain ⟨gap, quote, white, split⟩ := run_fromOpening_eq_some_iff.1 here
          exact ⟨[], gap, after, quote, split, by simpa [wordBefore] using noWord, white⟩
        · exact ⟨char :: before, gap, after, quote, rfl, by rwa [wordBefore_cons], white⟩
      · rintro ⟨before, gap, after, quote, split, boundary, white⟩
        cases before with
        | nil =>
            have noWord : afterWord = false := boundary
            refine .inl ⟨by rw [noWord]; rfl, ((), after), ?_⟩
            exact run_fromOpening_eq_some_iff.2 ⟨gap, quote, white, split⟩
        | cons first before =>
            rw [List.cons_append, List.cons.injEq] at split
            rw [wordBefore_cons] at boundary
            obtain ⟨rfl, rfl⟩ := split
            exact .inr ⟨before, gap, after, quote, rfl, boundary, white⟩

theorem hasFromClause_iff_holdsClause {text : Text} :
    hasFromClause false text = true ↔ HoldsClause text := by
  simp only [hasFromClause_eq_true_iff, HoldsClause, wordBoundary_from_iff]

instance (text : Text) : Decidable (HoldsClause text) :=
  decidable_of_iff _ hasFromClause_iff_holdsClause

/-- A clause has a quote. -/
theorem not_holdsClause_of_unquoted {text : Text} (unquoted : Unquoted text) :
    ¬HoldsClause text := by
  rintro ⟨before, gap, after, quote, rfl, _⟩
  exact unquoted quote (by simp)

/-- No clause crosses a character that is neither a letter nor white space. -/
theorem holdsClause_append {front rest : Text} {mark : Char} (unquoted : Unquoted (front ++ [mark]))
    (noWord : isWord mark = false) (noSpace : isSpace mark = false) :
    HoldsClause (front ++ mark :: rest) ↔ HoldsClause rest := by
  have whole : front ++ mark :: rest = (front ++ [mark]) ++ rest := by
    simp
  have behind (before : Text) : wordBefore false (front ++ [mark] ++ before) =
      wordBefore false before := by
    rw [wordBefore_append, wordBefore_append]
    exact congrArg (wordBefore · before) noWord
  rw [whole]
  constructor
  · rintro ⟨before, gap, after, quote, split, boundary, white⟩
    rw [wordBoundary_from_iff] at boundary
    rcases List.append_eq_append_iff.1 split with ⟨inner, rfl, rfl⟩ | ⟨crossed, ends, clause⟩
    · rw [behind] at boundary
      exact ⟨inner, gap, after, quote, rfl, wordBoundary_from_iff.2 boundary, white⟩
    · by_cases nothing : crossed = []
      · subst nothing
        exact ⟨[], gap, after, quote, clause.symm, wordBoundary_from_iff.2 rfl, white⟩
      · -- The clause would have to go on over the mark before it comes to its quote.
        have last : mark ∈ crossed := by
          apply List.mem_of_getLast?
          have same := congrArg List.getLast? ends
          rw [List.getLast?_concat, List.getLast?_append_of_ne_nil _ nothing] at same
          exact same.symm
        have noQuote : quote.char ∉ crossed := by
          rw [ends, unquoted_append] at unquoted
          exact unquoted.2 quote
        rw [← List.append_assoc] at clause
        obtain ⟨remaining, opening, _⟩ := exists_append_of_notMem noQuote clause
        have member : mark ∈ "from".toList ++ gap := by
          rw [opening]
          exact List.mem_append_left remaining last
        rcases List.mem_append.1 member with letter | space
        · have letters : "from".toList.all isWord = true := by
            decide
          rw [List.all_eq_true.1 letters mark letter] at noWord
          cases noWord
        · rw [white mark space] at noSpace
          cases noSpace
  · rintro ⟨before, gap, after, quote, rfl, boundary, white⟩
    refine ⟨front ++ [mark] ++ before, gap, after, quote, by simp, ?_, white⟩
    rw [wordBoundary_from_iff] at boundary ⊢
    rw [behind]
    exact boundary

/-! ## Lines of a list -/

/-- The word `import` ends at a character that continues no name. -/
theorem exists_of_startsImport {line : Text} (starts : startsImport line = true) :
    ∃ next rest, line = "import".toList ++ next :: rest ∧ continuesName next = false := by
  rw [startsImport] at starts
  split at starts
  · next next rest opened =>
      refine ⟨next, rest, Text.after?_eq_some_iff.1 opened, ?_⟩
      simp only [Bool.or_eq_true, beq_iff_eq, Option.isSome_iff_exists,
        Quote.ofChar?_eq_some_iff] at starts
      rcases starts with ((space | rfl) | rfl) | ⟨quote, rfl⟩
      · exact continuesName_eq_false_of_isSpace space
      · rfl
      · rfl
      · exact quote.continuesName_char
  · cases starts

theorem closesImport_eq_true_iff {line : Text} :
    closesImport line = true ↔ line.getLast? = some ';' ∨ HoldsClause line := by
  rw [closesImport, Bool.or_eq_true, beq_iff_eq, hasFromClause_iff_holdsClause]

/-- A line of a list, without the white space around it: a name, perhaps a comma, and perhaps a
comment. -/
structure Specifier where
  name : Text
  nameGap : Text
  comma : Bool
  commaGap : Text
  /-- What follows the two slashes. -/
  comment : Option Text
  deriving DecidableEq, Repr

namespace Specifier

/-- What stands behind the name and before the comment. -/
def separator (specifier : Specifier) : Text :=
  specifier.nameGap ++ ((if specifier.comma then [','] else []) ++ specifier.commaGap)

/-- The comment as written. -/
def commentSource : Option Text → Text
  | none => []
  | some comment => "//".toList ++ comment

/-- The line as written. -/
def source (specifier : Specifier) : Text :=
  specifier.name ++ (specifier.separator ++ commentSource specifier.comment)

structure WellFormed (specifier : Specifier) : Prop where
  name : IsName specifier.name
  nameGap : White specifier.nameGap
  commaGap : White specifier.commaGap

/-- The comment looks like the end of an import: it ends in a semicolon, or a `from` clause starts
in it. -/
def ClosesEarly (specifier : Specifier) : Prop :=
  ∃ comment ∈ specifier.comment, comment.getLast? = some ';' ∨ HoldsClause comment

instance (specifier : Specifier) : Decidable specifier.ClosesEarly :=
  inferInstanceAs (Decidable (∃ comment ∈ specifier.comment,
    comment.getLast? = some ';' ∨ HoldsClause comment))

variable {specifier : Specifier}

theorem WellFormed.separator (wellFormed : specifier.WellFormed) :
    ∀ char ∈ specifier.separator, isSpace char = true ∨ char = ',' := by
  intro char member
  rw [Specifier.separator, List.mem_append, List.mem_append] at member
  rcases member with gap | comma | gap
  · exact .inl (wellFormed.nameGap char gap)
  · split at comma
    · exact .inr (List.mem_singleton.1 comma)
    · cases comma
  · exact .inl (wellFormed.commaGap char gap)

/-- Neither a quote nor a semicolon stands before the comment. -/
theorem WellFormed.notMem_front (wellFormed : specifier.WellFormed) {char : Char}
    (noName : continuesName char = false) (noSpace : isSpace char = false) (noComma : char ≠ ',') :
    char ∉ specifier.name ++ specifier.separator := by
  rw [List.mem_append, not_or]
  constructor
  · intro member
    rw [wellFormed.name.continuesName char member] at noName
    cases noName
  · intro member
    rcases wellFormed.separator char member with space | comma
    · rw [space] at noSpace
      cases noSpace
    · exact noComma comma

theorem WellFormed.unquoted_front (wellFormed : specifier.WellFormed) :
    Unquoted (specifier.name ++ specifier.separator) := by
  intro quote
  have noComma : quote.char ≠ ',' := by
    cases quote <;> decide
  exact wellFormed.notMem_front quote.continuesName_char quote.isSpace_char noComma

/-- Only its comment can make a line of a list look like the end of the import. -/
theorem WellFormed.closesImport_source_iff (wellFormed : specifier.WellFormed) :
    closesImport specifier.source = true ↔ specifier.ClosesEarly := by
  have unquoted := wellFormed.unquoted_front
  rw [closesImport_eq_true_iff, ClosesEarly, source, ← List.append_assoc]
  cases specifier.comment with
  | none =>
      simp only [commentSource, List.append_nil, Option.mem_def, reduceCtorEq, false_and,
        exists_false, iff_false, not_or]
      refine ⟨?_, not_holdsClause_of_unquoted unquoted⟩
      intro last
      exact wellFormed.notMem_front rfl rfl (by decide) (List.mem_of_getLast? last)
  | some comment =>
      have slashes : Unquoted ("/".toList ++ "/".toList) := by
        decide
      have split : specifier.name ++ specifier.separator ++ commentSource (some comment) =
          (specifier.name ++ specifier.separator ++ "/".toList) ++ '/' :: comment := by
        simp [commentSource]
      have ends : ((specifier.name ++ specifier.separator ++ "/".toList) ++
          '/' :: comment).getLast? = some ';' ↔ comment.getLast? = some ';' := by
        rw [List.getLast?_append, List.getLast?_cons]
        cases comment.getLast? <;> simp
      have crossed : Unquoted (specifier.name ++ specifier.separator ++ "/".toList ++ ['/']) := by
        rw [List.append_assoc, unquoted_append]
        exact ⟨unquoted, slashes⟩
      rw [split, ends, holdsClause_append crossed rfl rfl]
      simp

/-- The name ends before what follows it. -/
theorem WellFormed.stops_name (wellFormed : specifier.WellFormed) :
    Stops continuesName (specifier.separator ++ commentSource specifier.comment) := by
  cases separated : specifier.separator with
  | nil =>
      cases specifier.comment with
      | none => exact stops_nil _
      | some comment => exact stops_cons.2 rfl
  | cons char more =>
      rw [List.cons_append, stops_cons]
      have member : char ∈ specifier.separator := by
        rw [separated]
        exact List.mem_cons_self
      rcases wellFormed.separator char member with space | rfl
      · exact continuesName_eq_false_of_isSpace space
      · rfl

/-- A line of a list does not begin an import, unless it names `import`. -/
theorem WellFormed.startsImport_source (wellFormed : specifier.WellFormed)
    (named : specifier.name ≠ "import".toList) : startsImport specifier.source = false := by
  apply eq_false_of_ne_true
  intro starts
  obtain ⟨next, rest, split, stops⟩ := exists_of_startsImport starts
  apply named
  rw [← takeWhile_of_stops wellFormed.name.continuesName wellFormed.stops_name, ← source, split]
  exact takeWhile_of_stops (List.all_eq_true.1 (by decide)) (stops_cons.2 stops)

/-- Outside an import, a line of a list ends the leading block. -/
theorem WellFormed.ofLine_source (wellFormed : specifier.WellFormed)
    (named : specifier.name ≠ "import".toList) :
    LineRole.ofLine specifier.source = .code := by
  refine LineRole.ofLine_eq_code_iff.2 ⟨wellFormed.startsImport_source named, ?_⟩
  obtain ⟨first, rest, name, starts, _⟩ := wellFormed.name
  rw [source, name, List.cons_append]
  rintro (empty | ⟨_, comment⟩ | ⟨_, comment⟩ | ⟨_, comment⟩)
  · cases empty
  all_goals
    have slash := (List.cons.inj comment).1
    rw [← slash] at starts
    cases starts

end Specifier

/-! ## Imports with a list -/

/-- An import that lists what it binds in braces, a name to a line. -/
structure BraceImport where
  /-- The name before the braces, if there is one. -/
  defaultName : Option Text
  specifiers : List Specifier
  quote : Quote
  module : Text
  deriving DecidableEq, Repr

namespace BraceImport

/-- The name before the braces, as written. -/
def defaultSource : Option Text → Text
  | none => []
  | some name => name ++ ", ".toList

/-- The line that opens the list. -/
def opening (list : BraceImport) : Text :=
  "import ".toList ++ (defaultSource list.defaultName ++ ['\x7b'])

/-- The line that closes the list. -/
def closing (list : BraceImport) : Text :=
  '\x7d' :: (" from ".toList ++ list.quote.char :: (list.module ++ [list.quote.char])) ++ [';']

/-- The lines of the import, without the white space around them. -/
def lines (list : BraceImport) : List Text :=
  list.opening :: (list.specifiers.map Specifier.source ++ [list.closing])

structure WellFormed (list : BraceImport) : Prop where
  defaultName : ∀ name ∈ list.defaultName, IsName name
  specifiers : ∀ specifier ∈ list.specifiers, specifier.WellFormed

variable {list : BraceImport}

/-- A name or the brace follows the word `import`, and so no string literal does. -/
theorem WellFormed.exists_defaultSource_eq_cons (wellFormed : list.WellFormed) :
    ∃ first rest, defaultSource list.defaultName ++ ['\x7b'] = first :: rest ∧
      isSpace first = false ∧ Quote.ofChar? first = none := by
  cases found : list.defaultName with
  | none => exact ⟨'\x7b', [], rfl, rfl, rfl⟩
  | some name =>
      obtain ⟨first, rest, rfl, starts, _⟩ := wellFormed.defaultName name found
      have letter := continuesName_of_startsName starts
      refine ⟨first, _, rfl, eq_false_of_ne_true ?_, ?_⟩
      · intro space
        rw [continuesName_eq_false_of_isSpace space] at letter
        cases letter
      · rw [Option.eq_none_iff_forall_ne_some]
        intro quote same
        rw [Quote.ofChar?_eq_some_iff.1 same, quote.continuesName_char] at letter
        cases letter

theorem WellFormed.unquoted_opening (wellFormed : list.WellFormed) : Unquoted list.opening := by
  unfold opening
  rw [unquoted_append, unquoted_append]
  refine ⟨by decide, ?_, by decide⟩
  cases found : list.defaultName with
  | none => exact unquoted_nil
  | some name =>
      rw [defaultSource, unquoted_append]
      refine ⟨?_, by decide⟩
      intro quote member
      have letter := (wellFormed.defaultName name found).continuesName quote.char member
      rw [quote.continuesName_char] at letter
      cases letter

/-- The line that opens the list leaves the import open. -/
theorem WellFormed.ofLine_opening (wellFormed : list.WellFormed) :
    LineRole.ofLine list.opening = .openImport := by
  obtain ⟨first, rest, follows, noSpace, noQuote⟩ := wellFormed.exists_defaultSource_eq_cons
  have word : "import ".toList = "import".toList ++ [' '] := by
    decide
  have opened : Text.after? "import".toList list.opening = some (' ' :: first :: rest) := by
    unfold opening
    rw [Text.after?_eq_some_iff, follows, word]
    simp
  have last : list.opening.getLast? = some '\x7b' := by
    unfold opening
    rw [← List.append_assoc, List.getLast?_concat]
  refine LineRole.ofLine_eq_openImport_iff.2 ⟨?_, eq_false_of_ne_true ?_, ?_⟩
  · rw [startsImport, opened]
    rfl
  · rw [closesImport_eq_true_iff, last, not_or]
    exact ⟨by decide, not_holdsClause_of_unquoted wellFormed.unquoted_opening⟩
  · have trimmed : Text.trimStart (' ' :: first :: rest) = first :: rest := by
      have blank : isSpace ' ' = true := rfl
      simp [Text.trimStart, noSpace, blank]
    rw [isEffectImport, opened, Option.map_some, trimmed]
    simp [noQuote]

theorem closesImport_closing (list : BraceImport) : closesImport list.closing = true := by
  rw [closesImport_eq_true_iff, closing]
  exact .inl List.getLast?_concat

theorem ofLine_closing (list : BraceImport) : LineRole.ofLine list.closing = .code := by
  refine LineRole.ofLine_eq_code_iff.2 ⟨rfl, ?_⟩
  rintro (empty | ⟨_, comment⟩ | ⟨_, comment⟩ | ⟨_, comment⟩)
  · cases empty
  all_goals cases comment

/-- The lines of a list up to one that looks like the end of the import are passed as an import. -/
theorem WellFormed.importLines (wellFormed : list.WellFormed) {earlier : List Specifier}
    {last : Text} (within : ∀ specifier ∈ earlier, specifier ∈ list.specifiers)
    (unclosed : ∀ specifier ∈ earlier, ¬specifier.ClosesEarly) (closes : closesImport last = true) :
    ImportLines (list.opening :: (earlier.map Specifier.source ++ [last])) := by
  have ⟨starts, opened, noEffect⟩ := LineRole.ofLine_eq_openImport_iff.1 wellFormed.ofLine_opening
  refine .spread starts opened noEffect ?_ closes
  intro line member
  obtain ⟨specifier, listed, rfl⟩ := List.mem_map.1 member
  apply eq_false_of_ne_true
  rw [(wellFormed.specifiers specifier (within specifier listed)).closesImport_source_iff]
  exact unclosed specifier listed

end BraceImport

/-- A new import goes behind a list in braces with which the text begins, if no comment in the list
looks like the end of the import. Otherwise it goes below the first line whose comment does, inside
the list; only a name `import` on the next line could keep the pass going. -/
theorem import_lands_behind_list (framework text : Text) (list : BraceImport)
    (wellFormed : list.WellFormed) (further : List Text)
    (begins : text.lines.map Text.trim = list.lines ++ further) :
    ((∀ specifier ∈ list.specifiers, ¬specifier.ClosesEarly) →
      list.lines.length ≤ insertionLine framework text) ∧
    ∀ earlier specifier later, list.specifiers = earlier ++ specifier :: later →
      (∀ before ∈ earlier, ¬before.ClosesEarly) → specifier.ClosesEarly →
      (∀ next ∈ later.head?, next.name ≠ "import".toList) →
      insertionLine framework text = earlier.length + 2 ∧
        insertionLine framework text < list.lines.length := by
  have placed (positive : 0 < leadingBlock text) :
      insertionLine framework text = leadingBlock text :=
    insertionLine_eq_leadingBlock (.inl positive)
  constructor
  · intro unclosed
    have whole := wellFormed.importLines (fun _ member => member) unclosed list.closesImport_closing
    have passed : list.lines.length ≤ leadingBlock text := by
      rw [leadingBlock, begins]
      exact whole.importBlock.length_le_blockLength further
    rw [placed (Nat.lt_of_lt_of_le whole.length_pos passed)]
    exact passed
  · intro earlier specifier later split unclosed closes named
    have wellFormedAt : specifier.WellFormed := wellFormed.specifiers specifier (by simp [split])
    have within : ∀ before ∈ earlier, before ∈ list.specifiers := by
      rw [split]
      exact fun before member => List.mem_append_left _ member
    have part := wellFormed.importLines within unclosed
      (wellFormedAt.closesImport_source_iff.2 closes)
    have regrouped : list.lines ++ further =
        list.opening :: (earlier.map Specifier.source ++ [specifier.source]) ++
          (later.map Specifier.source ++ list.closing :: further) := by
      simp [BraceImport.lines, split]
    -- The next line is inside the list, but for the pass it is code behind the block.
    have stopped :
        blockLength false (later.map Specifier.source ++ list.closing :: further) = 0 := by
      cases later with
      | nil => exact blockLength_of_code list.ofLine_closing further
      | cons next later =>
          have wellFormedNext : next.WellFormed := wellFormed.specifiers next (by simp [split])
          exact blockLength_of_code (wellFormedNext.ofLine_source (named next rfl)) _
    have ended : leadingBlock text = earlier.length + 2 := by
      rw [leadingBlock, begins, regrouped, part.blockLength_append, stopped]
      simp
    rw [placed (by omega), ended]
    refine ⟨rfl, ?_⟩
    simp only [BraceImport.lines, split, List.length_cons, List.length_append, List.length_map,
      List.length_nil]
    omega

/-- A name with a comma and perhaps a comment. -/
def listed (name : Char) (comment : Option Text) : Specifier where
  name := [name]
  nameGap := []
  comma := true
  commaGap := []
  comment

/-- A list of three names, the second of them with a comment. -/
def commentedList (comment : Text) : BraceImport where
  defaultName := some "React".toList
  specifiers := [listed 'a' none, listed 'b' (some comment), listed 'c' none]
  quote := .single
  module := "m".toList

theorem commentedList_wellFormed (comment : Text) : (commentedList comment).WellFormed := by
  have entry {name : Char} (starts : startsName name = true) (comment : Option Text) :
      (listed name comment).WellFormed :=
    ⟨⟨name, [], rfl, starts, by simp⟩, by simp [listed, White], by simp [listed, White]⟩
  constructor
  · rintro _ ⟨⟩
    exact ⟨'R', "eact".toList, rfl, rfl, List.all_eq_true.1 (by decide)⟩
  · intro specifier member
    simp only [commentedList, List.mem_cons, List.not_mem_nil, or_false] at member
    rcases member with rfl | rfl | rfl
    all_goals exact entry rfl _

/-- A text that begins with such a list. -/
def commentedText (comment : Text) : Text :=
  "import React, \x7b\r\n  a,\r\n  b,//".toList ++ comment ++
    "\r\n  c,\r\n\x7d from 'm';\r\nalert('x');".toList

/-- A comment with a semicolon inside it does no harm. With the semicolon at its end, the new import
goes below the third line. -/
theorem import_lands_behind_list_semicolon :
    5 ≤ insertionLine "react".toList (commentedText " was d; see e".toList) ∧
    insertionLine "react".toList (commentedText " was d;".toList) = 3 := by
  have ⟨behind, _⟩ := import_lands_behind_list "react".toList (commentedText " was d; see e".toList)
    (commentedList " was d; see e".toList) (commentedList_wellFormed _) ["alert('x');".toList]
    (by decide +kernel)
  have ⟨_, inside⟩ := import_lands_behind_list "react".toList (commentedText " was d;".toList)
    (commentedList " was d;".toList) (commentedList_wellFormed _) ["alert('x');".toList]
    (by decide +kernel)
  have ⟨below, _⟩ := inside [listed 'a' none] (listed 'b' (some " was d;".toList)) [listed 'c' none]
    rfl (by decide +kernel) (by decide +kernel) (by decide +kernel)
  exact ⟨behind (by decide +kernel), below⟩

/-- A comment that ends in a semicolon, and one that says where a name comes from: in both texts the
new import lands inside the list. -/
theorem import_lands_inside_list :
    ((commentedList " was d;".toList).WellFormed ∧
      (commentedText " was d;".toList).lines.map Text.trim =
        (commentedList " was d;".toList).lines ++ ["alert('x');".toList] ∧
      insertionLine "react".toList (commentedText " was d;".toList) <
        (commentedList " was d;".toList).lines.length) ∧
    (commentedList " moved here from 'd'".toList).WellFormed ∧
      (commentedText " moved here from 'd'".toList).lines.map Text.trim =
        (commentedList " moved here from 'd'".toList).lines ++ ["alert('x');".toList] ∧
      insertionLine "react".toList (commentedText " moved here from 'd'".toList) <
        (commentedList " moved here from 'd'".toList).lines.length := by
  constructor
  · exact ⟨commentedList_wellFormed _, by decide +kernel, by decide +kernel⟩
  · exact ⟨commentedList_wellFormed _, by decide +kernel, by decide +kernel⟩

end Import

end DialogCodemod
