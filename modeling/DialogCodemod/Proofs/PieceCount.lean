import DialogCodemod.Proofs.Pieces
import Mathlib.Data.List.Basic

/-!
# Counting pieces across a rewrite

Replacements are written with few words, and so are the statements they replace. A question about
pieces that ignores these words is answered the same way before and after a rewrite, except for the
pieces that open the calls of the replaced statements. The main statement says so for every text:
what a count loses in a rewrite is one opening for each site.
-/

namespace DialogCodemod

/-- The words around which statements and replacements are written, apart from the openings of
dialog calls. -/
def vocabulary : List Text :=
  ["", "else", "if", "return", "const", "let", "var", "confirmed", "await", "new", "Promise",
    "resolve", "info", "notificationManager.show", "notificationManager.confirm"].map String.toList

/-- A question about pieces to which the words of the vocabulary do not matter, nor what ends a
name, nor how a dialog is reached. -/
structure PieceTest where
  holds : Text → Bool
  holds_vocabulary : ∀ word ∈ vocabulary, ∀ char, isBoundary char = true →
    holds (word ++ [char]) = false
  holds_name : ∀ word char, isBlank char = true ∨ char = '=' →
    holds (word ++ [char]) = holds (word ++ [' '])
  holds_access : ∀ (dialog : Dialog) (viaWindow : Bool),
    holds (accessSource viaWindow ++ dialog.opening) = holds dialog.opening

theorem isBoundary_of_isBlank {char : Char} (blank : isBlank char = true) :
    isBoundary char = true := by
  rcases isBlank_eq_true_iff.1 blank with rfl | rfl <;> rfl

theorem Blank.forall_isBoundary {gap : Text} (blank : Blank gap) :
    ∀ char ∈ gap, isBoundary char = true :=
  fun char member => isBoundary_of_isBlank (blank char member)

theorem vocabulary_letters : ∀ word ∈ vocabulary, ∀ char ∈ word, isBoundary char = false := by
  have checked : (vocabulary.all fun word => word.all fun char => !isBoundary char) = true := by
    decide
  intro word member
  exact Text.isBoundary_eq_false_of_all (List.all_eq_true.1 checked word member)

/-- Whether a text is written with the vocabulary alone, each word up to a boundary. -/
def inVocabulary (text : Text) : Bool :=
  text.pieces.all fun piece =>
    vocabulary.contains piece.dropLast && piece.getLast?.any isBoundary

namespace PieceTest

variable (test : PieceTest)

/-- The number of pieces for which the test holds. -/
def count (text : Text) : Nat :=
  text.pieces.countP test.holds

@[simp] theorem count_nil : test.count [] = 0 := rfl

theorem count_append {text : Text} (ends : EndsAtBoundary text) (later : Text) :
    test.count (text ++ later) = test.count text + test.count later := by
  rw [count, Text.pieces_append ends, List.countP_append]
  rfl

/-- A word counts with the boundary that ends it. -/
theorem count_word_append {word : Text} (letters : ∀ char ∈ word, isBoundary char = false)
    {char : Char} (boundary : isBoundary char = true) (later : Text) :
    test.count (word ++ char :: later) = (test.holds (word ++ [char])).toNat + test.count later := by
  rw [count, Text.pieces_word_append letters boundary]
  cases holds : test.holds (word ++ [char])
  · simp [holds, count]
  · simp [holds, count, Nat.add_comm]

theorem count_opening_append (dialog : Dialog) (viaWindow : Bool) (later : Text) :
    test.count (accessSource viaWindow ++ dialog.opening ++ later) =
      (test.holds dialog.opening).toNat + test.count later := by
  rw [count, dialog.pieces_opening_append, ← test.holds_access dialog viaWindow]
  cases holds : test.holds (accessSource viaWindow ++ dialog.opening)
  · simp [holds, count]
  · simp [holds, count, Nat.add_comm]

theorem count_vocabulary_append {word : Text} (known : word ∈ vocabulary) {char : Char}
    (boundary : isBoundary char = true) (later : Text) :
    test.count (word ++ char :: later) = test.count later := by
  rw [test.count_word_append (vocabulary_letters word known) boundary,
    test.holds_vocabulary word known char boundary]
  simp

@[simp] theorem count_boundary_cons {char : Char} (boundary : isBoundary char = true)
    (later : Text) : test.count (char :: later) = test.count later :=
  test.count_vocabulary_append (by decide : [] ∈ vocabulary) boundary later

/-- Boundary characters in a row count for nothing. -/
theorem count_boundaries_append {gap : Text} (boundaries : ∀ char ∈ gap, isBoundary char = true)
    (later : Text) : test.count (gap ++ later) = test.count later := by
  induction gap with
  | nil => rfl
  | cons char gap ih =>
      rw [List.cons_append, test.count_boundary_cons (boundaries char List.mem_cons_self)]
      exact ih fun char member => boundaries char (List.mem_cons_of_mem _ member)

theorem count_gap_append {gap : Text} (blank : Blank gap) (later : Text) :
    test.count (gap ++ later) = test.count later :=
  test.count_boundaries_append blank.forall_isBoundary later

/-- A word of the vocabulary counts for nothing, with or without a gap before the next token. -/
theorem count_vocabulary_gap_append {word gap : Text} (known : word ∈ vocabulary)
    (blank : Blank gap) {char : Char} (boundary : isBoundary char = true) (later : Text) :
    test.count (word ++ (gap ++ char :: later)) = test.count later := by
  cases gap with
  | nil => exact test.count_vocabulary_append known boundary later
  | cons first gap =>
      have parts := blank_cons.1 blank
      rw [List.cons_append, test.count_vocabulary_append known (isBoundary_of_isBlank parts.1),
        test.count_gap_append parts.2, test.count_boundary_cons boundary]

/-- A word of the vocabulary that a gap separates from the next word counts for nothing. -/
theorem count_vocabulary_blanks_append {word gap : Text} (known : word ∈ vocabulary)
    (nonempty : gap ≠ []) (blank : Blank gap) (later : Text) :
    test.count (word ++ (gap ++ later)) = test.count later := by
  cases gap with
  | nil => exact absurd rfl nonempty
  | cons first gap =>
      have parts := blank_cons.1 blank
      rw [List.cons_append, test.count_vocabulary_append known (isBoundary_of_isBlank parts.1),
        test.count_gap_append parts.2]

theorem count_flatten_append {words : List Text}
    (known : ∀ word ∈ words, word.dropLast ∈ vocabulary ∧ ∃ last, word.getLast? = some last ∧
      isBoundary last = true) (later : Text) :
    test.count (words.flatten ++ later) = test.count later := by
  induction words with
  | nil => rfl
  | cons word words ih =>
      obtain ⟨inVocabulary, last, ends, boundary⟩ := known word List.mem_cons_self
      have split : word = word.dropLast ++ [last] :=
        (List.dropLast_append_getLast? last ends).symm
      rw [List.flatten_cons, split, List.append_assoc, List.append_assoc, List.cons_append,
        test.count_vocabulary_append inVocabulary boundary]
      exact ih fun word member => known word (List.mem_cons_of_mem _ member)

/-- Fixed text that is written with the vocabulary counts for nothing. -/
theorem count_fixed_append (fixed : Text) (known : inVocabulary fixed = true) (later : Text) :
    test.count (fixed ++ later) = test.count later := by
  have counted : test.count (fixed.pieces.flatten ++ later) = test.count later := by
    apply test.count_flatten_append
    intro piece member
    have both := List.all_eq_true.1 known piece member
    simpa [Option.any_eq_true] using both
  rwa [Text.flatten_pieces] at counted

/-! ## Statements and their replacements -/

/-- What a message contributes, its closing quote included. -/
theorem count_message_append (message : Literal) (later : Text) :
    test.count (message.source ++ later) =
      test.count (message.body ++ [message.quote.char]) + test.count later := by
  have quote : isBoundary message.quote.char = true := by
    cases message.quote <;> rfl
  have ends : EndsAtBoundary (message.body ++ [message.quote.char]) := by
    simp [EndsAtBoundary, quote]
  rw [Literal.source, List.cons_append, test.count_boundary_cons quote, test.count_append ends]

/-- A call contributes its opening and its message. -/
theorem count_call_append (dialog : Dialog) {call : Call} (wellFormed : call.WellFormed)
    (later : Text) :
    test.count (call.source dialog ++ later) = (test.holds dialog.opening).toNat +
      test.count (call.message.body ++ [call.message.quote.char]) + test.count later := by
  have closing (rest : Text) : test.count ([')'] ++ rest) = test.count rest :=
    test.count_boundary_cons rfl rest
  rw [Call.source]
  simp only [List.append_assoc]
  rw [← List.append_assoc, test.count_opening_append, test.count_gap_append wellFormed.lead,
    test.count_message_append, test.count_gap_append wellFormed.trail, closing, Nat.add_assoc]

theorem count_guard_append {guard : Guard} (wellFormed : guard.WellFormed) (later : Text) :
    test.count (guard.source ++ later) = (test.holds Dialog.confirm.opening).toNat +
      test.count (guard.call.message.body ++ [guard.call.message.quote.char]) +
        test.count later := by
  have beforeIf (rest : Text) :
      test.count (Guard.elseSource guard.elseGap ++ rest) = test.count rest := by
    cases gap : guard.elseGap with
    | none => rfl
    | some blanks =>
        have present := wellFormed.elseGap blanks gap
        rw [Guard.elseSource, List.append_assoc, test.count_vocabulary_blanks_append
          (by decide) present.1 present.2]
  rw [Guard.source]
  simp only [List.append_assoc, List.cons_append, List.nil_append]
  rw [beforeIf, test.count_vocabulary_gap_append (by decide) wellFormed.ifGap rfl,
    test.count_gap_append wellFormed.openGap, test.count_boundary_cons rfl,
    test.count_gap_append wellFormed.notGap, test.count_call_append .confirm wellFormed.call,
    test.count_gap_append wellFormed.callGap, test.count_boundary_cons rfl,
    test.count_gap_append wellFormed.closeGap,
    test.count_vocabulary_gap_append (by decide) wellFormed.returnGap rfl]

end PieceTest

theorem isBoundary_eq_false_of_continuesName {char : Char} (continues : continuesName char = true) :
    isBoundary char = false := by
  rw [continuesName] at continues
  rw [isBoundary, continues]
  rfl

theorem continuesName_of_startsName {char : Char} (starts : startsName char = true) :
    continuesName char = true := by
  rw [startsName, Bool.or_eq_true, Bool.or_eq_true, beq_iff_eq, beq_iff_eq] at starts
  rw [continuesName, Bool.or_eq_true]
  rcases starts with (letter | rfl) | rfl
  · left
    exact isWord_of_isAlphanum (by simp [Char.isAlphanum, letter])
  · exact .inl rfl
  · exact .inr rfl

theorem Binding.WellFormed.name_letters {binding : Binding} (wellFormed : binding.WellFormed) :
    ∀ char ∈ binding.name, isBoundary char = false := by
  intro char member
  apply isBoundary_eq_false_of_continuesName
  rcases List.mem_cons.1 member with rfl | member
  · exact continuesName_of_startsName wellFormed.nameStart
  · exact wellFormed.nameRest char member

namespace PieceTest

variable (test : PieceTest)

/-- A name counts the same whatever token follows it. -/
theorem count_name_append {binding : Binding} (wellFormed : binding.WellFormed) (later : Text) :
    test.count (binding.name ++ (binding.nameGap ++ '=' :: later)) =
      (test.holds (binding.name ++ [' '])).toNat + test.count later := by
  have letters := wellFormed.name_letters
  cases gap : binding.nameGap with
  | nil =>
      rw [List.nil_append, test.count_word_append letters rfl, test.holds_name _ _ (.inr rfl)]
  | cons first more =>
      have blank := wellFormed.nameGap
      rw [gap, blank_cons] at blank
      rw [List.cons_append, test.count_word_append letters (isBoundary_of_isBlank blank.1),
        test.holds_name _ _ (.inl blank.1), test.count_gap_append blank.2,
        test.count_boundary_cons rfl]

theorem count_binding_append {binding : Binding} (wellFormed : binding.WellFormed)
    (later : Text) :
    test.count (binding.source ++ later) = (test.holds Dialog.confirm.opening).toNat +
      (test.count (binding.call.message.body ++ [binding.call.message.quote.char]) +
        (test.holds (binding.name ++ [' '])).toNat) + test.count later := by
  have keyword : binding.keyword.source ∈ vocabulary := by
    cases binding.keyword <;> decide
  rw [Binding.source]
  simp only [List.append_assoc, List.cons_append, List.nil_append]
  rw [test.count_vocabulary_blanks_append keyword wellFormed.keywordGap_ne_nil
      wellFormed.keywordGap, test.count_name_append wellFormed,
    test.count_gap_append wellFormed.equalsGap, test.count_call_append .confirm wellFormed.call]
  omega

end PieceTest

/-- The dialog whose calls a rule replaces. -/
def Rule.dialog : Rule → Dialog
  | .bareAlert | .windowAlert => .alert
  | .confirmGuard | .confirmAssignment => .confirm

namespace PieceTest

variable (test : PieceTest)

/-- What a replacement keeps of a statement: the message and the name that is bound. -/
def keptCount (statement : Statement) : Nat :=
  test.count (statement.message.body ++ [statement.message.quote.char]) +
    match statement with
    | .binding written => (test.holds (written.name ++ [' '])).toNat
    | _ => 0

/-- A statement contributes the opening of its call and what a replacement keeps. -/
theorem count_source_append {rule : Rule} {statement : Statement}
    (admitted : rule.Admits statement) (later : Text) :
    test.count (statement.source ++ later) = (test.holds rule.dialog.opening).toNat +
      test.keptCount statement + test.count later := by
  cases statement with
  | alert written =>
      cases rule with
      | bareAlert | windowAlert => exact test.count_call_append .alert admitted.1 later
      | confirmGuard | confirmAssignment => exact admitted.elim
  | guard written =>
      cases rule with
      | confirmGuard => exact test.count_guard_append admitted later
      | bareAlert | windowAlert | confirmAssignment => exact admitted.elim
  | binding written =>
      cases rule with
      | confirmAssignment => exact test.count_binding_append admitted later
      | bareAlert | windowAlert | confirmGuard => exact admitted.elim

theorem count_lineBreak_append {layout : Layout} (blank : Blank layout.indent) (later : Text) :
    test.count (layout.lineBreak ++ later) = test.count later := by
  rw [Layout.lineBreak, List.append_assoc, test.count_boundaries_append,
    test.count_gap_append blank]
  have checked : layout.ending.text.all isBoundary = true := by
    cases layout.ending <;> decide
  exact List.all_eq_true.1 checked

theorem blank_nested {layout : Layout} (blank : Blank layout.indent) :
    Blank layout.nested.indent := by
  intro char member
  rcases List.mem_append.1 member with outer | inner
  · exact blank char outer
  · have checked : "  ".toList.all isBlank = true := by
      decide
    exact List.all_eq_true.1 checked char inner

theorem count_showCall_append (message : Literal) (later : Text) :
    test.count (Notifier.showCall {} message ++ later) =
      test.count (message.body ++ [message.quote.char]) + test.count later := by
  have call (rest : Text) : ({} : Notifier).name ++ (".show(".toList ++ rest) =
      "notificationManager.show(".toList ++ rest := rfl
  have severity (rest : Text) : ", '".toList ++ (({} : Notifier).severity ++ ("')".toList ++ rest)) =
      ", 'info')".toList ++ rest := rfl
  unfold Notifier.showCall
  simp only [List.append_assoc]
  rw [call, severity, test.count_fixed_append "notificationManager.show(".toList (by decide),
    test.count_message_append, test.count_fixed_append ", 'info')".toList (by decide)]

theorem count_awaitedAnswer_append {layout : Layout} (blank : Blank layout.indent)
    (message : Literal) (later : Text) :
    test.count (Notifier.awaitedAnswer {} layout message ++ later) =
      test.count (message.body ++ [message.quote.char]) + test.count later := by
  have call (rest : Text) : ({} : Notifier).name ++ (".confirm(".toList ++ rest) =
      "notificationManager.confirm(".toList ++ rest := rfl
  unfold Notifier.awaitedAnswer
  simp only [List.append_assoc]
  rw [call, test.count_fixed_append "await new Promise((resolve) => \x7b".toList (by decide),
    test.count_lineBreak_append (blank_nested blank),
    test.count_fixed_append "notificationManager.confirm(".toList (by decide),
    test.count_message_append, test.count_fixed_append ", resolve);".toList (by decide),
    test.count_lineBreak_append blank, test.count_fixed_append "\x7d)".toList (by decide)]

theorem count_awaitedGuard_append {layout : Layout} (blank : Blank layout.indent)
    (message : Literal) (later : Text) :
    test.count (Notifier.awaitedGuard {} layout message ++ later) =
      test.count (message.body ++ [message.quote.char]) + test.count later := by
  unfold Notifier.awaitedGuard
  simp only [List.append_assoc]
  rw [test.count_fixed_append "const confirmed = ".toList (by decide),
    test.count_awaitedAnswer_append blank, test.count_fixed_append ";".toList (by decide),
    test.count_lineBreak_append blank,
    test.count_fixed_append "if (!confirmed) return;".toList (by decide)]

/-- A replacement contributes what it keeps of the statement, and nothing else. -/
theorem count_replacement_append {rule : Rule} {statement : Statement}
    (admitted : rule.Admits statement) {layout : Layout} (blank : Blank layout.indent)
    (later : Text) :
    test.count (statement.replacement {} layout ++ later) =
      test.keptCount statement + test.count later := by
  cases statement with
  | alert written => exact test.count_showCall_append written.message later
  | guard written =>
      obtain ⟨elseGap, ifGap, openGap, notGap, call, callGap, closeGap, returnGap⟩ := written
      cases elseGap with
      | none => exact test.count_awaitedGuard_append blank call.message later
      | some gap =>
          unfold Statement.replacement
          simp only [List.append_assoc]
          rw [test.count_fixed_append "else \x7b".toList (by decide),
            test.count_lineBreak_append (blank_nested blank),
            test.count_awaitedGuard_append (blank_nested blank),
            test.count_lineBreak_append blank, test.count_fixed_append "\x7d".toList (by decide)]
          rfl
  | binding written =>
      cases rule with
      | confirmAssignment =>
          have keyword : written.keyword.source ∈ vocabulary := by
            cases written.keyword <;> decide
          have gap : Blank " ".toList := by simp [isBlank]
          have equals (rest : Text) : " = ".toList ++ rest = ' ' :: ("= ".toList ++ rest) := rfl
          unfold Statement.replacement
          simp only [List.append_assoc]
          rw [equals, test.count_vocabulary_blanks_append keyword (by decide) gap,
            test.count_word_append admitted.name_letters rfl,
            test.count_fixed_append "= ".toList (by decide),
            test.count_awaitedAnswer_append blank, keptCount]
          simp only [Statement.message]
          omega
      | bareAlert | windowAlert | confirmGuard => exact admitted.elim

/-- The rest of a scan, after any text that has been passed without a site: each site takes one
opening away. -/
theorem count_append_replaceSites (rule : Rule) (ending : LineEnding) (atStart : Bool)
    (text before passed : Text) (start : atStart = true → passed = []) :
    test.count (passed ++ replaceSites {} ending before (rule.segmentsFrom atStart text)) +
        (rule.segmentsFrom atStart text).countP Segment.isSite *
          (test.holds rule.dialog.opening).toNat =
      test.count (passed ++ text) := by
  fun_induction Rule.segmentsFrom rule atStart text generalizing before passed with
  | case1 atStart text site rest found ih =>
      obtain ⟨split, placed, admitted⟩ := Rule.site?_eq_some_iff.1 found
      have ends := placed.endsAtBoundary start
      obtain ⟨boundary, statement⟩ := site
      have later := ih (statement.source.reverse ++ (boundary.toList ++ before)) [] (by simp)
      rw [List.nil_append, List.nil_append] at later
      have blank := Text.blank_indentation (boundary.toList ++ before)
      rw [split, Site.source, replaceSites, List.countP_cons_of_pos (by rfl)]
      simp only [List.append_assoc]
      rw [← List.append_assoc passed, ← List.append_assoc passed, test.count_append ends,
        test.count_append ends, test.count_source_append admitted,
        test.count_replacement_append admitted blank, ← later, Nat.succ_mul]
      omega
  | case2 => simp [replaceSites]
  | case3 atStart char rest missing ih =>
      have later := ih (char :: before) (passed ++ [char]) (by simp)
      rw [replaceSites, List.countP_cons_of_neg (by simp [Segment.isSite])]
      simpa using later

/-- What a count loses in a rewrite is one opening for each site. -/
theorem count_rewrite (rule : Rule) (ending : LineEnding) (text : Text) :
    test.count (rule.rewrite {} ending text) +
        rule.siteCount text * (test.holds rule.dialog.opening).toNat =
      test.count text := by
  have whole := test.count_append_replaceSites rule ending true text [] [] (fun _ => rfl)
  simpa [Rule.rewrite, Rule.siteCount, Rule.segments] using whole

end PieceTest

/-! ## Calls -/

namespace Dialog

/-- An opening ends with a parenthesis, and the word before it belongs to the dialog. -/
theorem eq_of_isOpening_concat {dialog : Dialog} {word : Text} {char : Char}
    (opening : dialog.isOpening (word ++ [char]) = true) :
    char = '(' ∧ (word = dialog.opening.dropLast ∨
      word = (windowAccess ++ dialog.opening).dropLast) := by
  rcases isOpening_eq_true_iff.1 opening with same | same
  · have word' := congrArg List.dropLast same
    have last := congrArg List.getLast? same
    rw [List.dropLast_concat] at word'
    rw [List.getLast?_concat] at last
    refine ⟨?_, .inl word'⟩
    cases dialog <;> exact Option.some.inj last
  · have word' := congrArg List.dropLast same
    have last := congrArg List.getLast? same
    rw [List.dropLast_concat] at word'
    rw [List.getLast?_concat] at last
    refine ⟨?_, .inr word'⟩
    cases dialog <;> exact Option.some.inj last

/-- The openings of a dialog as a test of pieces. -/
def openingTest (dialog : Dialog) : PieceTest where
  holds := dialog.isOpening
  holds_vocabulary := by
    intro word known char _
    apply eq_false_of_ne_true
    intro opening
    rcases (eq_of_isOpening_concat opening).2 with rfl | rfl
    · revert known
      cases dialog <;> decide
    · revert known
      cases dialog <;> decide
  holds_name := by
    have neither (word : Text) (char : Char) (other : char ≠ '(') :
        dialog.isOpening (word ++ [char]) = false := by
      apply eq_false_of_ne_true
      intro opening
      exact other (eq_of_isOpening_concat opening).1
    intro word char token
    rw [neither word ' ' (by decide)]
    apply neither
    rintro rfl
    rcases token with blank | equals
    · cases blank
    · cases equals
  holds_access := by
    intro called viaWindow
    cases dialog <;> cases called <;> cases viaWindow <;> decide

theorem callCount_eq_count (dialog : Dialog) (text : Text) :
    dialog.callCount text = dialog.openingTest.count text :=
  dialog.callCount_eq_countP text

theorem callCount_append (dialog : Dialog) {text : Text} (ends : EndsAtBoundary text)
    (later : Text) :
    dialog.callCount (text ++ later) = dialog.callCount text + dialog.callCount later := by
  simp only [callCount_eq_count]
  exact dialog.openingTest.count_append ends later

/-- A rewrite takes one call away for each site, if the rule is about the dialog. -/
theorem callCount_rewrite (dialog : Dialog) (rule : Rule) (ending : LineEnding) (text : Text) :
    dialog.callCount (rule.rewrite {} ending text) +
        (if rule.dialog = dialog then rule.siteCount text else 0) =
      dialog.callCount text := by
  have counted := dialog.openingTest.count_rewrite rule ending text
  have own : (dialog.openingTest.holds rule.dialog.opening).toNat =
      if rule.dialog = dialog then 1 else 0 := by
    cases dialog <;> cases rule <;> rfl
  rw [own] at counted
  simp only [callCount_eq_count, ← counted]
  split <;> simp

end Dialog

/-- The number of dialog calls in a text. -/
def callCount (text : Text) : Nat :=
  Dialog.alert.callCount text + Dialog.confirm.callCount text

@[simp] theorem callCount_nil : callCount [] = 0 := rfl

theorem Detection.any_ofText_eq_true_iff {text : Text} :
    (Detection.ofText text).any = true ↔ 0 < callCount text := by
  rw [Detection.any, Bool.or_eq_true, Detection.ofText, Dialog.occursIn_eq_true_iff,
    Dialog.occursIn_eq_true_iff, callCount]
  omega

theorem Detection.any_ofText_eq_false_iff {text : Text} :
    (Detection.ofText text).any = false ↔ callCount text = 0 := by
  rw [← Bool.not_eq_true, Detection.any_ofText_eq_true_iff, Nat.not_lt, Nat.le_zero]

theorem callCount_append {text : Text} (ends : EndsAtBoundary text) (later : Text) :
    callCount (text ++ later) = callCount text + callCount later := by
  simp only [callCount, Dialog.callCount_append _ ends]
  omega

/-- Each site that is replaced is one call less. -/
theorem callCount_rewrite (rule : Rule) (ending : LineEnding) (text : Text) :
    callCount (rule.rewrite {} ending text) + rule.siteCount text = callCount text := by
  have alert := Dialog.alert.callCount_rewrite rule ending text
  have confirm := Dialog.confirm.callCount_rewrite rule ending text
  simp only [callCount, ← alert, ← confirm]
  cases rule <;> simp [Rule.dialog] <;> omega

/-- A text without dialog calls has no sites. -/
theorem Rule.siteCount_eq_zero_of_callCount_eq_zero {text : Text} (quiet : callCount text = 0)
    (rule : Rule) : rule.siteCount text = 0 := by
  have counted := callCount_rewrite rule .newline text
  omega

theorem Rule.rewrite_of_callCount_eq_zero {rule : Rule} {text : Text} (quiet : callCount text = 0)
    (notifier : Notifier) (ending : LineEnding) : rule.rewrite notifier ending text = text :=
  rewrite_of_siteCount_eq_zero (siteCount_eq_zero_of_callCount_eq_zero quiet rule)

end DialogCodemod
