import DialogCodemod.Proofs.Undetected
import Mathlib.Tactic.Ring

/-!
# The balance of delimiters

What takes the place of a statement opens and closes parentheses and braces on several lines. This
module reads off which delimiters a statement and its replacement have around the message, and
concludes that a conversion keeps the balance of a text, whatever delimiters its messages hold. The
only delimiters that come in without a counterpart are single quotes: two for the severity of each
alert and two for the module path of the import.

The numbers that are kept are all weights of one kind: a parenthesis and a brace each cancel with the
one that closes it. So the passage through the rules is shown once, for every such weight.
-/

namespace DialogCodemod

/-! ## The delimiters of a text -/

/-- Brackets, quotes and the backtick. -/
def isDelimiter (char : Char) : Bool :=
  "()[]\x7b\x7d\x27\x22\x60".toList.contains char

/-- The delimiters of a text, in order. -/
def delimiters (text : Text) : Text :=
  text.filter isDelimiter

@[simp] theorem delimiters_append (first later : Text) :
    delimiters (first ++ later) = delimiters first ++ delimiters later :=
  List.filter_append first later

/-- No delimiter is part of a name. -/
theorem isBoundary_of_isDelimiter {char : Char} (delimiter : isDelimiter char = true) :
    isBoundary char = true := by
  have checked : "()[]\x7b\x7d\x27\x22\x60".toList.all isBoundary = true := by
    decide
  exact List.all_eq_true.1 checked char (List.contains_iff_mem.1 delimiter)

theorem delimiters_of_letters {word : Text} (letters : ∀ char ∈ word, isBoundary char = false) :
    delimiters word = [] := by
  apply List.filter_eq_nil_iff.2
  intro char member delimiter
  have boundary := isBoundary_of_isDelimiter delimiter
  rw [letters char member] at boundary
  cases boundary

theorem Blank.delimiters_eq_nil {gap : Text} (blank : Blank gap) : delimiters gap = [] := by
  apply List.filter_eq_nil_iff.2
  intro char member
  rcases isBlank_eq_true_iff.1 (blank char member) with rfl | rfl <;> decide

/-! ### Statements -/

/-- The delimiters that a statement has before and behind its message. -/
def Statement.sourceDelimiters : Statement → Text × Text
  | .alert _ | .binding _ => (['('], [')'])
  | .guard _ => (['(', '('], [')', ')'])

theorem Call.WellFormed.delimiters_source {call : Call} (wellFormed : call.WellFormed)
    (dialog : Dialog) :
    delimiters (call.source dialog) = ['('] ++ (delimiters call.message.source ++ [')']) := by
  have access : delimiters (accessSource call.viaWindow) = [] := by
    cases call.viaWindow <;> rfl
  have opening : delimiters dialog.opening = ['('] := by
    cases dialog <;> rfl
  have closing : delimiters [')'] = [')'] := rfl
  rw [Call.source]
  simp only [delimiters_append, access, opening, closing, wellFormed.lead.delimiters_eq_nil,
    wellFormed.trail.delimiters_eq_nil]
  simp

theorem Guard.WellFormed.delimiters_source {guard : Guard} (wellFormed : guard.WellFormed) :
    delimiters guard.source =
      ['(', '('] ++ (delimiters guard.call.message.source ++ [')', ')']) := by
  have branch : delimiters (Guard.elseSource guard.elseGap) = [] := by
    cases gap : guard.elseGap with
    | none => rfl
    | some blanks =>
        have word : delimiters "else".toList = [] := rfl
        rw [Guard.elseSource, delimiters_append, word,
          (wellFormed.elseGap blanks gap).2.delimiters_eq_nil, List.append_nil]
  have words : delimiters "if".toList = [] ∧ delimiters ['('] = ['('] ∧ delimiters ['!'] = [] ∧
      delimiters [')'] = [')'] ∧ delimiters "return".toList = [] ∧ delimiters [';'] = [] :=
    ⟨rfl, rfl, rfl, rfl, rfl, rfl⟩
  rw [Guard.source]
  simp only [delimiters_append, branch, words, wellFormed.call.delimiters_source,
    wellFormed.ifGap.delimiters_eq_nil, wellFormed.openGap.delimiters_eq_nil,
    wellFormed.notGap.delimiters_eq_nil, wellFormed.callGap.delimiters_eq_nil,
    wellFormed.closeGap.delimiters_eq_nil, wellFormed.returnGap.delimiters_eq_nil]
  simp

theorem Binding.WellFormed.delimiters_source {binding : Binding}
    (wellFormed : binding.WellFormed) :
    delimiters binding.source = ['('] ++ (delimiters binding.call.message.source ++ [')']) := by
  have keyword : delimiters binding.keyword.source = [] := by
    cases binding.keyword <;> rfl
  have equals : delimiters ['='] = [] := rfl
  rw [Binding.source]
  simp only [delimiters_append, keyword, equals, delimiters_of_letters wellFormed.name_letters,
    wellFormed.keywordGap.delimiters_eq_nil, wellFormed.nameGap.delimiters_eq_nil,
    wellFormed.equalsGap.delimiters_eq_nil, wellFormed.call.delimiters_source]
  simp

theorem Statement.WellFormed.delimiters_source {statement : Statement}
    (wellFormed : statement.WellFormed) :
    delimiters statement.source = statement.sourceDelimiters.1 ++
      (delimiters statement.message.source ++ statement.sourceDelimiters.2) := by
  cases statement with
  | alert written => exact Call.WellFormed.delimiters_source wellFormed .alert
  | guard written => exact Guard.WellFormed.delimiters_source wellFormed
  | binding written => exact Binding.WellFormed.delimiters_source wellFormed

/-! ### Replacements -/

/-- The delimiters before and behind the message of a question that is awaited. -/
def answerDelimiters : Text × Text :=
  (['(', '(', ')', '\x7b', '('], [')', '\x7d', ')'])

/-- The delimiters before and behind the message in what takes the place of a statement. -/
def Statement.replacementDelimiters : Statement → Text × Text
  | .alert _ => (['('], ['\x27', '\x27', ')'])
  | .guard { elseGap := none, .. } => (answerDelimiters.1, answerDelimiters.2 ++ ['(', ')'])
  | .guard { elseGap := some _, .. } =>
      ('\x7b' :: answerDelimiters.1, answerDelimiters.2 ++ ['(', ')', '\x7d'])
  | .binding _ => answerDelimiters

section Replacements

variable {layout : Layout} (blank : Blank layout.indent) (message : Literal)

theorem delimiters_showCall :
    delimiters (Notifier.showCall {} message) =
      ['('] ++ (delimiters message.source ++ ['\x27', '\x27', ')']) := by
  have words : delimiters ({} : Notifier).name = [] ∧ delimiters ".show(".toList = ['('] ∧
      delimiters ", '".toList = ['\x27'] ∧ delimiters ({} : Notifier).severity = [] ∧
      delimiters "')".toList = ['\x27', ')'] :=
    ⟨rfl, rfl, rfl, rfl, rfl⟩
  unfold Notifier.showCall
  simp only [delimiters_append, words]
  simp

include blank

theorem delimiters_lineBreak : delimiters layout.lineBreak = [] := by
  have ending : delimiters layout.ending.text = [] := by
    cases layout.ending <;> rfl
  rw [Layout.lineBreak, delimiters_append, ending, blank.delimiters_eq_nil, List.append_nil]

theorem delimiters_awaitedAnswer :
    delimiters (Notifier.awaitedAnswer {} layout message) =
      answerDelimiters.1 ++ (delimiters message.source ++ answerDelimiters.2) := by
  have words : delimiters "await new Promise((resolve) => \x7b".toList = ['(', '(', ')', '\x7b'] ∧
      delimiters ({} : Notifier).name = [] ∧ delimiters ".confirm(".toList = ['('] ∧
      delimiters ", resolve);".toList = [')'] ∧ delimiters "\x7d)".toList = ['\x7d', ')'] :=
    ⟨rfl, rfl, rfl, rfl, rfl⟩
  unfold Notifier.awaitedAnswer
  simp only [delimiters_append, words, delimiters_lineBreak blank,
    delimiters_lineBreak (PieceTest.blank_nested blank)]
  simp [answerDelimiters]

theorem delimiters_awaitedGuard :
    delimiters (Notifier.awaitedGuard {} layout message) =
      answerDelimiters.1 ++ (delimiters message.source ++ (answerDelimiters.2 ++ ['(', ')'])) := by
  have words : delimiters "const confirmed = ".toList = [] ∧ delimiters ";".toList = [] ∧
      delimiters "if (!confirmed) return;".toList = ['(', ')'] :=
    ⟨rfl, rfl, rfl⟩
  unfold Notifier.awaitedGuard
  simp only [delimiters_append, words, delimiters_awaitedAnswer blank, delimiters_lineBreak blank]
  simp

theorem Statement.WellFormed.delimiters_replacement {statement : Statement}
    (wellFormed : statement.WellFormed) :
    delimiters (statement.replacement {} layout) = statement.replacementDelimiters.1 ++
      (delimiters statement.message.source ++ statement.replacementDelimiters.2) := by
  cases statement with
  | alert written => exact delimiters_showCall written.message
  | guard written =>
      obtain ⟨elseGap, ifGap, openGap, notGap, call, callGap, closeGap, returnGap⟩ := written
      cases elseGap with
      | none => exact delimiters_awaitedGuard blank call.message
      | some gap =>
          have nested := PieceTest.blank_nested blank
          have words : delimiters "else \x7b".toList = ['\x7b'] ∧
              delimiters "\x7d".toList = ['\x7d'] :=
            ⟨rfl, rfl⟩
          unfold Statement.replacement Statement.replacementDelimiters Statement.message
          simp only [delimiters_append, words, delimiters_awaitedGuard nested,
            delimiters_lineBreak blank, delimiters_lineBreak nested]
          simp
  | binding written =>
      have keyword : delimiters written.keyword.source = [] := by
        cases written.keyword <;> rfl
      have words : delimiters " ".toList = [] ∧ delimiters " = ".toList = [] := ⟨rfl, rfl⟩
      have name := delimiters_of_letters (Binding.WellFormed.name_letters wellFormed)
      unfold Statement.replacement Statement.replacementDelimiters Statement.message
      simp only [delimiters_append, keyword, words, name, delimiters_awaitedAnswer blank]
      simp

end Replacements

/-! ## Weights -/

/-- Numbers for the delimiters. Parentheses and braces cancel with those that close them, and all
other characters count for nothing. -/
structure DelimiterWeight where
  ofChar : Char → Int
  parentheses : ofChar '(' + ofChar ')' = 0
  braces : ofChar '\x7b' + ofChar '\x7d' = 0
  others : ∀ char, isDelimiter char = false → ofChar char = 0

namespace DelimiterWeight

variable (weight : DelimiterWeight)

/-- The weight of a text. -/
def total : Text → Int
  | [] => 0
  | char :: rest => weight.ofChar char + total rest

@[simp] theorem total_nil : weight.total [] = 0 := rfl

@[simp] theorem total_cons (char : Char) (rest : Text) :
    weight.total (char :: rest) = weight.ofChar char + weight.total rest := rfl

@[simp] theorem total_append (first later : Text) :
    weight.total (first ++ later) = weight.total first + weight.total later := by
  induction first with
  | nil => simp
  | cons char first ih =>
      rw [List.cons_append, total_cons, total_cons, ih, Int.add_assoc]

/-- Only the delimiters of a text have weight. -/
theorem total_delimiters (text : Text) : weight.total (delimiters text) = weight.total text := by
  induction text with
  | nil => rfl
  | cons char text ih =>
      cases kind : isDelimiter char with
      | true =>
          have kept : delimiters (char :: text) = char :: delimiters text :=
            List.filter_cons_of_pos kind
          rw [kept, total_cons, total_cons, ih]
      | false =>
          have dropped : delimiters (char :: text) = delimiters text :=
            List.filter_cons_of_neg (by simp [kind])
          rw [dropped, total_cons, weight.others char kind, ih, Int.zero_add]

/-- What the replacement of a statement adds: an alert gets two quotes for its severity. -/
def gain : Dialog → Int
  | .alert => 2 * weight.ofChar '\x27'
  | .confirm => 0

/-- A question that is awaited closes what it opens. -/
theorem total_answerDelimiters :
    weight.total answerDelimiters.1 + weight.total answerDelimiters.2 = 0 := by
  have parentheses := weight.parentheses
  have braces := weight.braces
  simp only [answerDelimiters, total_cons, total_nil]
  omega

/-- Around the message, a replacement has the weight of the statement and what it adds. -/
theorem total_replacementDelimiters {rule : Rule} {statement : Statement}
    (admitted : rule.Admits statement) :
    weight.total statement.replacementDelimiters.1 + weight.total statement.replacementDelimiters.2 =
      weight.total statement.sourceDelimiters.1 + weight.total statement.sourceDelimiters.2 +
        weight.gain rule.dialog := by
  have parentheses := weight.parentheses
  have braces := weight.braces
  have answer := weight.total_answerDelimiters
  cases statement with
  | alert written =>
      cases rule with
      | bareAlert | windowAlert =>
          simp only [Statement.replacementDelimiters, Statement.sourceDelimiters, total_cons,
            total_nil, Rule.dialog, gain]
          omega
      | confirmGuard | confirmAssignment => exact admitted.elim
  | guard written =>
      obtain ⟨elseGap, ifGap, openGap, notGap, call, callGap, closeGap, returnGap⟩ := written
      cases rule with
      | confirmGuard =>
          cases elseGap <;>
            simp only [Statement.replacementDelimiters, Statement.sourceDelimiters, total_append,
              total_cons, total_nil, Rule.dialog, gain] <;>
            omega
      | bareAlert | windowAlert | confirmAssignment => exact admitted.elim
  | binding written =>
      cases rule with
      | confirmAssignment =>
          simp only [Statement.replacementDelimiters, Statement.sourceDelimiters, total_cons,
            total_nil, Rule.dialog, gain]
          omega
      | bareAlert | windowAlert | confirmGuard => exact admitted.elim

theorem total_replacement {rule : Rule} {statement : Statement}
    (admitted : rule.Admits statement) {layout : Layout} (blank : Blank layout.indent) :
    weight.total (statement.replacement {} layout) =
      weight.total statement.source + weight.gain rule.dialog := by
  have around := weight.total_replacementDelimiters admitted
  rw [← weight.total_delimiters (statement.replacement {} layout),
    ← weight.total_delimiters statement.source, admitted.wellFormed.delimiters_source,
    admitted.wellFormed.delimiters_replacement blank, total_append, total_append, total_append,
    total_append]
  omega

/-! ## Rules and conversions -/

/-- What a scan replaces adds up site by site; all else stays. -/
theorem total_replaceSites (rule : Rule) (ending : LineEnding) (atStart : Bool)
    (before text : Text) :
    weight.total (replaceSites {} ending before (rule.segmentsFrom atStart text)) =
      weight.total text +
        (rule.segmentsFrom atStart text).countP Segment.isSite * weight.gain rule.dialog := by
  fun_induction Rule.segmentsFrom rule atStart text generalizing before with
  | case1 atStart text site rest found ih =>
      obtain ⟨rfl, _, admitted⟩ := Rule.site?_eq_some_iff.1 found
      have replaced := @total_replacement weight rule site.statement admitted
        { indent := Text.indentation (site.boundary.toList ++ before), ending }
        (Text.blank_indentation _)
      rw [replaceSites, List.countP_cons_of_pos (by rfl), Site.source, total_append, total_append,
        total_append, total_append, replaced, ih]
      push_cast
      ring
  | case2 => simp [replaceSites]
  | case3 atStart char rest missing ih =>
      rw [replaceSites, List.countP_cons_of_neg (by simp [Segment.isSite]), total_cons, total_cons,
        ih, Int.add_assoc]

theorem total_apply (rule : Rule) (text : Text) :
    weight.total (rule.apply {} text) =
      weight.total text + rule.siteCount text * weight.gain rule.dialog :=
  weight.total_replaceSites rule (LineEnding.ofText text) true [] text

theorem total_applyAll (rules : List Rule) (text : Text) :
    weight.total (Rule.applyAll {} rules text) =
      weight.total text +
        Dialog.alert.replaced (Rule.steps {} rules text) * (2 * weight.ofChar '\x27') := by
  induction rules generalizing text with
  | nil => simp [Rule.applyAll, Rule.steps, Dialog.replaced]
  | cons rule rules ih =>
      have step := weight.total_apply rule text
      have rest := ih (rule.apply {} text)
      rw [Rule.steps, Dialog.replaced]
      simp only [Rule.applyAll, List.foldl_cons] at rest ⊢
      rw [rest, step]
      cases rule.dialog with
      | alert =>
          simp only [gain, if_true]
          push_cast
          ring
      | confirm => simp [gain]

theorem total_place (text : Text) (placement : Option Nat) :
    weight.total (Import.place {} text placement) =
      weight.total text + placement.isSome.toNat * (2 * weight.ofChar '\x27') := by
  cases placement with
  | none => simp [Import.place]
  | some line =>
      have statement : weight.total ({} : Notifier).importStatement = 2 * weight.ofChar '\x27' := by
        have quotes : delimiters ({} : Notifier).importStatement = ['\x27', '\x27'] := by
          decide
        rw [← weight.total_delimiters, quotes, total_cons, total_cons, total_nil]
        ring
      have ended : weight.total (LineEnding.ofText text).text = 0 := by
        rw [← weight.total_delimiters]
        cases LineEnding.ofText text <;> rfl
      obtain ⟨before, after, split, _, origin⟩ :=
        Import.exists_insertLine_eq text line ({} : Notifier).importStatement
      rw [Import.place, split]
      simp only [total_append, statement, ended, Option.isSome_some, Bool.toNat_true]
      rcases origin with whole | ⟨longer, rest⟩
      · rw [whole, total_append]
        push_cast
        ring
      · rw [longer, rest, total_append, ended, total_nil]
        push_cast
        ring

/-- A conversion adds two quotes for each alert it replaces and two for the import. -/
theorem total_text {text : Text} {conversion : Conversion}
    (converted : convert? {} text = some conversion) :
    weight.total conversion.text = weight.total text +
      (Dialog.alert.replaced conversion.steps + conversion.importInserted.toNat) *
        (2 * weight.ofChar '\x27') := by
  obtain ⟨_, _, importLine, _, steps⟩ := convert?_eq_some_iff.1 converted
  rw [Conversion.text_eq_applyAll converted, total_applyAll, ← steps,
    Conversion.imported_eq_place converted, total_place, Conversion.importInserted, importLine]
  ring

/-! ## The numbers of delimiters -/

/-- Delimiters that are counted, each with the one that is counted against it, if there is one. -/
def counted : List (Char × Option Char) :=
  [('(', some ')'), ('\x7b', some '\x7d'), ('[', none), (']', none), ('\x22', none),
    ('\x60', none), ('\x27', none)]

/-- The number of a character when the first of the pair is counted against the second. -/
def countAgainst (pair : Char × Option Char) (char : Char) : Int :=
  (if char = pair.1 then 1 else 0) - (if some char = pair.2 then 1 else 0)

/-- The number of one delimiter, less the number of the one that is counted against it. -/
def excess (pair : Char × Option Char) (known : pair ∈ counted) : DelimiterWeight where
  ofChar := countAgainst pair
  parentheses := by
    have checked : (counted.all fun pair =>
        countAgainst pair '(' + countAgainst pair ')' == 0) = true := by
      decide
    exact beq_iff_eq.1 (List.all_eq_true.1 checked pair known)
  braces := by
    have checked : (counted.all fun pair =>
        countAgainst pair '\x7b' + countAgainst pair '\x7d' == 0) = true := by
      decide
    exact beq_iff_eq.1 (List.all_eq_true.1 checked pair known)
  others := by
    have checked : (counted.all fun pair =>
        isDelimiter pair.1 && pair.2.all isDelimiter) = true := by
      decide
    intro char plain
    have delimiter := List.all_eq_true.1 checked pair known
    rw [Bool.and_eq_true, Option.all_eq_true] at delimiter
    have notFirst : char ≠ pair.1 := by
      rintro rfl
      rw [delimiter.1] at plain
      cases plain
    have notSecond : some char ≠ pair.2 := by
      intro second
      rw [delimiter.2 char second.symm] at plain
      cases plain
    rw [countAgainst, if_neg notFirst, if_neg notSecond]
    rfl

theorem total_excess (pair : Char × Option Char) (known : pair ∈ counted) (text : Text) :
    (excess pair known).total text =
      (text.count pair.1 : Int) - (pair.2.elim 0 fun closing => text.count closing : Nat) := by
  induction text with
  | nil => cases pair.2 <;> rfl
  | cons char text ih =>
      have number : (excess pair known).ofChar char = countAgainst pair char := rfl
      rw [total_cons, ih, number, countAgainst]
      obtain ⟨opening, closing⟩ := pair
      cases closing with
      | none =>
          simp only [Option.elim_none, List.count_cons, beq_iff_eq, reduceCtorEq, if_false]
          split <;> omega
      | some closing =>
          simp only [Option.elim_some, List.count_cons, beq_iff_eq, Option.some.injEq]
          split <;> split <;> omega

/-- A conversion changes none of these numbers but that of the single quotes. -/
theorem total_excess_text {text : Text} {conversion : Conversion}
    (converted : convert? {} text = some conversion) {pair : Char × Option Char}
    (known : pair ∈ counted) (unquoted : countAgainst pair '\x27' = 0) :
    (excess pair known).total conversion.text = (excess pair known).total text := by
  have quote : (excess pair known).ofChar '\x27' = 0 := unquoted
  rw [total_text _ converted, quote, Int.mul_zero, Int.mul_zero, Int.add_zero]

theorem count_text {text : Text} {conversion : Conversion}
    (converted : convert? {} text = some conversion) {char : Char}
    (known : (char, none) ∈ counted) (unquoted : countAgainst (char, none) '\x27' = 0) :
    conversion.text.count char = text.count char := by
  have kept := total_excess_text converted known unquoted
  rw [total_excess, total_excess] at kept
  simpa using kept

theorem count_quote_text {text : Text} {conversion : Conversion}
    (converted : convert? {} text = some conversion) :
    conversion.text.count '\x27' = text.count '\x27' +
      2 * Dialog.alert.replaced conversion.steps + (if conversion.importInserted then 2 else 0) := by
  have known : ('\x27', none) ∈ counted := by
    decide
  have grown := (excess ('\x27', none) known).total_text converted
  have quote : (excess ('\x27', none) known).ofChar '\x27' = 1 := rfl
  rw [total_excess, total_excess, quote] at grown
  cases inserted : conversion.importInserted with
  | true =>
      rw [inserted] at grown
      simp only [Option.elim_none, Bool.toNat_true, if_true] at grown ⊢
      omega
  | false =>
      rw [inserted] at grown
      simp only [Option.elim_none, Bool.toNat_false, Bool.false_eq_true, if_false] at grown ⊢
      omega

end DelimiterWeight

/-- A conversion keeps the balance of parentheses and of braces, and the numbers of brackets, double
quotes and backticks. Single quotes come in pairs, one for each alert that is replaced and one for
the import. -/
theorem conversion_keeps_balance {text : Text} {conversion : Conversion}
    (converted : convert? {} text = some conversion) :
    (conversion.text.count '(' : Int) - conversion.text.count ')' =
      text.count '(' - text.count ')' ∧
    (conversion.text.count '\x7b' : Int) - conversion.text.count '\x7d' =
      text.count '\x7b' - text.count '\x7d' ∧
    conversion.text.count '[' = text.count '[' ∧
    conversion.text.count ']' = text.count ']' ∧
    conversion.text.count '\x22' = text.count '\x22' ∧
    conversion.text.count '\x60' = text.count '\x60' ∧
    ∃ bareAlerts windowAlerts guards assignments,
      conversion.steps.map (fun step => (step.rule, step.count)) =
        [(.bareAlert, bareAlerts), (.windowAlert, windowAlerts), (.confirmGuard, guards),
          (.confirmAssignment, assignments)] ∧
      conversion.text.count '\x27' = text.count '\x27' + 2 * (bareAlerts + windowAlerts) +
        (if conversion.importInserted then 2 else 0) := by
  have parentheses := DelimiterWeight.total_excess_text converted
    (show ('(', some ')') ∈ DelimiterWeight.counted by decide) (by decide)
  have braces := DelimiterWeight.total_excess_text converted
    (show ('\x7b', some '\x7d') ∈ DelimiterWeight.counted by decide) (by decide)
  rw [DelimiterWeight.total_excess, DelimiterWeight.total_excess] at parentheses braces
  have ⟨bareAlerts, windowAlerts, guards, assignments, counts, alerts, _⟩ :=
    Rule.exists_counts {} conversion.imported
  rw [← (convert?_eq_some_iff.1 converted).2.2.2.2] at counts alerts
  have quotes := DelimiterWeight.count_quote_text converted
  rw [alerts] at quotes
  exact ⟨parentheses, braces, DelimiterWeight.count_text converted (by decide) (by decide),
    DelimiterWeight.count_text converted (by decide) (by decide),
    DelimiterWeight.count_text converted (by decide) (by decide),
    DelimiterWeight.count_text converted (by decide) (by decide),
    bareAlerts, windowAlerts, guards, assignments, counts, quotes⟩

/-- Delimiters in messages, and a call in the message of a question. -/
def delimitersInMessages : Text :=
  "alert('(\"[\x60\x7b');\n  else if (!confirm(\"\x7d alert('c')\")) return;\n".toList

/-- Both alerts and the question are replaced, and the import is added. -/
theorem conversion_keeps_balance_in_messages :
    ∃ conversion, convert? {} delimitersInMessages = some conversion ∧
      (conversion.text.count '(' : Int) - conversion.text.count ')' = 1 ∧
      (conversion.text.count '\x7b' : Int) - conversion.text.count '\x7d' = 0 ∧
      conversion.text.count '\x27' = 10 := by
  have ⟨conversion, converted, counted⟩ := (Option.any_eq_true _ _).1
    (show (convert? {} delimitersInMessages).any (fun conversion =>
        conversion.importInserted && conversion.steps.map (fun step => (step.rule, step.count)) ==
          [(.bareAlert, 2), (.windowAlert, 0), (.confirmGuard, 1), (.confirmAssignment, 0)]) =
        true by
      decide +kernel)
  rw [Bool.and_eq_true, beq_iff_eq] at counted
  have ⟨parentheses, braces, _, _, _, _, _, _, _, _, steps, quotes⟩ :=
    conversion_keeps_balance converted
  rw [counted.2] at steps
  cases steps
  rw [counted.1, if_pos rfl] at quotes
  refine ⟨conversion, converted, parentheses.trans ?_, braces.trans ?_, quotes.trans ?_⟩
  · decide +kernel
  · decide +kernel
  · decide +kernel

end DialogCodemod
