import DialogCodemod.Proofs.CallPosition

/-!
# Sites around a literal

The message of a statement is arbitrary text, and a rule that scans the statement scans its message
as well. Here the text before a literal, the body of the literal and the text behind it are told
apart. A quote separates what stands on its two sides, unless a statement crosses it. The main
statement is that a rule finds in a line around a literal just the sites in the body of the literal,
provided that no statement of the rule begins before it and that what follows cannot close a call.
-/

namespace DialogCodemod

theorem Quote.isBoundary_char (quote : Quote) : isBoundary quote.char = true := by
  cases quote <;> rfl

theorem Literal.WellFormed.notMem_body {literal : Literal} (wellFormed : literal.WellFormed) :
    literal.quote.char ∉ literal.body := by
  intro member
  simpa [Literal.allows] using wellFormed _ member

/-- A literal in a text, cut at its quotes. -/
theorem Literal.append_source_append (literal : Literal) (lead tail : Text) :
    lead ++ (literal.source ++ tail) =
      lead ++ literal.quote.char :: (literal.body ++ literal.quote.char :: tail) := by
  simp [Literal.source]

/-- A quote separates the calls on its two sides. -/
theorem callCount_append_quote (quote : Quote) (text later : Text) :
    callCount (text ++ quote.char :: later) = callCount text + callCount later := by
  have absent (dialog : Dialog) : quote.char ∉ windowAccess ++ dialog.opening := by
    cases quote <;> cases dialog <;> decide
  rw [callCount, Dialog.callCount_append_cons _ quote.isBoundary_char (absent .alert),
    Dialog.callCount_append_cons _ quote.isBoundary_char (absent .confirm), callCount, callCount]
  omega

theorem callCount_around_literal (literal : Literal) (lead tail : Text) :
    callCount (lead ++ (literal.source ++ tail)) =
      callCount lead + callCount literal.body + callCount tail := by
  rw [literal.append_source_append, callCount_append_quote, callCount_append_quote, Nat.add_assoc]

/-! ## Where the literal of a call may end -/

/-- A character that may follow the literal of a call. -/
def endsArgument (char : Char) : Bool :=
  isBlank char || char == ')'

/-- Whether the first quote of the given kind in a text could end the literal of a call. -/
def closesArgument (quote : Quote) (text : Text) : Bool :=
  ((text.dropWhile (· != quote.char)).drop 1).head?.any endsArgument

theorem closesArgument_append_of_notMem {quote : Quote} {middle : Text}
    (absent : quote.char ∉ middle) (rest : Text) :
    closesArgument quote (middle ++ rest) = closesArgument quote rest := by
  have others : ∀ other ∈ middle, (other != quote.char) = true := by
    intro other member
    rw [bne_iff_ne]
    intro same
    exact absent (same ▸ member)
  rw [closesArgument, List.dropWhile_append_of_pos others, closesArgument]

theorem closesArgument_append {quote : Quote} {middle : Text} {char : Char}
    (absent : quote.char ∉ middle) (ends : endsArgument char = true) (rest : Text) :
    closesArgument quote (middle ++ quote.char :: char :: rest) = true := by
  rw [closesArgument_append_of_notMem absent, closesArgument,
    List.dropWhile_cons_of_neg (by simp)]
  exact ends

theorem closesArgument_eq_false_of_notMem {quote : Quote} {text : Text}
    (absent : quote.char ∉ text) : closesArgument quote text = false := by
  rw [← List.append_nil text, closesArgument_append_of_notMem absent]
  rfl

theorem unquoted_opening (dialog : Dialog) (viaWindow : Bool) :
    Unquoted (accessSource viaWindow ++ dialog.opening) := by
  cases dialog <;> cases viaWindow <;> decide

/-! ## Statements and replacements around a message -/

namespace Statement

/-- What stands before the message of a statement about a dialog. -/
def beforeMessage (dialog : Dialog) (statement : Statement) : Text :=
  statement.front ++
    (accessSource statement.call.viaWindow ++ dialog.opening ++ statement.call.lead)

/-- What stands behind the message. -/
def behindMessage (statement : Statement) : Text :=
  statement.call.trail ++ ')' :: statement.back

theorem WellFormed.unquoted_beforeMessage {statement : Statement}
    (wellFormed : statement.WellFormed) (dialog : Dialog) :
    Unquoted (statement.beforeMessage dialog) := by
  rw [beforeMessage, unquoted_append, unquoted_append]
  exact ⟨wellFormed.unquoted_front, unquoted_opening _ _, wellFormed.call.lead.unquoted⟩

theorem WellFormed.unquoted_behindMessage {statement : Statement}
    (wellFormed : statement.WellFormed) : Unquoted statement.behindMessage := by
  have closing : Unquoted [')'] := by
    decide
  rw [behindMessage, ← List.singleton_append, unquoted_append, unquoted_append]
  exact ⟨wellFormed.call.trail.unquoted, closing, wellFormed.unquoted_back⟩

theorem WellFormed.exists_behindMessage_eq {statement : Statement}
    (wellFormed : statement.WellFormed) :
    ∃ char rest, statement.behindMessage = char :: rest ∧ endsArgument char = true := by
  rw [behindMessage]
  cases blanks : statement.call.trail with
  | nil => exact ⟨')', statement.back, rfl, rfl⟩
  | cons first more =>
      have blank := wellFormed.call.trail first (by simp [blanks])
      exact ⟨first, _, rfl, by simp [endsArgument, blank]⟩

end Statement

/-- A statement is its message with what stands around it. -/
theorem Rule.Admits.source_around_message {rule : Rule} {statement : Statement}
    (admitted : rule.Admits statement) :
    statement.source = statement.beforeMessage rule.dialog ++
      (statement.message.source ++ statement.behindMessage) := by
  rw [admitted.source_eq, Call.source, statement.message_eq, Statement.beforeMessage,
    Statement.behindMessage]
  simp only [List.append_assoc, List.singleton_append]

namespace Rule

/-- How the call of the notifier begins that takes over the message of a statement. -/
def carrierLead : Rule → Text
  | .bareAlert | .windowAlert => "notificationManager.show(".toList
  | .confirmGuard | .confirmAssignment => "notificationManager.confirm(".toList

/-- How this call ends behind the message. -/
def carrierTail : Rule → Text
  | .bareAlert | .windowAlert => ", 'info')".toList
  | .confirmGuard | .confirmAssignment => ", resolve)".toList

end Rule

/-- A character with which replacements end. -/
def endsReplacement (char : Char) : Bool :=
  char == ')' || char == ';' || char == '\x7d'

/-- What stands before and behind a message in a replacement by a rule. The message is an argument
of the notifier's call; a question goes on below this call. -/
structure Frames (rule : Rule) (lead tail : Text) : Prop where
  lead_eq : ∃ before, lead = before ++ rule.carrierLead
  unquoted_lead : Unquoted lead
  /-- A replacement begins with a word, and this word is not `return`. -/
  begins : ∃ first ∈ lead.head?, isBoundary first = false ∧ first ≠ 'r'
  tail_eq :
    match rule.dialog with
    | .alert => tail = rule.carrierTail
    | .confirm => ∃ later, tail = rule.carrierTail ++ ';' :: later ∧ Unquoted later
  ends : ∃ last ∈ tail.getLast?, endsReplacement last = true

namespace Frames

variable {rule : Rule} {lead tail : Text}

theorem endsAtBoundary_tail (frames : Frames rule lead tail) : EndsAtBoundary tail := by
  obtain ⟨last, found, closes⟩ := frames.ends
  intro other member
  rw [Option.mem_unique member found]
  simp only [endsReplacement, Bool.or_eq_true, beq_iff_eq] at closes
  rcases closes with (rfl | rfl) | rfl <;> rfl

theorem tail_eq_of_alert (frames : Frames rule lead tail) (alert : rule.dialog = .alert) :
    tail = ", 'info')".toList := by
  have shape := frames.tail_eq
  cases rule with
  | bareAlert | windowAlert => exact shape
  | confirmGuard | confirmAssignment => cases alert

theorem unquoted_tail_of_confirm (frames : Frames rule lead tail)
    (question : rule.dialog = .confirm) : Unquoted tail := by
  have shape := frames.tail_eq
  cases rule with
  | bareAlert | windowAlert => cases question
  | confirmGuard | confirmAssignment =>
      obtain ⟨later, rfl, unquoted⟩ := shape
      rw [List.append_cons, unquoted_append]
      exact ⟨by decide, unquoted⟩

/-- Behind the message stands no quote that could end the literal of a call. -/
theorem closesArgument_tail_append (frames : Frames rule lead tail) {rest : Text}
    (unquoted : Unquoted rest) (quote : Quote) : closesArgument quote (tail ++ rest) = false := by
  cases called : rule.dialog with
  | alert =>
      rw [frames.tail_eq_of_alert called]
      cases quote with
      | single => rfl
      | double =>
          apply closesArgument_eq_false_of_notMem
          rw [List.mem_append, not_or]
          exact ⟨by decide, unquoted .double⟩
  | confirm =>
      have whole := unquoted_append.2 ⟨frames.unquoted_tail_of_confirm called, unquoted⟩
      exact closesArgument_eq_false_of_notMem (whole quote)

end Frames

theorem Layout.unquoted_lineBreak {layout : Layout} (blank : Blank layout.indent) :
    Unquoted layout.lineBreak := by
  rw [lineBreak, unquoted_append]
  refine ⟨?_, blank.unquoted⟩
  cases layout.ending <;> decide

section Replacement

variable {rule : Rule} {layout : Layout}

/-- An alert is shown by the notifier's call alone. -/
theorem exists_frames_showCall (alert : rule.dialog = .alert) (message : Literal) :
    ∃ lead tail, Notifier.showCall {} message = lead ++ (message.source ++ tail) ∧
      Frames rule lead tail := by
  have shown (later : Text) : ({} : Notifier).name ++ (".show(".toList ++ later) =
      "notificationManager.show(".toList ++ later := rfl
  have severity : ", '".toList ++ (({} : Notifier).severity ++ "')".toList) =
      ", 'info')".toList := rfl
  refine ⟨"notificationManager.show(".toList, ", 'info')".toList, ?_, ?_⟩
  · unfold Notifier.showCall
    simp only [List.append_assoc, shown, severity]
  · cases rule with
    | bareAlert | windowAlert =>
        exact ⟨⟨[], rfl⟩, by decide, ⟨'n', rfl, rfl, by decide⟩, rfl,
          ⟨')', rfl, rfl⟩⟩
    | confirmGuard | confirmAssignment => cases alert

/-- A question, with something before it and something behind it, frames its message. -/
theorem exists_frames_awaitedAnswer (question : rule.dialog = .confirm)
    (blank : Blank layout.indent) (message : Literal) {start rest : Text}
    (begins : ∃ first ∈ start.head?, isBoundary first = false ∧ first ≠ 'r')
    (ends : ∃ last ∈ (')' :: rest).getLast?, endsReplacement last = true)
    (unquotedStart : Unquoted start) (unquotedRest : Unquoted rest) :
    ∃ lead tail,
      start ++ (Notifier.awaitedAnswer {} layout message ++ rest) =
        lead ++ (message.source ++ tail) ∧ Frames rule lead tail := by
  have lead : rule.carrierLead = ({} : Notifier).name ++ ".confirm(".toList := by
    cases rule with
    | confirmGuard | confirmAssignment => rfl
    | bareAlert | windowAlert => cases question
  have tail : rule.carrierTail = ", resolve)".toList := by
    cases rule with
    | confirmGuard | confirmAssignment => rfl
    | bareAlert | windowAlert => cases question
  have unquotedNested := Layout.unquoted_lineBreak (PieceTest.blank_nested blank)
  have unquotedBreak := Layout.unquoted_lineBreak blank
  have resolved : ", resolve);".toList = ", resolve)".toList ++ [';'] := by
    decide
  have closed : "\x7d)".toList = "\x7d".toList ++ [')'] := by
    decide
  refine ⟨start ++ ("await new Promise((resolve) => \x7b".toList ++ layout.nested.lineBreak) ++
      rule.carrierLead,
    rule.carrierTail ++ ';' :: (layout.lineBreak ++ ("\x7d".toList ++ ')' :: rest)),
    ?_, ⟨_, rfl⟩, ?_, ?_, ?_, ?_⟩
  · unfold Notifier.awaitedAnswer
    rw [lead, tail, resolved, closed]
    simp only [List.append_assoc, List.cons_append, List.nil_append]
  · rw [unquoted_append, unquoted_append, unquoted_append, lead]
    exact ⟨⟨unquotedStart, by decide, unquotedNested⟩, by decide⟩
  · obtain ⟨first, found, letter⟩ := begins
    refine ⟨first, ?_, letter⟩
    simp [List.head?_append, Option.mem_def.1 found]
  · rw [question]
    refine ⟨_, rfl, ?_⟩
    rw [← List.singleton_append, unquoted_append, unquoted_append, unquoted_append]
    exact ⟨unquotedBreak, by decide, by decide, unquotedRest⟩
  · obtain ⟨last, found, closes⟩ := ends
    refine ⟨last, ?_, closes⟩
    simp [List.getLast?_append, List.getLast?_cons, Option.mem_def.1 found]

theorem exists_frames_guard (blank : Blank layout.indent) (written : Guard) :
    ∃ lead tail, (Statement.guard written).replacement {} layout =
      lead ++ (written.call.message.source ++ tail) ∧
      Frames .confirmGuard lead tail := by
  have unquotedBreak := Layout.unquoted_lineBreak blank
  have unquotedNested := Layout.unquoted_lineBreak (PieceTest.blank_nested blank)
  obtain ⟨elseGap, ifGap, openGap, notGap, call, callGap, closeGap, returnGap⟩ := written
  unfold Statement.replacement Notifier.awaitedGuard
  cases elseGap with
  | none =>
      have rest : Unquoted (";".toList ++ (layout.lineBreak ++
          "if (!confirmed) return;".toList)) := by
        rw [unquoted_append, unquoted_append]
        exact ⟨by decide, unquotedBreak, by decide⟩
      have framed := @exists_frames_awaitedAnswer .confirmGuard layout rfl blank call.message
        "const confirmed = ".toList _ ⟨'c', rfl, rfl, by decide⟩
        ⟨';', by simp [List.getLast?_append, List.getLast?_cons], rfl⟩ (by decide) rest
      simp only [List.append_assoc]
      exact framed
  | some gap =>
      have start : Unquoted ("else \x7b".toList ++ (layout.nested.lineBreak ++
          "const confirmed = ".toList)) := by
        rw [unquoted_append, unquoted_append]
        exact ⟨by decide, unquotedNested, by decide⟩
      have rest : Unquoted (";".toList ++ (layout.nested.lineBreak ++
          ("if (!confirmed) return;".toList ++ (layout.lineBreak ++ "\x7d".toList)))) := by
        rw [unquoted_append, unquoted_append, unquoted_append, unquoted_append]
        exact ⟨by decide, unquotedNested, by decide, unquotedBreak, by decide⟩
      have framed := @exists_frames_awaitedAnswer .confirmGuard layout.nested rfl
        (PieceTest.blank_nested blank) call.message _ _ ⟨'e', rfl, rfl, by decide⟩
        ⟨'\x7d', by simp [List.getLast?_append, List.getLast?_cons], rfl⟩ start rest
      simp only [List.append_assoc] at framed ⊢
      exact framed

theorem exists_frames_binding (blank : Blank layout.indent) {written : Binding}
    (wellFormed : written.WellFormed) :
    ∃ lead tail, (Statement.binding written).replacement {} layout =
      lead ++ (written.call.message.source ++ tail) ∧
      Frames .confirmAssignment lead tail := by
  have name : Unquoted written.name := by
    intro quote member
    cases quote <;> cases wellFormed.name_letters _ member
  have start : Unquoted (written.keyword.source ++ (" ".toList ++ (written.name ++
      " = ".toList))) := by
    rw [unquoted_append, unquoted_append, unquoted_append]
    exact ⟨by cases written.keyword <;> decide, by decide, name, by decide⟩
  have begins : ∃ first ∈ (written.keyword.source ++ (" ".toList ++ (written.name ++
      " = ".toList))).head?, isBoundary first = false ∧ first ≠ 'r' := by
    cases written.keyword
    · exact ⟨'c', rfl, rfl, by decide⟩
    · exact ⟨'l', rfl, rfl, by decide⟩
    · exact ⟨'v', rfl, rfl, by decide⟩
  have framed := @exists_frames_awaitedAnswer .confirmAssignment layout rfl blank
    written.call.message _ [] begins ⟨')', rfl, rfl⟩ start unquoted_nil
  unfold Statement.replacement
  simp only [List.append_assoc, List.append_nil] at framed ⊢
  exact framed

/-- A replacement frames the message of the statement. What it adds calls no dialog. -/
theorem Rule.Admits.exists_frames {statement : Statement} (admitted : rule.Admits statement)
    (blank : Blank layout.indent) :
    ∃ lead tail, statement.replacement {} layout = lead ++ (statement.message.source ++ tail) ∧
      Frames rule lead tail ∧ callCount lead = 0 ∧ callCount tail = 0 := by
  have framed : ∃ lead tail, statement.replacement {} layout =
      lead ++ (statement.message.source ++ tail) ∧ Frames rule lead tail := by
    cases statement with
    | alert written =>
        cases rule with
        | bareAlert | windowAlert => exact exists_frames_showCall rfl written.message
        | confirmGuard | confirmAssignment => exact admitted.elim
    | guard written =>
        cases rule with
        | confirmGuard => exact exists_frames_guard blank written
        | bareAlert | windowAlert | confirmAssignment => exact admitted.elim
    | binding written =>
        cases rule with
        | confirmAssignment => exact exists_frames_binding blank admitted
        | bareAlert | windowAlert | confirmGuard => exact admitted.elim
  obtain ⟨lead, tail, split, frames⟩ := framed
  have counted := admitted.callCount_replacement blank
  rw [split, callCount_around_literal] at counted
  exact ⟨lead, tail, split, frames, by omega, by omega⟩

end Replacement

/-! ## Quotes that no statement crosses -/

namespace Rule

variable {rule : Rule}

/-- A statement that begins before a quote opens its call there. -/
theorem uncrossed_of_not_opens {lead : Text} (closed : ¬rule.Opens lead) (quote : Quote)
    (later : Text) : rule.Uncrossed lead quote.char later := by
  intro before start statement rest split ends admitted cut
  have unquoted : Unquoted (statement.front ++
      (accessSource statement.viaWindow ++ rule.dialog.opening)) :=
    unquoted_append.2 ⟨admitted.wellFormed.unquoted_front, unquoted_opening _ _⟩
  have regrouped : start ++ quote.char :: later =
      (statement.front ++ (accessSource statement.viaWindow ++ rule.dialog.opening)) ++
        (statement.call.lead ++ statement.call.message.source ++ statement.call.trail ++ [')'] ++
          statement.back ++ rest) := by
    rw [cut, admitted.source_eq, Call.source, statement.viaWindow_eq]
    simp only [List.append_assoc]
  obtain ⟨remaining, inLead, _⟩ := exists_append_of_notMem (unquoted quote) regrouped
  refine absurd ⟨before, statement.front, statement.viaWindow, remaining, ?_, ?_, ?_, ?_⟩ closed
  · rw [split, inLead]
    simp only [List.append_assoc]
  · exact admitted.endsWithMark_front.endsAtBoundary ends
  · exact admitted.endsWithMark_front
  · exact admitted.admits_viaWindow

/-- A statement that begins inside a literal ends inside it, unless the text behind the literal
closes the statement's call. -/
theorem uncrossed_of_not_closesArgument {body later : Text} {quote : Quote}
    (absent : quote.char ∉ body) (unclosed : ∀ other, closesArgument other later = false) :
    rule.Uncrossed body quote.char later := by
  intro before start statement rest split _ admitted cut
  have inStart : quote.char ∉ start := by
    intro member
    apply absent
    rw [split]
    exact List.mem_append_right before member
  have source := admitted.source_around_message
  have unquotedLead := admitted.wellFormed.unquoted_beforeMessage rule.dialog
  have unquotedTrail := admitted.wellFormed.unquoted_behindMessage
  obtain ⟨char, trail, behind, ends⟩ := admitted.wellFormed.exists_behindMessage_eq
  rw [behind] at source unquotedTrail
  have message := admitted.wellFormed.message.notMem_body
  rw [source, List.append_assoc] at cut
  obtain ⟨inside, startLead, cut⟩ := exists_append_of_notMem (unquotedLead quote) cut
  rw [Literal.source, List.append_assoc, List.cons_append, List.append_assoc] at cut
  simp only [List.cons_append, List.nil_append] at cut
  cases inside with
  | nil =>
      -- The message of the statement begins with the quote itself.
      obtain ⟨same, behind⟩ := List.cons.inj cut
      have closes := closesArgument_append message ends (trail ++ rest)
      rw [behind, unclosed] at closes
      cases closes
  | cons first inside =>
      obtain ⟨opened, cut⟩ := List.cons.inj cut
      have different : quote.char ≠ statement.message.quote.char := by
        intro same
        apply inStart
        rw [startLead, same, opened]
        simp
      rcases List.append_eq_append_iff.1 cut with ⟨excess, whole, behind⟩ | ⟨excess, body, behind⟩
      · -- The message ends before the quote, and so does the statement.
        cases excess with
        | nil => exact absurd (List.cons.inj behind).1.symm different
        | cons closing excess =>
            obtain ⟨closed, behind⟩ := List.cons.inj behind
            obtain ⟨remaining, inExcess, _⟩ :=
              exists_append_of_notMem (unquotedTrail quote) behind.symm
            refine ⟨remaining, ?_⟩
            rw [startLead, source, whole, inExcess, ← opened, ← closed, Literal.source]
            simp only [List.append_assoc, List.cons_append, List.nil_append]
      · -- The quote is part of the message, which ends behind it.
        cases excess with
        | nil => exact absurd (List.cons.inj behind).1 different
        | cons inner excess =>
            rw [List.cons_append, List.cons.injEq] at behind
            have outside : statement.message.quote.char ∉ excess := by
              intro member
              apply message
              rw [body]
              simp [member]
            have closes := closesArgument_append outside ends (trail ++ rest)
            rw [← behind.2, unclosed] at closes
            cases closes

/-- Around a literal a rule finds the sites in the literal, if it has no statement that begins
before the literal or behind it. -/
theorem siteCount_around_literal {lead tail : Text} {literal : Literal}
    (wellFormed : literal.WellFormed) (closed : ¬rule.Opens lead) (quiet : callCount tail = 0)
    (unclosed : ∀ quote, closesArgument quote tail = false) :
    rule.siteCount (lead ++ (literal.source ++ tail)) = rule.siteCount literal.body := by
  have atStart := uncrossed_of_not_opens closed literal.quote
    (literal.body ++ literal.quote.char :: tail)
  have atEnd : rule.Uncrossed literal.body literal.quote.char tail :=
    uncrossed_of_not_closesArgument wellFormed.notMem_body unclosed
  rw [literal.append_source_append, atStart.siteCount_append literal.quote.isBoundary_char,
    atEnd.siteCount_append literal.quote.isBoundary_char, siteCount_eq_zero_of_not_opens closed,
    siteCount_eq_zero_of_callCount_eq_zero quiet, Nat.zero_add, Nat.add_zero]

end Rule

end DialogCodemod
