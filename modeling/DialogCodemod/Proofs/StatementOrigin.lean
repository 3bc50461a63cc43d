import DialogCodemod.Proofs.LiteralSites

/-!
# Where the statements of a rewritten text come from

A rewrite creates no statements. A replacement opens no call of its own, so a statement of the new
text stands before the replacement or behind it, or in the message that it takes over, or else it
has the replacement in its own message. In each case the old text has the statement at the
corresponding place, and the order of places is kept.

A replacement is made in two steps: what stands before the message of the replaced statement is
exchanged first, and then what stands behind the message.
-/

namespace DialogCodemod

/-! ## Statements in a text -/

namespace Statement

/-- The statement with another message. -/
def withMessage (message : Literal) : Statement → Statement
  | .alert written => .alert { written with message }
  | .guard written => .guard { written with call := { written.call with message } }
  | .binding written => .binding { written with call := { written.call with message } }

/-- Whether the statement is a guard that is read from its `else` on. -/
def beginsWithElse : Statement → Bool
  | .guard written => written.elseGap.isSome
  | .alert _ | .binding _ => false

variable (message : Literal) (statement : Statement)

@[simp] theorem message_withMessage : (statement.withMessage message).message = message := by
  cases statement <;> rfl

@[simp] theorem front_withMessage : (statement.withMessage message).front = statement.front := by
  cases statement <;> rfl

@[simp] theorem beforeMessage_withMessage (dialog : Dialog) :
    (statement.withMessage message).beforeMessage dialog = statement.beforeMessage dialog := by
  cases statement <;> rfl

@[simp] theorem behindMessage_withMessage :
    (statement.withMessage message).behindMessage = statement.behindMessage := by
  cases statement <;> rfl

@[simp] theorem beginsWithElse_withMessage :
    (statement.withMessage message).beginsWithElse = statement.beginsWithElse := by
  cases statement <;> rfl

end Statement

/-- The grammar of a rule admits every message. -/
theorem Rule.Admits.withMessage {rule : Rule} {statement : Statement}
    (admitted : rule.Admits statement) {message : Literal} (wellFormed : message.WellFormed) :
    rule.Admits (statement.withMessage message) := by
  cases statement with
  | alert written =>
      cases rule with
      | bareAlert | windowAlert => exact ⟨{ admitted.1 with message := wellFormed }, admitted.2⟩
      | confirmGuard | confirmAssignment => exact admitted.elim
  | guard written =>
      cases rule with
      | confirmGuard =>
          exact {
            admitted with call := { Guard.WellFormed.call admitted with message := wellFormed } }
      | bareAlert | windowAlert | confirmAssignment => exact admitted.elim
  | binding written =>
      cases rule with
      | confirmAssignment =>
          exact {
            admitted with call := { Binding.WellFormed.call admitted with message := wellFormed } }
      | bareAlert | windowAlert | confirmGuard => exact admitted.elim

/-- A statement of a rule in a text, where the rule may find it: after a boundary character or at
the start. -/
structure Occurrence (rule : Rule) where
  before : Text
  statement : Statement
  after : Text
  ends : EndsAtBoundary before
  admitted : rule.Admits statement

theorem Dialog.opening_ne_nil (dialog : Dialog) : dialog.opening ≠ [] := by
  cases dialog <;> decide

namespace Occurrence

variable {rule : Rule} (occurrence : Occurrence rule)

/-- The text in which the statement occurs. -/
def text : Text :=
  occurrence.before ++ (occurrence.statement.source ++ occurrence.after)

/-- The position at which the statement begins. -/
def start : Nat :=
  occurrence.before.length

/-- The position at which the call of the statement begins. -/
def call : Nat :=
  occurrence.start + occurrence.statement.front.length

/-- The position behind the statement. -/
def finish : Nat :=
  occurrence.start + occurrence.statement.source.length

theorem call_lt_finish : occurrence.call < occurrence.finish := by
  have opened := List.length_pos_iff.2 rule.dialog.opening_ne_nil
  rw [call, finish, occurrence.admitted.source_around_message, Statement.beforeMessage]
  simp only [List.length_append]
  omega

/-- What the text has behind the opening of the call. -/
def argument : Text :=
  occurrence.statement.call.lead ++ (occurrence.statement.message.source ++
    (occurrence.statement.behindMessage ++ occurrence.after))

/-- The text is cut at the opening of the call. -/
theorem text_eq_opening : occurrence.text =
    (occurrence.before ++ occurrence.statement.front) ++
      (accessSource occurrence.statement.call.viaWindow ++ rule.dialog.opening ++
        occurrence.argument) := by
  rw [text, occurrence.admitted.source_around_message, Statement.beforeMessage, argument]
  simp only [List.append_assoc]

theorem endsAtBoundary_front :
    EndsAtBoundary (occurrence.before ++ occurrence.statement.front) :=
  occurrence.admitted.endsWithMark_front.endsAtBoundary occurrence.ends

end Occurrence

/-! ## Stretches without calls -/

/-- A call opens before a stretch without calls or behind it. -/
theorem exists_append_of_opening {dialog : Dialog} {viaWindow : Bool}
    {kept stretch later before rest : Text}
    (split : kept ++ (stretch ++ later) =
      before ++ (accessSource viaWindow ++ dialog.opening ++ rest))
    (ends : EndsAtBoundary before) (endsKept : EndsAtBoundary kept)
    (endsStretch : EndsAtBoundary stretch) (quiet : dialog.callCount stretch = 0) :
    (∃ passed, kept = before ++ (accessSource viaWindow ++ dialog.opening ++ passed)) ∨
      ∃ passed, before = kept ++ (stretch ++ passed) := by
  have opens := Dialog.isOpening_accessSource_append dialog viaWindow
  have absent : accessSource viaWindow ++ dialog.opening ∉ stretch.pieces := by
    rw [Dialog.callCount_eq_countP, List.countP_eq_zero] at quiet
    exact fun member => quiet _ member opens
  have pieces := congrArg Text.pieces split
  rw [Text.pieces_append endsKept, Text.pieces_append endsStretch, Text.pieces_append ends,
    dialog.pieces_opening_append, ← List.append_assoc] at pieces
  have joined {first last : Text} {between : List Text}
      (cut : first.pieces = last.pieces ++ between) : first = last ++ between.flatten := by
    rw [← Text.flatten_pieces first, cut, List.flatten_append, Text.flatten_pieces]
  rcases List.append_eq_append_iff.1 pieces with ⟨passed, here, _⟩ | ⟨excess, here, there⟩
  · right
    refine ⟨passed.flatten, ?_⟩
    rw [← List.append_assoc]
    rw [← Text.pieces_append endsKept] at here
    exact joined here
  · cases excess with
    | nil =>
        right
        refine ⟨[], ?_⟩
        rw [List.append_nil, ← Text.pieces_append endsKept] at here
        simpa using (joined ((List.append_nil before.pieces).trans here.symm).symm).symm
    | cons opening excess =>
        -- The opening is a piece of the kept text, since the stretch has no such piece.
        rw [List.cons_append, List.cons.injEq] at there
        rw [← there.1] at here
        left
        rcases List.append_eq_append_iff.1 here with ⟨passed, _, inside⟩ | ⟨passed, inKept, inside⟩
        · rw [inside] at absent
          simp at absent
        · cases passed with
          | nil =>
              rw [← List.nil_append stretch.pieces, ← inside] at absent
              simp at absent
          | cons first passed =>
              rw [List.cons_append, List.cons.injEq] at inside
              rw [← inside.1] at inKept
              exact ⟨passed.flatten, joined inKept⟩

/-- A word between boundary characters begins where a letter follows a boundary. -/
theorem head?_eq_of_append {lead word tail start rest : Text} {char : Char}
    (boundaries : ∀ other ∈ lead ++ tail, isBoundary other = true)
    (letters : ∀ other ∈ word, isBoundary other = false)
    (split : lead ++ (word ++ tail) = start ++ char :: rest) (ends : EndsAtBoundary start)
    (letter : isBoundary char = false) : word.head? = some char := by
  have elsewhere : char ∉ lead ++ tail := by
    intro member
    rw [boundaries char member] at letter
    cases letter
  rw [List.mem_append, not_or] at elsewhere
  have begins {behind : Text} (cut : word ++ tail = char :: behind) : word.head? = some char := by
    cases word with
    | nil => exact absurd (by simp [show tail = char :: behind from cut]) elsewhere.2
    | cons first word => exact congrArg some (List.cons.inj cut).1
  rcases List.append_eq_append_iff.1 split with ⟨passed, rfl, inside⟩ | ⟨gap, inLead, behind⟩
  · rcases List.append_eq_append_iff.1 inside with ⟨_, _, inTail⟩ | ⟨_, inWord, _⟩
    · exact absurd (by simp [inTail]) elsewhere.2
    · rcases List.eq_nil_or_concat passed with rfl | ⟨front, last, rfl⟩
      · exact begins inside
      · have boundary := ends.of_append last (by simp)
        rw [letters last (by simp [inWord])] at boundary
        cases boundary
  · cases gap with
    | nil => exact begins behind.symm
    | cons first gap =>
        rw [List.cons_append, List.cons.injEq] at behind
        exact absurd (by simp [inLead, behind.1]) elsewhere.1

/-- Behind a message, the only word is `return`. -/
theorem Statement.WellFormed.eq_of_behindMessage_eq {statement : Statement}
    (wellFormed : statement.WellFormed) {start rest : Text} {char : Char}
    (split : statement.behindMessage = start ++ char :: rest) (ends : EndsAtBoundary start)
    (letter : isBoundary char = false) : char = 'r' := by
  have inside : char ∈ statement.behindMessage := by
    simp [split]
  cases statement with
  | alert _ | binding _ =>
      -- Only blanks and the closing parenthesis are left.
      rcases List.mem_append.1 inside with member | member
      · rw [wellFormed.call.trail.forall_isBoundary char member] at letter
        cases letter
      · rw [List.mem_singleton.1 member] at letter
        cases letter
  | guard written =>
      have layout : written.WellFormed := wellFormed
      have parts : (Statement.guard written).behindMessage =
          (written.call.trail ++ ')' :: (written.callGap ++ ')' :: written.closeGap)) ++
            ("return".toList ++ (written.returnGap ++ [';'])) := by
        simp only [behindMessage, Statement.call, back, List.append_assoc, List.cons_append,
          List.nil_append]
      have around : ∀ other ∈ (written.call.trail ++ ')' :: (written.callGap ++
          ')' :: written.closeGap)) ++ (written.returnGap ++ [';']), isBoundary other = true := by
        simp only [List.forall_mem_append, List.forall_mem_cons]
        exact ⟨⟨layout.call.trail.forall_isBoundary, rfl, layout.callGap.forall_isBoundary, rfl,
          layout.closeGap.forall_isBoundary⟩, layout.returnGap.forall_isBoundary, rfl,
          List.forall_mem_nil _⟩
      have word := head?_eq_of_append around (Text.isBoundary_eq_false_of_all (by decide))
        (parts.symm.trans split) ends letter
      exact (Option.some.inj word).symm

theorem dialogCallCount_eq_zero {text : Text} (quiet : callCount text = 0) (dialog : Dialog) :
    dialog.callCount text = 0 := by
  rw [callCount, Nat.add_eq_zero_iff] at quiet
  cases dialog with
  | alert => exact quiet.1
  | confirm => exact quiet.2

/-- What ends replacements stands nowhere before the call of a statement. -/
theorem Statement.WellFormed.notMem_front {statement : Statement}
    (wellFormed : statement.WellFormed) {char : Char} (closes : endsReplacement char = true) :
    char ∉ statement.front := by
  simp only [endsReplacement, Bool.or_eq_true, beq_iff_eq] at closes
  have gap {blanks : Text} (blank : Blank blanks) : char ∉ blanks := by
    intro member
    rcases closes with (rfl | rfl) | rfl <;> cases blank _ member
  cases statement with
  | alert written => exact List.not_mem_nil
  | guard written =>
      have layout : written.WellFormed := wellFormed
      have beforeIf : char ∉ Guard.elseSource written.elseGap := by
        cases found : written.elseGap with
        | none => exact List.not_mem_nil
        | some blanks =>
            have blanks := gap (layout.elseGap blanks found).2
            rcases closes with (rfl | rfl) | rfl <;> simp [Guard.elseSource, blanks]
      rcases closes with (rfl | rfl) | rfl <;>
        simp [front, beforeIf, gap layout.ifGap, gap layout.openGap, gap layout.notGap]
  | binding written =>
      have layout : written.WellFormed := wellFormed
      have name : char ∉ written.name := by
        intro member
        have letter := layout.name_letters char member
        rcases closes with (rfl | rfl) | rfl <;> cases letter
      have keyword : char ∉ written.keyword.source := by
        rcases closes with (rfl | rfl) | rfl <;> cases written.keyword <;> decide
      rcases closes with (rfl | rfl) | rfl <;>
        simp [front, keyword, name, gap layout.keywordGap, gap layout.nameGap, gap layout.equalsGap]

namespace Frames

variable {rule : Rule} {lead tail : Text}

theorem lead_ne_nil (frames : Frames rule lead tail) : lead ≠ [] := by
  obtain ⟨first, found, _⟩ := frames.begins
  rintro rfl
  cases found

theorem endsAtBoundary_lead (frames : Frames rule lead tail) : EndsAtBoundary lead := by
  obtain ⟨before, rfl⟩ := frames.lead_eq
  have opens : rule.carrierLead.getLast? = some '(' := by
    cases rule <;> decide
  intro last member
  rw [List.getLast?_append, opens] at member
  cases member
  rfl

theorem head?_tail (frames : Frames rule lead tail) : tail.head? = some ',' := by
  have shape := frames.tail_eq
  cases rule with
  | bareAlert | windowAlert =>
      rw [show tail = _ from shape]
      rfl
  | confirmGuard | confirmAssignment =>
      obtain ⟨later, rfl, _⟩ := shape
      rfl

theorem tail_ne_nil (frames : Frames rule lead tail) : tail ≠ [] := by
  intro empty
  have begins := frames.head?_tail
  rw [empty] at begins
  cases begins

/-- A literal that goes on behind the message of a replacement ends behind the replacement. -/
theorem exists_append_of_quote (frames : Frames rule lead tail) {later start rest : Text}
    {quote : Quote} (split : tail ++ later = start ++ quote.char :: rest)
    (closes : rest.head?.any endsArgument = true) (absent : quote.char ∉ start) :
    ∃ remaining, start = tail ++ remaining := by
  rcases List.append_eq_append_iff.1 split with ⟨remaining, whole, _⟩ | ⟨excess, inTail, there⟩
  · exact ⟨remaining, whole⟩
  · cases excess with
    | nil => exact ⟨[], by rw [inTail, List.append_nil, List.append_nil]⟩
    | cons first excess =>
        -- The quote is in the tail. There it could only be one of those around the severity.
        have member : quote.char ∈ tail := by
          simp [inTail, (List.cons.inj there).1]
        cases called : rule.dialog with
        | confirm => exact absurd member (frames.unquoted_tail_of_confirm called quote)
        | alert =>
            have shown := frames.tail_eq_of_alert called
            cases quote with
            | double =>
                rw [shown] at member
                exact absurd member (by decide)
            | single =>
                obtain ⟨char, found, ends⟩ := (Option.any_eq_true _ _).1 closes
                obtain ⟨more, rfl⟩ := List.head?_eq_some_iff.1 found
                have closed := closesArgument_append absent ends more
                rw [← split, shown] at closed
                cases closed

end Frames

/-! ## Exchanging a stretch -/

/-- Another stretch can stand in a message if it has no quotes and no newlines. -/
theorem Literal.WellFormed.exchange {quote : Quote} {inner old new rest : Text}
    (wellFormed : (⟨quote, inner ++ (new ++ rest)⟩ : Literal).WellFormed) (unquoted : Unquoted old)
    (oneLine : '\n' ∉ old) : (⟨quote, inner ++ (old ++ rest)⟩ : Literal).WellFormed := by
  intro char member
  simp only [List.mem_append] at member
  rcases member with inInner | inOld | inRest
  · exact wellFormed char (by simp [inInner])
  · rw [Literal.allows, Bool.and_eq_true, bne_iff_ne, bne_iff_ne]
    constructor
    · rintro rfl
      exact unquoted quote inOld
    · rintro rfl
      exact oneLine inOld
  · exact wellFormed char (by simp [inRest])

/-- A position before or behind a stretch, and the position that takes its place when another
stretch is put there. The numbers are the length of the text before the stretch and the lengths of
the two stretches. -/
def Shifted (kept old new : Nat) (position position' : Nat) : Prop :=
  position' < kept ∧ position = position' ∨
    kept + new ≤ position' ∧ position + new = position' + old

/-- An occurrence in the text with the new stretch, and the one that it comes from in the text with
the old stretch. -/
structure Stems {rule : Rule} (kept old new : Nat) (origin occurrence : Occurrence rule) :
    Prop where
  beginsWithElse : origin.statement.beginsWithElse = occurrence.statement.beginsWithElse
  start : Shifted kept old new origin.start occurrence.start
  call : Shifted kept old new origin.call occurrence.call
  last : Shifted kept old new (origin.finish - 1) (occurrence.finish - 1)

/-- Where the new stretch takes the place of the old one, all statements of the rule can be traced
back. -/
def Rule.Traceable (rule : Rule) (kept old new later : Text) : Prop :=
  ∀ occurrence : Occurrence rule, occurrence.text = kept ++ (new ++ later) →
    ∃ origin : Occurrence rule, origin.text = kept ++ (old ++ later) ∧
      Stems kept.length old.length new.length origin occurrence

/-- How an occurrence can stand to a stretch behind the kept text: before it, behind it, or around
it. In the last case the stretch is part of the message. -/
inductive Clears {rule : Rule} (occurrence : Occurrence rule) (kept stretch : Text) : Prop where
  | before (rest : Text)
      (inside : kept = occurrence.before ++ (occurrence.statement.source ++ rest))
  | behind (skipped : Text) (passed : occurrence.before = kept ++ (stretch ++ skipped))
  | around (inner rest : Text)
      (opened : kept = occurrence.before ++ (occurrence.statement.beforeMessage rule.dialog ++
        occurrence.statement.message.quote.char :: inner))
      (body : occurrence.statement.message.body = inner ++ (stretch ++ rest))

/-- If a stretch is exchanged, the statements that clear it stay. -/
theorem Rule.traceable_of_clears {rule : Rule} {kept old new later : Text}
    (clears : ∀ occurrence : Occurrence rule, occurrence.text = kept ++ (new ++ later) →
      Clears occurrence kept new)
    (ends : EndsAtBoundary (kept ++ old)) (unquoted : Unquoted old) (oneLine : '\n' ∉ old) :
    rule.Traceable kept old new later := by
  intro occurrence split
  have called := occurrence.call_lt_finish
  have started : occurrence.start ≤ occurrence.call := Nat.le_add_right _ _
  cases clears occurrence split with
  | before rest inside =>
      have bound : occurrence.finish ≤ kept.length := by
        rw [inside, Occurrence.finish, Occurrence.start]
        simp only [List.length_append]
        omega
      refine ⟨⟨occurrence.before, occurrence.statement, rest ++ (old ++ later), occurrence.ends,
        occurrence.admitted⟩, ?_, rfl, .inl ⟨?_, rfl⟩, .inl ⟨?_, rfl⟩, .inl ⟨?_, rfl⟩⟩
      · rw [inside, Occurrence.text]
        simp only [List.append_assoc]
      all_goals omega
  | behind skipped passed =>
      have rest : later = skipped ++ (occurrence.statement.source ++ occurrence.after) := by
        rw [Occurrence.text, passed] at split
        simpa using split.symm
      have boundary : EndsAtBoundary (kept ++ (old ++ skipped)) := by
        have last := occurrence.ends
        rw [passed] at last
        rw [← List.append_assoc]
        exact ends.append last.of_append.of_append
      let origin : Occurrence rule := ⟨kept ++ (old ++ skipped), occurrence.statement,
        occurrence.after, boundary, occurrence.admitted⟩
      have moved : origin.start + new.length = occurrence.start + old.length := by
        simp only [origin, Occurrence.start, passed, List.length_append]
        omega
      have behind : kept.length + new.length ≤ occurrence.start := by
        simp only [Occurrence.start, passed, List.length_append]
        omega
      have call : origin.call = origin.start + (occurrence.call - occurrence.start) := by
        simp [origin, Occurrence.call]
      have finish : origin.finish = origin.start + (occurrence.finish - occurrence.start) := by
        simp [origin, Occurrence.finish]
      refine ⟨origin, ?_, rfl, .inr ⟨behind, moved⟩, .inr ⟨?_, ?_⟩, .inr ⟨?_, ?_⟩⟩
      · rw [rest, Occurrence.text]
        simp only [origin, List.append_assoc]
      all_goals omega
  | around inner rest opened body =>
      have source := occurrence.admitted.source_around_message
      have message : occurrence.statement.message.source =
          occurrence.statement.message.quote.char ::
            (inner ++ (new ++ (rest ++ [occurrence.statement.message.quote.char]))) := by
        rw [Literal.source, body]
        simp only [List.append_assoc]
      have behind : later = rest ++ occurrence.statement.message.quote.char ::
          (occurrence.statement.behindMessage ++ occurrence.after) := by
        rw [Occurrence.text, opened, source, message] at split
        simpa using split.symm
      have wellFormed : (⟨occurrence.statement.message.quote, inner ++ (new ++ rest)⟩ :
          Literal).WellFormed := by
        rw [← body]
        exact occurrence.admitted.wellFormed.message
      have admitted := occurrence.admitted.withMessage (wellFormed.exchange unquoted oneLine)
      have source' := admitted.source_around_message
      rw [Statement.message_withMessage, Statement.beforeMessage_withMessage,
        Statement.behindMessage_withMessage, Literal.source] at source'
      let origin : Occurrence rule :=
        ⟨occurrence.before, _, occurrence.after, occurrence.ends, admitted⟩
      have call : origin.call = occurrence.call := by
        simp [origin, Occurrence.call, Occurrence.start]
      have early : occurrence.call < kept.length := by
        rw [opened, Occurrence.call, Occurrence.start, Statement.beforeMessage]
        simp only [List.length_append, List.length_cons]
        omega
      have late : kept.length + new.length < occurrence.finish := by
        rw [opened, Occurrence.finish, Occurrence.start, source, message]
        simp only [List.length_append, List.length_cons, List.length_nil]
        omega
      have finish : origin.finish + new.length = occurrence.finish + old.length := by
        simp only [origin, Occurrence.finish, Occurrence.start, source, source', message,
          List.length_append, List.length_cons, List.length_nil]
        omega
      have called' := origin.call_lt_finish
      refine ⟨origin, ?_, by simp [origin], .inl ⟨?_, rfl⟩, .inl ⟨early, call⟩, .inr ⟨?_, ?_⟩⟩
      · rw [Occurrence.text, source', opened, behind]
        simp only [origin, List.append_assoc, List.cons_append, List.nil_append]
      all_goals omega

/-! ## Statements that clear a stretch -/

section Clear

variable {rule : Rule} {occurrence : Occurrence rule} {kept stretch later : Text}

/-- A statement whose literal opens in the kept text ends there, or has the stretch in its
message. -/
theorem clears_of_quote {inner : Text}
    (split : occurrence.text = kept ++ (stretch ++ later))
    (opened : kept = occurrence.before ++ (occurrence.statement.beforeMessage rule.dialog ++
      occurrence.statement.message.quote.char :: inner))
    (body : ∀ start rest,
      stretch ++ later = start ++ occurrence.statement.message.quote.char :: rest →
      rest.head?.any endsArgument = true → occurrence.statement.message.quote.char ∉ start →
      ∃ remaining, start = stretch ++ remaining)
    (trail : ∀ passed, inner = occurrence.statement.message.body ++
        occurrence.statement.message.quote.char :: passed →
      passed ++ (stretch ++ later) = occurrence.statement.behindMessage ++ occurrence.after →
      ∃ rest, passed = occurrence.statement.behindMessage ++ rest) :
    Clears occurrence kept stretch := by
  have source := occurrence.admitted.source_around_message
  have wellFormed := occurrence.admitted.wellFormed.message
  obtain ⟨char, rest, behind, ends⟩ := occurrence.admitted.wellFormed.exists_behindMessage_eq
  have cut : inner ++ (stretch ++ later) = occurrence.statement.message.body ++
      occurrence.statement.message.quote.char ::
        (occurrence.statement.behindMessage ++ occurrence.after) := by
    rw [Occurrence.text, source, Literal.source, opened] at split
    simpa using split.symm
  rcases List.append_eq_append_iff.1 cut with ⟨start, whole, inStretch⟩ | ⟨excess, whole, passed⟩
  · have unquoted : occurrence.statement.message.quote.char ∉ start := by
      intro member
      exact wellFormed.notMem_body (by simp [whole, member])
    obtain ⟨remaining, rfl⟩ := body start _ inStretch (by simp [behind, ends]) unquoted
    exact .around inner remaining opened whole
  · cases excess with
    | nil =>
        obtain ⟨remaining, empty⟩ :=
          body [] _ passed.symm (by simp [behind, ends]) List.not_mem_nil
        refine .around inner remaining opened ?_
        rw [← empty, whole, List.append_nil, List.append_nil]
    | cons first excess =>
        obtain ⟨rfl, remaining⟩ := List.cons.inj passed
        obtain ⟨rest, ended⟩ := trail excess whole remaining.symm
        refine .before rest ?_
        rw [opened, whole, ended, source, Literal.source]
        simp only [List.append_assoc, List.cons_append, List.nil_append]

/-- A word behind the opening of a call stands behind the first quote. -/
theorem Occurrence.exists_quote_of_word {passed rest : Text} {first : Char}
    (split : passed ++ first :: rest = occurrence.argument) (letter : isBoundary first = false) :
    ∃ inner, passed =
      occurrence.statement.call.lead ++ occurrence.statement.message.quote.char :: inner := by
  have unquoted : first ≠ occurrence.statement.message.quote.char := by
    rintro rfl
    rw [Quote.isBoundary_char] at letter
    cases letter
  rw [argument, Literal.source] at split
  rcases List.append_eq_append_iff.1 split with ⟨gap, inLead, there⟩ | ⟨excess, here, there⟩
  · cases gap with
    | nil => exact absurd (List.cons.inj there).1 unquoted
    | cons blank gap =>
        have inGap : first ∈ occurrence.statement.call.lead := by
          simp [inLead, (List.cons.inj there).1]
        rw [occurrence.admitted.wellFormed.call.lead.forall_isBoundary first inGap] at letter
        cases letter
  · cases excess with
    | nil => exact absurd (List.cons.inj there).1.symm unquoted
    | cons opened inner => exact ⟨inner, by rw [here, (List.cons.inj there).1]⟩

/-- A word behind the message of a statement stands behind the statement, unless it is `return`. -/
theorem Occurrence.exists_append_of_word {passed rest : Text} {first : Char}
    (split : passed ++ first :: rest = occurrence.statement.behindMessage ++ occurrence.after)
    (ends : EndsAtBoundary passed) (letter : isBoundary first = false) (different : first ≠ 'r') :
    ∃ remaining, passed = occurrence.statement.behindMessage ++ remaining := by
  rcases List.append_eq_append_iff.1 split with ⟨gap, trail, there⟩ | ⟨excess, here, _⟩
  · cases gap with
    | nil => exact ⟨[], by rw [trail, List.append_nil, List.append_nil]⟩
    | cons other gap =>
        rw [← (List.cons.inj there).1] at trail
        have word := occurrence.admitted.wellFormed.eq_of_behindMessage_eq trail ends letter
        exact absurd word different
  · exact ⟨excess, here⟩

/-- What stands before a message in a replacement is cleared by all statements of the new text. -/
theorem clears_lead {quote : Quote}
    (split : occurrence.text = kept ++ (stretch ++ quote.char :: later))
    (ends : EndsAtBoundary kept) (endsStretch : EndsAtBoundary stretch)
    (quiet : callCount stretch = 0) (unquoted : Unquoted stretch)
    (begins : ∃ first ∈ stretch.head?, isBoundary first = false ∧ first ≠ 'r') :
    Clears occurrence kept stretch := by
  obtain ⟨first, found, letter, different⟩ := begins
  obtain ⟨more, rfl⟩ := List.head?_eq_some_iff.1 found
  have opening := occurrence.text_eq_opening
  rcases exists_append_of_opening (split.symm.trans opening) occurrence.endsAtBoundary_front ends
    endsStretch (dialogCallCount_eq_zero quiet rule.dialog) with ⟨passed, inKept⟩ | ⟨passed, behind⟩
  · -- The call opens in the kept text. Its literal does too, as the stretch begins with a word.
    have argued : passed ++ first :: (more ++ quote.char :: later) = occurrence.argument := by
      rw [opening, inKept] at split
      simpa using split.symm
    obtain ⟨inner, rfl⟩ := Occurrence.exists_quote_of_word argued letter
    have opened : kept = occurrence.before ++ (occurrence.statement.beforeMessage rule.dialog ++
        occurrence.statement.message.quote.char :: inner) := by
      rw [inKept, Statement.beforeMessage]
      simp only [List.append_assoc]
    refine clears_of_quote split opened ?_ ?_
    · intro start rest cut _ _
      obtain ⟨remaining, whole, _⟩ := exists_append_of_notMem
        (unquoted occurrence.statement.message.quote) cut.symm
      exact ⟨remaining, whole⟩
    · intro passed whole cut
      have regrouped : kept = (occurrence.before ++ (occurrence.statement.beforeMessage
          rule.dialog ++ occurrence.statement.message.source)) ++ passed := by
        rw [opened, whole, Literal.source]
        simp only [List.append_assoc, List.cons_append, List.nil_append]
      rw [regrouped] at ends
      exact Occurrence.exists_append_of_word cut ends.of_append letter different
  · -- The call opens behind the stretch, and so behind the quote. No quote stands before it.
    have rest : quote.char :: later = passed ++
        (accessSource occurrence.statement.call.viaWindow ++ rule.dialog.opening ++
          occurrence.argument) := by
      rw [opening, behind] at split
      simpa using split.symm
    cases passed with
    | nil =>
        rw [List.nil_append, ← List.nil_append (quote.char :: later)] at rest
        obtain ⟨_, empty, _⟩ := exists_append_of_notMem (unquoted_opening _ _ quote) rest
        simp [rule.dialog.opening_ne_nil] at empty
    | cons other passed =>
        rw [List.cons_append, List.cons.injEq] at rest
        rw [← rest.1, ← List.append_assoc] at behind
        obtain ⟨remaining, here, _⟩ := exists_append_of_notMem_end
          (occurrence.admitted.wellFormed.unquoted_front quote) behind.symm
        refine .behind (quote.char :: remaining) ?_
        rw [here, List.append_assoc]

/-- A quote behind the opening of a call is the first quote of the literal or stands behind it. -/
theorem Occurrence.exists_quote_of_quote {init rest : Text} {quote : Quote}
    (split : init ++ quote.char :: rest = occurrence.argument) :
    ∃ inner, init ++ [quote.char] =
        occurrence.statement.call.lead ++ occurrence.statement.message.quote.char :: inner ∧
      ∀ start last, inner = start ++ [last] → last = quote.char := by
  rw [argument, Literal.source] at split
  obtain ⟨remaining, inInit, rest⟩ := exists_append_of_notMem
    (occurrence.admitted.wellFormed.call.lead.unquoted quote) split
  rw [inInit]
  cases remaining with
  | nil =>
      refine ⟨[], by simp [(List.cons.inj rest).1], ?_⟩
      intro start last empty
      simp at empty
  | cons first remaining =>
      refine ⟨remaining ++ [quote.char], by simp [(List.cons.inj rest).1], ?_⟩
      intro start last ended
      exact (List.cons.inj (List.append_inj' ended rfl).2).1.symm

/-- What stands behind a message in a replacement is cleared by all statements of the new text. -/
theorem clears_tail {other : Rule} {lead front : Text} {quote : Quote}
    (frames : Frames other lead stretch) (quiet : callCount stretch = 0)
    (split : occurrence.text = (front ++ [quote.char]) ++ (stretch ++ later)) :
    Clears occurrence (front ++ [quote.char]) stretch := by
  have opening := occurrence.text_eq_opening
  have wellFormed := occurrence.admitted.wellFormed
  rcases exists_append_of_opening (split.symm.trans opening) occurrence.endsAtBoundary_front
    (endsAtBoundary_append_cons quote.isBoundary_char blank_nil front) frames.endsAtBoundary_tail
    (dialogCallCount_eq_zero quiet rule.dialog) with ⟨passed, inKept⟩ | ⟨passed, behind⟩
  · -- The call opens in the kept text. Its literal does too, as the kept text ends with a quote.
    rcases List.eq_nil_or_concat passed with rfl | ⟨init, last, rfl⟩
    · rw [List.append_nil] at inKept
      obtain ⟨_, _, empty⟩ := exists_append_of_notMem_end (unquoted_opening _ _ quote) inKept
      simp [rule.dialog.opening_ne_nil] at empty
    · rw [List.concat_eq_append] at inKept
      obtain rfl : quote.char = last := by
        have lasts := congrArg List.getLast? inKept
        simpa [List.getLast?_append] using lasts
      have argued : init ++ quote.char :: (stretch ++ later) = occurrence.argument := by
        rw [opening, inKept] at split
        simpa using split.symm
      obtain ⟨inner, literal, ended⟩ := Occurrence.exists_quote_of_quote argued
      have opened : front ++ [quote.char] = occurrence.before ++
          (occurrence.statement.beforeMessage rule.dialog ++
            occurrence.statement.message.quote.char :: inner) := by
        rw [inKept, literal, Statement.beforeMessage]
        simp only [List.append_assoc]
      refine clears_of_quote split opened (fun start rest => frames.exists_append_of_quote) ?_
      intro passed whole cut
      rcases List.eq_nil_or_concat passed with rfl | ⟨init, last, rfl⟩
      · obtain ⟨char, rest, behind, ends⟩ := wellFormed.exists_behindMessage_eq
        have heads := congrArg List.head? cut
        rw [List.nil_append, List.head?_append, frames.head?_tail, behind] at heads
        rw [← Option.some.inj heads] at ends
        cases ends
      · rw [List.concat_eq_append] at whole cut ⊢
        have same : last = quote.char := by
          apply ended (occurrence.statement.message.body ++
            occurrence.statement.message.quote.char :: init) last
          rw [whole]
          simp only [List.append_assoc, List.cons_append]
        rw [same, List.append_assoc] at cut
        obtain ⟨rest, inInit, _⟩ := exists_append_of_notMem
          (wellFormed.unquoted_behindMessage quote) cut
        exact ⟨rest ++ [last], by rw [inInit, List.append_assoc]⟩
  · -- The call opens behind the stretch. What ends the stretch stands before no call.
    obtain ⟨last, found, closes⟩ := frames.ends
    have cut : (front ++ [quote.char] ++ stretch.dropLast) ++ last :: passed =
        occurrence.before ++ occurrence.statement.front := by
      rw [behind, ← List.dropLast_append_getLast? last found]
      simp
    obtain ⟨remaining, here, _⟩ :=
      exists_append_of_notMem_end (wellFormed.notMem_front closes) cut
    refine .behind remaining ?_
    rw [here, ← List.dropLast_append_getLast? last found]
    simp

end Clear

/-! ## One replacement -/

namespace Statement

theorem WellFormed.endsAtBoundary_beforeMessage {statement : Statement}
    (wellFormed : statement.WellFormed) (dialog : Dialog) (text : Text) :
    EndsAtBoundary (text ++ statement.beforeMessage dialog) := by
  obtain ⟨word, opening⟩ : ∃ word, dialog.opening = word ++ ['('] := by
    cases dialog with
    | alert => exact ⟨"alert".toList, by decide⟩
    | confirm => exact ⟨"confirm".toList, by decide⟩
  have parts : text ++ statement.beforeMessage dialog =
      (text ++ (statement.front ++ (accessSource statement.call.viaWindow ++ word))) ++
        '(' :: statement.call.lead := by
    rw [beforeMessage, opening]
    simp only [List.append_assoc, List.singleton_append]
  rw [parts]
  exact endsAtBoundary_append_cons rfl wellFormed.call.lead _

theorem endsAtBoundary_behindMessage (statement : Statement) (text : Text) :
    EndsAtBoundary (text ++ statement.behindMessage) := by
  rw [behindMessage, ← List.append_assoc]
  cases statement with
  | alert _ | binding _ => exact endsAtBoundary_append_cons rfl blank_nil _
  | guard written =>
      rw [back, List.append_cons, ← List.append_assoc]
      exact endsAtBoundary_append_cons rfl blank_nil _

end Statement

/-- After a replacement, all statements can be traced back in two steps, one for what stands before
the message and one for what stands behind it. -/
theorem Rule.Admits.exists_traceable {rule : Rule} {statement : Statement}
    (admitted : rule.Admits statement) {layout : Layout} (blank : Blank layout.indent)
    {before : Text} (ends : EndsAtBoundary before) (after : Text) :
    ∃ lead tail, statement.replacement {} layout = lead ++ (statement.message.source ++ tail) ∧
      lead ≠ [] ∧ tail ≠ [] ∧ ∀ other : Rule,
        other.Traceable before (statement.beforeMessage rule.dialog) lead
          (statement.message.source ++ (statement.behindMessage ++ after)) ∧
        other.Traceable (before ++ (lead ++ statement.message.source)) statement.behindMessage tail
          after := by
  have wellFormed := admitted.wellFormed
  have oneLine := newline_notMem_source admitted
  rw [admitted.source_around_message, List.mem_append, List.mem_append, not_or, not_or] at oneLine
  obtain ⟨lead, tail, split, frames, quietLead, quietTail⟩ := admitted.exists_frames blank
  refine ⟨lead, tail, split, frames.lead_ne_nil, frames.tail_ne_nil, fun other => ⟨?_, ?_⟩⟩
  · refine traceable_of_clears ?_ ?_ (wellFormed.unquoted_beforeMessage _) oneLine.1
    · intro occurrence found
      rw [Literal.source, List.cons_append] at found
      exact clears_lead found ends frames.endsAtBoundary_lead quietLead frames.unquoted_lead
        frames.begins
    · exact wellFormed.endsAtBoundary_beforeMessage _ _
  · have regrouped : before ++ (lead ++ statement.message.source) =
        (before ++ (lead ++ statement.message.quote.char :: statement.message.body)) ++
          [statement.message.quote.char] := by
      simp [Literal.source]
    rw [regrouped]
    refine traceable_of_clears (fun occurrence => clears_tail frames quietTail) ?_
      wellFormed.unquoted_behindMessage oneLine.2.2
    exact statement.endsAtBoundary_behindMessage _

end DialogCodemod
