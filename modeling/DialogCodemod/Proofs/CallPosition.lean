import DialogCodemod.Proofs.Occurrences

/-!
# The position of a call

Where a text calls one dialog once, the position of the call is determined, and so is what stands
before it: nothing for an alert, `!` for a guard, `=` for a binding. A statement is therefore a site
of one rule at most, unless its message or the text around it calls a dialog as well.
-/

namespace DialogCodemod

/-- Whether the statement reaches the dialog through the global object. -/
def Statement.viaWindow : Statement → Bool
  | .alert written => written.viaWindow
  | .guard written => written.call.viaWindow
  | .binding written => written.call.viaWindow

/-- The last character before the call of a statement, blanks apart. -/
def Rule.mark : Rule → Option Char
  | .bareAlert | .windowAlert => none
  | .confirmGuard => some '!'
  | .confirmAssignment => some '='

/-- A text that ends with a mark, blanks apart. -/
def EndsWithMark (mark : Option Char) (text : Text) : Prop :=
  match mark with
  | none => text = []
  | some char => ∃ start gap, text = start ++ char :: gap ∧ Blank gap

/-- How a rule lets the dialog be reached. -/
def Rule.access : Rule → Access
  | .bareAlert => .byName
  | .windowAlert => .viaWindow
  | .confirmGuard | .confirmAssignment => .either

/-! ## A statement around its call -/

/-- A stretch of a text without quotes. -/
def Unquoted (text : Text) : Prop :=
  ∀ quote : Quote, quote.char ∉ text

@[simp] theorem unquoted_nil : Unquoted [] :=
  fun _ => List.not_mem_nil

@[simp] theorem unquoted_append {first later : Text} :
    Unquoted (first ++ later) ↔ Unquoted first ∧ Unquoted later := by
  simp only [Unquoted, List.mem_append, not_or, forall_and]

instance (text : Text) : Decidable (Unquoted text) :=
  decidable_of_iff (Quote.single.char ∉ text ∧ Quote.double.char ∉ text) (by
    constructor
    · intro absent quote
      cases quote with
      | single => exact absent.1
      | double => exact absent.2
    · intro unquoted
      exact ⟨unquoted .single, unquoted .double⟩)

/-- No blank is a quote. -/
theorem Blank.unquoted {gap : Text} (blank : Blank gap) : Unquoted gap := by
  intro quote member
  cases quote <;> cases blank _ member

namespace Statement

/-- The call of the statement. -/
def call : Statement → Call
  | .alert written => written
  | .guard written => written.call
  | .binding written => written.call

/-- What stands before the call. -/
def front : Statement → Text
  | .alert _ => []
  | .guard written =>
      Guard.elseSource written.elseGap ++ "if".toList ++ written.ifGap ++ ['('] ++
        written.openGap ++ ['!'] ++ written.notGap
  | .binding written =>
      written.keyword.source ++ written.keywordGap ++ written.name ++ written.nameGap ++ ['='] ++
        written.equalsGap

/-- What stands behind the call. -/
def back : Statement → Text
  | .alert _ => []
  | .guard written =>
      written.callGap ++ [')'] ++ written.closeGap ++ "return".toList ++ written.returnGap ++ [';']
  | .binding _ => []

theorem message_eq (statement : Statement) : statement.message = statement.call.message := by
  cases statement <;> rfl

theorem viaWindow_eq (statement : Statement) : statement.viaWindow = statement.call.viaWindow := by
  cases statement <;> rfl

theorem WellFormed.call {statement : Statement} (wellFormed : statement.WellFormed) :
    statement.call.WellFormed := by
  cases statement with
  | alert written => exact wellFormed
  | guard written => exact Guard.WellFormed.call wellFormed
  | binding written => exact Binding.WellFormed.call wellFormed

/-- All quotes of a statement belong to its call. -/
theorem WellFormed.unquoted_front {statement : Statement} (wellFormed : statement.WellFormed) :
    Unquoted statement.front := by
  cases statement with
  | alert written => exact unquoted_nil
  | guard written =>
      have layout : written.WellFormed := wellFormed
      have beforeIf : Unquoted (Guard.elseSource written.elseGap) := by
        cases gap : written.elseGap with
        | none => exact unquoted_nil
        | some blanks =>
            exact unquoted_append.2 ⟨by decide, (layout.elseGap blanks gap).2.unquoted⟩
      have words : Unquoted "if".toList ∧ Unquoted ['('] ∧ Unquoted ['!'] := by
        decide
      simp only [front, unquoted_append]
      exact ⟨⟨⟨⟨⟨⟨beforeIf, words.1⟩, layout.ifGap.unquoted⟩, words.2.1⟩, layout.openGap.unquoted⟩,
        words.2.2⟩, layout.notGap.unquoted⟩
  | binding written =>
      have layout : written.WellFormed := wellFormed
      have keyword : Unquoted written.keyword.source := by
        cases written.keyword <;> decide
      have name : Unquoted written.name := by
        intro quote member
        cases quote <;> cases layout.name_letters _ member
      simp only [front, unquoted_append]
      exact ⟨⟨⟨⟨⟨keyword, layout.keywordGap.unquoted⟩, name⟩, layout.nameGap.unquoted⟩,
        by decide⟩, layout.equalsGap.unquoted⟩

theorem WellFormed.unquoted_back {statement : Statement} (wellFormed : statement.WellFormed) :
    Unquoted statement.back := by
  cases statement with
  | alert _ | binding _ => exact unquoted_nil
  | guard written =>
      have layout : written.WellFormed := wellFormed
      simp only [back, unquoted_append]
      exact ⟨⟨⟨⟨⟨layout.callGap.unquoted, by decide⟩, layout.closeGap.unquoted⟩, by decide⟩,
        layout.returnGap.unquoted⟩, by decide⟩

end Statement

namespace Rule.Admits

variable {rule : Rule} {statement : Statement}

/-- A statement is a call of its rule's dialog, with something before and behind it. -/
theorem source_eq (admitted : rule.Admits statement) :
    statement.source = statement.front ++ (statement.call.source rule.dialog ++ statement.back) := by
  cases statement with
  | alert written =>
      cases rule with
      | bareAlert | windowAlert => simp [Statement.source, Statement.front, Statement.call,
          Statement.back, dialog]
      | confirmGuard | confirmAssignment => exact admitted.elim
  | guard written =>
      cases rule with
      | confirmGuard =>
          simp only [Statement.source, Guard.source, Statement.front, Statement.call,
            Statement.back, dialog, List.append_assoc]
      | bareAlert | windowAlert | confirmAssignment => exact admitted.elim
  | binding written =>
      cases rule with
      | confirmAssignment =>
          simp only [Statement.source, Binding.source, Statement.front, Statement.call,
            Statement.back, dialog, List.append_assoc, List.append_nil]
      | bareAlert | windowAlert | confirmGuard => exact admitted.elim

theorem endsWithMark_front (admitted : rule.Admits statement) :
    EndsWithMark rule.mark statement.front := by
  cases statement with
  | alert written =>
      cases rule with
      | bareAlert | windowAlert => rfl
      | confirmGuard | confirmAssignment => exact admitted.elim
  | guard written =>
      cases rule with
      | confirmGuard => exact ⟨_, written.notGap, List.append_assoc _ _ _, admitted.notGap⟩
      | bareAlert | windowAlert | confirmAssignment => exact admitted.elim
  | binding written =>
      cases rule with
      | confirmAssignment =>
          exact ⟨_, written.equalsGap, List.append_assoc _ _ _, admitted.equalsGap⟩
      | bareAlert | windowAlert | confirmGuard => exact admitted.elim

theorem admits_viaWindow (admitted : rule.Admits statement) :
    rule.access.Admits statement.viaWindow := by
  cases rule with
  | bareAlert | windowAlert =>
      cases statement with
      | alert written => exact admitted.2
      | guard _ | binding _ => exact admitted.elim
  | confirmGuard | confirmAssignment => trivial

end Rule.Admits

theorem endsAtBoundary_append_cons {char : Char} (boundary : isBoundary char = true) {gap : Text}
    (blank : Blank gap) (text : Text) : EndsAtBoundary (text ++ char :: gap) := by
  intro last member
  rw [List.getLast?_append_of_ne_nil _ (List.cons_ne_nil char gap)] at member
  rcases List.mem_cons.1 (List.mem_of_getLast? member) with rfl | member
  · exact boundary
  · exact blank.forall_isBoundary last member

theorem EndsWithMark.endsAtBoundary {rule : Rule} {front before : Text}
    (marked : EndsWithMark rule.mark front) (ends : EndsAtBoundary before) :
    EndsAtBoundary (before ++ front) := by
  have behindMark {mark : Char} (boundary : isBoundary mark = true)
      (found : ∃ start gap, front = start ++ mark :: gap ∧ Blank gap) :
      EndsAtBoundary (before ++ front) := by
    obtain ⟨start, gap, rfl, blank⟩ := found
    rw [← List.append_assoc]
    exact endsAtBoundary_append_cons boundary blank _
  cases rule with
  | bareAlert | windowAlert =>
      cases marked
      rw [List.append_nil]
      exact ends
  | confirmGuard => exact behindMark rfl marked
  | confirmAssignment => exact behindMark rfl marked

/-- A text opens a call as the rule wants it: the dialog is reached in a way the rule admits, and
the mark of the rule stands before it. -/
def Rule.Opens (rule : Rule) (text : Text) : Prop :=
  ∃ before front viaWindow rest,
    text = (before ++ front) ++ (accessSource viaWindow ++ rule.dialog.opening ++ rest) ∧
    EndsAtBoundary (before ++ front) ∧ EndsWithMark rule.mark front ∧
    rule.access.Admits viaWindow

theorem Rule.Opens.append_left {rule : Rule} {text : Text} (opens : rule.Opens text)
    {before : Text} (ends : EndsAtBoundary before) : rule.Opens (before ++ text) := by
  obtain ⟨skipped, front, viaWindow, rest, split, boundary, marked, reached⟩ := opens
  refine ⟨before ++ skipped, front, viaWindow, rest, ?_, ?_, marked, reached⟩
  · rw [split]
    simp only [List.append_assoc]
  · rw [List.append_assoc]
    exact ends.append boundary

/-- A text with a statement opens the statement's call. -/
theorem Rule.Admits.opens {rule : Rule} {statement : Statement}
    (admitted : rule.Admits statement) {text before after : Text}
    (split : text = before ++ (statement.source ++ after)) (ends : EndsAtBoundary before) :
    rule.Opens text := by
  refine ⟨before, statement.front, statement.viaWindow,
    statement.call.lead ++ statement.call.message.source ++ statement.call.trail ++ [')'] ++
      statement.back ++ after, ?_,
    admitted.endsWithMark_front.endsAtBoundary ends, admitted.endsWithMark_front,
    admitted.admits_viaWindow⟩
  rw [split, admitted.source_eq, Call.source, statement.viaWindow_eq]
  simp only [List.append_assoc]

/-- Without an opening there is no site. -/
theorem Rule.siteCount_eq_zero_of_not_opens {rule : Rule} {text : Text}
    (closed : ¬rule.Opens text) : rule.siteCount text = 0 := by
  apply Nat.eq_zero_of_not_pos
  intro found
  obtain ⟨before, statement, after, split, admitted, _, ends⟩ := exists_site_of_countP_pos found
  rw [List.append_assoc] at split
  exact closed (admitted.opens split ends)

/-- A text ends with one mark only. -/
theorem EndsWithMark.mark_eq {before before' front front' : Text} {mark mark' : Char}
    (marked : EndsWithMark (some mark) front) (marked' : EndsWithMark (some mark') front')
    (ink : isBlank mark = false) (ink' : isBlank mark' = false)
    (same : before ++ front = before' ++ front') : mark = mark' := by
  have lastInk (start : Text) {gap : Text} {char : Char} (blank : Blank gap)
      (ink : isBlank char = false) :
      (start ++ char :: gap).reverse.find? (fun char => !isBlank char) = some char := by
    rw [List.reverse_append, List.reverse_cons, List.append_assoc, List.find?_append]
    have none : gap.reverse.find? (fun char => !isBlank char) = none := by
      rw [List.find?_eq_none]
      intro char member
      simp [blank char (List.mem_reverse.1 member)]
    simp [none, ink]
  obtain ⟨start, gap, rfl, blank⟩ := marked
  obtain ⟨start', gap', rfl, blank'⟩ := marked'
  rw [← List.append_assoc, ← List.append_assoc] at same
  have found := lastInk (before ++ start) blank ink
  rw [same, lastInk _ blank' ink'] at found
  exact (Option.some.inj found).symm

namespace Dialog

variable {dialog : Dialog} {text before after : Text} {viaWindow : Bool}

theorem isOpening_accessSource_append (dialog : Dialog) (viaWindow : Bool) :
    dialog.isOpening (accessSource viaWindow ++ dialog.opening) = true := by
  cases dialog <;> cases viaWindow <;> decide

/-- The calls of a text that is cut at the opening of a call. -/
theorem callCount_of_opening
    (split : text = before ++ (accessSource viaWindow ++ dialog.opening ++ after))
    (ends : EndsAtBoundary before) :
    dialog.callCount text = dialog.callCount before + dialog.callCount after + 1 := by
  have opens := isOpening_accessSource_append dialog viaWindow
  rw [split, callCount_append dialog ends, callCount_eq_countP, callCount_eq_countP,
    pieces_opening_append, List.countP_cons_of_pos opens, callCount_eq_countP]
  rfl

/-- The only call of a dialog is the first of the pieces that open one. -/
theorem pieces_of_callCount_eq_one (single : dialog.callCount text = 1)
    (split : text = before ++ (accessSource viaWindow ++ dialog.opening ++ after))
    (ends : EndsAtBoundary before) :
    text.pieces.takeWhile (fun piece => !dialog.isOpening piece) = before.pieces ∧
      text.pieces.find? dialog.isOpening = some (accessSource viaWindow ++ dialog.opening) := by
  have opens := isOpening_accessSource_append dialog viaWindow
  have counted := callCount_of_opening split ends
  have quiet : ∀ piece ∈ before.pieces, dialog.isOpening piece = false := by
    have none : before.pieces.countP dialog.isOpening = 0 := by
      rw [← callCount_eq_countP]
      omega
    intro piece member
    exact eq_false_of_ne_true (List.countP_eq_zero.1 none piece member)
  have pieces : text.pieces =
      before.pieces ++ (accessSource viaWindow ++ dialog.opening) :: after.pieces := by
    rw [split, Text.pieces_append ends, pieces_opening_append]
  rw [pieces]
  constructor
  · rw [List.takeWhile_append_of_pos (by simpa using quiet),
      List.takeWhile_cons_of_neg (by simp [opens]),
      List.append_nil]
  · rw [List.find?_append, List.find?_eq_none.2 (by simpa using quiet),
      List.find?_cons_of_pos opens]
    rfl

/-- In a text with one call of a dialog, the call stands at one place. -/
theorem eq_of_callCount_eq_one (single : dialog.callCount text = 1)
    (split : text = before ++ (accessSource viaWindow ++ dialog.opening ++ after))
    (ends : EndsAtBoundary before) {before' after' : Text} {viaWindow' : Bool}
    (split' : text = before' ++ (accessSource viaWindow' ++ dialog.opening ++ after'))
    (ends' : EndsAtBoundary before') : before = before' ∧ viaWindow = viaWindow' := by
  have ⟨start, opening⟩ := pieces_of_callCount_eq_one single split ends
  have ⟨start', opening'⟩ := pieces_of_callCount_eq_one single split' ends'
  rw [start] at start'
  rw [opening] at opening'
  constructor
  · rw [← before.flatten_pieces, start', before'.flatten_pieces]
  · have same := List.append_cancel_right (Option.some.inj opening')
    revert same
    cases viaWindow <;> cases viaWindow' <;> decide

end Dialog

namespace Rule

theorem Opens.dialogCallCount_pos {rule : Rule} {text : Text} (opens : rule.Opens text) :
    0 < rule.dialog.callCount text := by
  obtain ⟨before, front, viaWindow, rest, split, boundary, _⟩ := opens
  have counted := Dialog.callCount_of_opening split boundary
  omega

theorem Opens.callCount_pos {rule : Rule} {text : Text} (opens : rule.Opens text) :
    0 < callCount text := by
  have own := opens.dialogCallCount_pos
  rw [callCount]
  cases rule <;> simp only [dialog] at own <;> omega

/-- The only call of a text is opened as one rule wants it. -/
theorem Opens.eq_of_callCount_eq_one {rule other : Rule} {text : Text} (opens : rule.Opens text)
    (opens' : other.Opens text) (single : callCount text = 1) : other = rule := by
  have counted := opens.dialogCallCount_pos
  have counted' := opens'.dialogCallCount_pos
  rw [callCount] at single
  have sameDialog : other.dialog = rule.dialog := by
    by_cases same : other.dialog = rule.dialog
    · exact same
    · cases rule <;> cases other <;>
        simp only [dialog, not_true_eq_false] at same counted counted' <;> omega
  have one : rule.dialog.callCount text = 1 := by
    cases rule <;> simp only [dialog] at counted ⊢ <;> omega
  obtain ⟨before, front, viaWindow, rest, split, boundary, marked, reached⟩ := opens
  obtain ⟨before', front', viaWindow', rest', split', boundary', marked', reached'⟩ := opens'
  rw [sameDialog] at split'
  obtain ⟨place, access⟩ := Dialog.eq_of_callCount_eq_one one split boundary split' boundary'
  -- Two rules share a dialog: the alerts differ in the access, the questions in the mark.
  cases rule with
  | bareAlert =>
      cases other with
      | bareAlert => rfl
      | windowAlert => cases reached.symm.trans (access.trans reached')
      | confirmGuard | confirmAssignment => cases sameDialog
  | windowAlert =>
      cases other with
      | windowAlert => rfl
      | bareAlert => cases reached.symm.trans (access.trans reached')
      | confirmGuard | confirmAssignment => cases sameDialog
  | confirmGuard =>
      cases other with
      | confirmGuard => rfl
      | confirmAssignment => exact absurd (marked.mark_eq marked' rfl rfl place) (by decide)
      | bareAlert | windowAlert => cases sameDialog
  | confirmAssignment =>
      cases other with
      | confirmAssignment => rfl
      | confirmGuard => exact absurd (marked.mark_eq marked' rfl rfl place) (by decide)
      | bareAlert | windowAlert => cases sameDialog

/-- A statement that makes the only call of a text is no site of another rule. -/
theorem siteCount_eq_zero_of_ne {rule other : Rule} {statement : Statement}
    {text before after : Text} (admitted : rule.Admits statement)
    (split : text = before ++ (statement.source ++ after)) (ends : EndsAtBoundary before)
    (single : callCount text = 1) (different : other ≠ rule) : other.siteCount text = 0 := by
  apply siteCount_eq_zero_of_not_opens
  intro opens
  exact different ((admitted.opens split ends).eq_of_callCount_eq_one opens single)

end Rule

end DialogCodemod
