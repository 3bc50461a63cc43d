import DialogCodemod.Proofs.LiteralSites
import DialogCodemod.Proofs.SupportedLine

/-!
# Messages that survive a conversion

The message of a replaced statement is carried over into a call of the notifier. The rules before
and after the statement's own rule scan the message too. So the message survives exactly when no
other rule has a site in it; sites of the rule itself do no harm, since a rule does not look into
the statements it has found.

One half of the argument follows the rules through the text. The other half counts calls: a message
that survives still has all its calls, so at most one site has been replaced.
-/

namespace DialogCodemod

namespace Rule

/-! ## Plain statements -/

/-- How a statement of the rule begins when it is written without ornament, up to its message. -/
def plainLead : Rule → Text
  | .bareAlert => "alert(".toList
  | .windowAlert => "window.alert(".toList
  | .confirmGuard => "if (!confirm(".toList
  | .confirmAssignment => "const ok = confirm(".toList

/-- How the line of such a statement ends behind the message. -/
def plainTail : Rule → Text
  | .confirmGuard => ")) return;".toList
  | .bareAlert | .windowAlert | .confirmAssignment => ");".toList

/-- The line with the plain statement for a message. -/
def plainLine (rule : Rule) (message : Literal) : Text :=
  rule.plainLead ++ (message.source ++ rule.plainTail)

/-- The plain statement for a message. -/
def plainStatement (rule : Rule) (message : Literal) : Statement :=
  match rule with
  | .bareAlert => .alert ⟨false, [], message, []⟩
  | .windowAlert => .alert ⟨true, [], message, []⟩
  | .confirmGuard => .guard ⟨none, [' '], [], [], ⟨false, [], message, []⟩, [], [' '], []⟩
  | .confirmAssignment =>
      .binding ⟨.constant, [' '], 'o', ['k'], [' '], [' '], ⟨false, [], message, []⟩⟩

/-- What is left of the line behind the statement. -/
def plainRest : Rule → Text
  | .confirmGuard => []
  | .bareAlert | .windowAlert | .confirmAssignment => [';']

theorem plainLine_eq (rule : Rule) (message : Literal) :
    rule.plainLine message = (rule.plainStatement message).source ++ rule.plainRest := by
  cases rule <;>
    simp only [plainLine, plainStatement, Statement.source, Call.source, Guard.source,
      Binding.source, List.append_assoc] <;>
    rfl

theorem admits_plainStatement (rule : Rule) {message : Literal} (wellFormed : message.WellFormed) :
    rule.Admits (rule.plainStatement message) := by
  have call (viaWindow : Bool) : (⟨viaWindow, [], message, []⟩ : Call).WellFormed :=
    ⟨blank_nil, wellFormed, blank_nil⟩
  have gap : Blank [' '] := by
    simp [isBlank]
  cases rule with
  | bareAlert => exact ⟨call false, rfl⟩
  | windowAlert => exact ⟨call true, rfl⟩
  | confirmGuard =>
      exact ⟨by simp, gap, blank_nil, blank_nil, call false, blank_nil, gap, blank_nil⟩
  | confirmAssignment =>
      exact ⟨by simp, gap, rfl, by simp [continuesName, isWord], gap, gap, call false⟩

theorem unquoted_plainLead (rule : Rule) : Unquoted rule.plainLead := by
  cases rule <;> decide

theorem callCount_plainLead (rule : Rule) : callCount rule.plainLead = 1 := by
  cases rule <;> decide

theorem endsAtBoundary_plainLead (rule : Rule) : EndsAtBoundary rule.plainLead := by
  intro last member
  cases rule <;> cases member <;> rfl

theorem opens_plainLead (rule : Rule) : rule.Opens rule.plainLead := by
  have start : EndsAtBoundary [] := by
    simp [EndsAtBoundary]
  cases rule with
  | bareAlert => exact ⟨[], [], false, [], rfl, start, rfl, rfl⟩
  | windowAlert => exact ⟨[], [], true, [], rfl, start, rfl, rfl⟩
  | confirmGuard =>
      have marked : EndsWithMark confirmGuard.mark "if (!".toList :=
        ⟨"if (".toList, [], rfl, blank_nil⟩
      exact ⟨[], _, false, [], rfl, marked.endsAtBoundary start, marked, trivial⟩
  | confirmAssignment =>
      have marked : EndsWithMark confirmAssignment.mark "const ok = ".toList :=
        ⟨"const ok ".toList, [' '], rfl, by simp [isBlank]⟩
      exact ⟨[], _, false, [], rfl, marked.endsAtBoundary start, marked, trivial⟩

/-! ## What becomes of a plain statement -/

/-- The call of the notifier that takes over the message. -/
def carrier (rule : Rule) (message : Literal) : Text :=
  rule.carrierLead ++ (message.source ++ (rule.carrierTail ++ [';']))

/-- What takes the place of the plain line. -/
def rendering (rule : Rule) (ending : LineEnding) (message : Literal) : Text :=
  (rule.plainStatement message).replacement {} ⟨[], ending⟩ ++ rule.plainRest

theorem unquoted_plainRest (rule : Rule) : Unquoted rule.plainRest := by
  cases rule <;> decide

theorem message_plainStatement (rule : Rule) (message : Literal) :
    (rule.plainStatement message).message = message := by
  cases rule <;> rfl

theorem exists_frames_rendering (rule : Rule) (ending : LineEnding) {message : Literal}
    (wellFormed : message.WellFormed) :
    ∃ lead tail, rule.rendering ending message =
        lead ++ (message.source ++ (tail ++ rule.plainRest)) ∧
      Frames rule lead tail ∧ callCount lead = 0 ∧ callCount tail = 0 := by
  obtain ⟨lead, tail, split, framed⟩ :=
    @Rule.Admits.exists_frames rule ⟨[], ending⟩ _ (rule.admits_plainStatement wellFormed) blank_nil
  rw [rule.message_plainStatement] at split
  refine ⟨lead, tail, ?_, framed⟩
  rw [rendering, split]
  simp only [List.append_assoc]

/-- The rendering mentions the notifier's call. -/
theorem exists_rendering_eq (rule : Rule) (ending : LineEnding) {message : Literal}
    (wellFormed : message.WellFormed) :
    ∃ before behind, rule.rendering ending message =
      before ++ (rule.carrier message ++ behind) := by
  obtain ⟨lead, tail, split, frames, _, _⟩ := rule.exists_frames_rendering ending wellFormed
  obtain ⟨before, rfl⟩ := frames.lead_eq
  have ended : ∃ behind, tail ++ rule.plainRest = rule.carrierTail ++ ([';'] ++ behind) := by
    have shape := frames.tail_eq
    cases rule with
    | bareAlert | windowAlert => exact ⟨[], by rw [shape]; rfl⟩
    | confirmGuard | confirmAssignment =>
        obtain ⟨later, shape, _⟩ := shape
        exact ⟨_, by rw [shape, List.append_assoc]; rfl⟩
  obtain ⟨behind, ended⟩ := ended
  refine ⟨before, behind, ?_⟩
  rw [split, ended, carrier]
  simp only [List.append_assoc]

/-- Its own rule replaces the plain line by the rendering. -/
theorem rewrite_plainLine (rule : Rule) {message : Literal} (wellFormed : message.WellFormed)
    (ending : LineEnding) :
    rule.rewrite {} ending (rule.plainLine message) = rule.rendering ending message := by
  have start : ∀ char ∈ ([] : Text), isBoundary char = true := by
    simp
  have rest : callCount rule.plainRest = 0 := by
    cases rule <;> decide
  rw [plainLine_eq]
  exact rewrite_statement start (rule.admits_plainStatement wellFormed) rest

theorem siteCount_plainLine_pos (rule : Rule) {message : Literal}
    (wellFormed : message.WellFormed) : 0 < rule.siteCount (rule.plainLine message) := by
  have start : ∀ char ∈ ([] : Text), isBoundary char = true := by
    simp
  rw [plainLine_eq]
  exact siteCount_statement_pos start (rule.admits_plainStatement wellFormed) rule.plainRest

/-- Another rule finds in the plain line the sites of the message. -/
theorem siteCount_plainLine {rule other : Rule} (different : other ≠ rule) {message : Literal}
    (wellFormed : message.WellFormed) :
    other.siteCount (rule.plainLine message) = other.siteCount message.body := by
  apply siteCount_around_literal wellFormed
  · intro opens
    exact different (rule.opens_plainLead.eq_of_callCount_eq_one opens rule.callCount_plainLead)
  · cases rule <;> decide
  · intro quote
    cases rule <;> cases quote <;> decide

/-- Every rule finds in the rendering the sites of the message. -/
theorem siteCount_rendering (rule other : Rule) (ending : LineEnding) {message : Literal}
    (wellFormed : message.WellFormed) :
    other.siteCount (rule.rendering ending message) = other.siteCount message.body := by
  obtain ⟨lead, tail, split, frames, quietLead, quietTail⟩ :=
    rule.exists_frames_rendering ending wellFormed
  have rest : callCount rule.plainRest = 0 := by
    cases rule <;> decide
  rw [split]
  apply siteCount_around_literal wellFormed
  · intro opens
    exact absurd quietLead (Nat.ne_of_gt opens.callCount_pos)
  · rw [callCount_append frames.endsAtBoundary_tail, quietTail, rest]
  · exact frames.closesArgument_tail_append rule.unquoted_plainRest

end Rule

/-! ## Quiet surroundings -/

/-- Lines above and below a line. They call no dialog. -/
structure Surroundings where
  above : Text
  below : Text
  complete : CompleteLines above
  above_quiet : callCount above = 0
  below_quiet : callCount below = 0
  /-- Above the line nothing is called at all. -/
  above_uncalled : '(' ∉ above

namespace Surroundings

/-- A text with the surroundings around a line. -/
def around (surroundings : Surroundings) (line : Text) : Text :=
  surroundings.above ++ (line ++ '\n' :: surroundings.below)

variable (surroundings : Surroundings)

theorem callCount_around (line : Text) : callCount (surroundings.around line) = callCount line := by
  have ended := callCount_append_ending .newline line surroundings.below
  rw [LineEnding.text, List.singleton_append, surroundings.below_quiet] at ended
  rw [around, callCount_append surroundings.complete.endsAtBoundary, surroundings.above_quiet,
    ended, Nat.zero_add, Nat.add_zero]

theorem siteCount_around (rule : Rule) (line : Text) :
    rule.siteCount (surroundings.around line) = rule.siteCount line := by
  have below := Rule.siteCount_eq_zero_of_callCount_eq_zero surroundings.below_quiet rule
  have above := Rule.siteCount_eq_zero_of_callCount_eq_zero surroundings.above_quiet rule
  rw [around]
  rcases surroundings.complete.eq_nil_or_concat with empty | ⟨front, ended⟩
  · rw [empty, List.nil_append, Rule.siteCount_append_newline, below, Nat.add_zero]
  · rw [ended, Rule.siteCount_append_newline, Nat.add_eq_zero_iff] at above
    rw [ended, List.append_assoc, List.singleton_append, Rule.siteCount_append_newline,
      Rule.siteCount_append_newline, above.1, below, Nat.zero_add, Nat.add_zero]

/-- A rule changes the line and keeps the surroundings. -/
theorem exists_apply_around (rule : Rule) (line : Text) :
    ∃ ending, rule.apply {} (surroundings.around line) =
      surroundings.around (rule.rewrite {} ending line) := by
  refine ⟨LineEnding.ofText (surroundings.around line), ?_⟩
  rw [Rule.apply_eq_rewrite, around, (Rule.rewrite_append surroundings.complete _).1,
    Rule.rewrite_append_newline, Rule.rewrite_of_callCount_eq_zero surroundings.above_quiet,
    Rule.rewrite_of_callCount_eq_zero surroundings.below_quiet]
  rfl

end Surroundings

/-! ## Rules in a row -/

namespace Rule

theorem applyAll_append (notifier : Notifier) (first later : List Rule) (text : Text) :
    applyAll notifier (first ++ later) text =
      applyAll notifier later (applyAll notifier first text) := by
  rw [applyAll, List.foldl_append]
  rfl

theorem total_steps_cons (notifier : Notifier) (rule : Rule) (later : List Rule) (text : Text) :
    Step.total (steps notifier (rule :: later) text) =
      rule.siteCount text + Step.total (steps notifier later (rule.apply notifier text)) := rfl

theorem total_steps_append (notifier : Notifier) (first later : List Rule) (text : Text) :
    Step.total (steps notifier (first ++ later) text) =
      Step.total (steps notifier first text) +
        Step.total (steps notifier later (applyAll notifier first text)) := by
  induction first generalizing text with
  | nil => simp [steps, Step.total, applyAll]
  | cons rule first ih =>
      rw [List.cons_append, total_steps_cons, ih, total_steps_cons, Nat.add_assoc]
      rfl

/-- The rules that are applied before a rule and those that are applied after it. -/
theorem exists_all_eq (rule : Rule) :
    ∃ earlier later, all = earlier ++ rule :: later ∧ rule ∉ earlier ∧ rule ∉ later := by
  cases rule with
  | bareAlert =>
      exact ⟨[], [.windowAlert, .confirmGuard, .confirmAssignment], rfl, by decide, by decide⟩
  | windowAlert =>
      exact ⟨[.bareAlert], [.confirmGuard, .confirmAssignment], rfl, by decide, by decide⟩
  | confirmGuard =>
      exact ⟨[.bareAlert, .windowAlert], [.confirmAssignment], rfl, by decide, by decide⟩
  | confirmAssignment =>
      exact ⟨[.bareAlert, .windowAlert, .confirmGuard], [], rfl, by decide, by decide⟩

/-- Rules for which a text opens no call leave it as it is, up to the quote behind it. -/
theorem exists_applyAll_append_quote {rules : List Rule} {lead : Text}
    (closed : ∀ rule ∈ rules, ¬rule.Opens lead) (quote : Quote) (later : Text) :
    ∃ rest, applyAll {} rules (lead ++ quote.char :: later) = lead ++ quote.char :: rest := by
  induction rules generalizing later with
  | nil => exact ⟨later, rfl⟩
  | cons rule rules ih =>
      have here := closed rule List.mem_cons_self
      obtain ⟨next, applied⟩ := (uncrossed_of_not_opens here quote later).exists_rewrite_append
        quote.isBoundary_char (siteCount_eq_zero_of_not_opens here)
      rw [← apply_eq_rewrite] at applied
      rw [applyAll, List.foldl_cons, applied]
      exact ih (fun other member => closed other (List.mem_cons_of_mem rule member)) next

end Rule

/-! ## Counting the calls of a message -/

section Counting

variable {rule : Rule} {message : Literal} {text : Text}

theorem Rule.callCount_plainLine (rule : Rule) (message : Literal) :
    callCount (rule.plainLine message) = callCount message.body + 1 := by
  have behind : callCount rule.plainTail = 0 := by
    cases rule <;> decide
  rw [Rule.plainLine, callCount_around_literal, rule.callCount_plainLead, behind]
  omega

/-- A text with the carrier is cut at the message, and has its calls. -/
theorem exists_callCount_of_mentions_carrier
    (kept : text.mentions (rule.carrier message) = true) :
    ∃ before after, text = (before ++ rule.carrierLead) ++ (message.source ++ after) ∧
      callCount text =
        callCount (before ++ rule.carrierLead) + callCount message.body + callCount after := by
  obtain ⟨before, after, split⟩ := Text.mentions_eq_true_iff.1 kept
  have regrouped : text = (before ++ rule.carrierLead) ++
      (message.source ++ (rule.carrierTail ++ ([';'] ++ after))) := by
    rw [split, Rule.carrier]
    simp only [List.append_assoc]
  refine ⟨before, rule.carrierTail ++ ([';'] ++ after), regrouped, ?_⟩
  rw [regrouped, callCount_around_literal]

/-- A text that still begins as the plain line has a call more than the message, and so has no room
for the carrier. -/
theorem mentions_carrier_eq_false (surroundings : Surroundings) {rest : Text}
    (begins : text =
      (surroundings.above ++ rule.plainLead) ++ message.quote.char :: rest)
    (few : callCount text ≤ callCount message.body) :
    text.mentions (rule.carrier message) = false := by
  apply eq_false_of_ne_true
  intro kept
  obtain ⟨before, after, split, counted⟩ := exists_callCount_of_mentions_carrier kept
  have ends := surroundings.complete.endsAtBoundary.append rule.endsAtBoundary_plainLead
  have one : callCount (surroundings.above ++ rule.plainLead) = 1 := by
    rw [callCount_append surroundings.complete.endsAtBoundary, surroundings.above_quiet,
      rule.callCount_plainLead]
  have quiet : callCount (before ++ rule.carrierLead) = 0 := by
    omega
  have called : '(' ∈ before ++ rule.carrierLead := by
    apply List.mem_append_right
    cases rule <;> decide
  rw [begins, Literal.source, List.cons_append] at split
  rcases List.append_eq_append_iff.1 split with ⟨excess, longer, _⟩ | ⟨excess, shorter, behind⟩
  · -- The carrier begins behind the statement's opening, which is then a call before it.
    rw [longer, callCount_append ends, one] at quiet
    omega
  · cases excess with
    | nil =>
        rw [List.append_nil] at shorter
        rw [shorter, quiet] at one
        cases one
    | cons first excess =>
        -- The carrier's message begins above the line, where nothing is called.
        rw [List.cons_append, List.cons.injEq] at behind
        rw [← behind.1] at shorter
        rcases List.append_eq_append_iff.1 shorter with ⟨line, _, lead⟩ | ⟨line, above, _⟩
        · apply rule.unquoted_plainLead message.quote
          rw [lead]
          simp
        · apply surroundings.above_uncalled
          rw [above]
          exact List.mem_append_left line called

end Counting

/-! ## Survival -/

section Survival

variable {rule : Rule} {message : Literal} (surroundings : Surroundings)
  {earlier later : List Rule}

/-- Where the carrier is found at the end, at most one site has been replaced. -/
theorem total_steps_le_one
    (kept : (Rule.applyAll {} Rule.all
      (surroundings.around (rule.plainLine message))).mentions (rule.carrier message) = true) :
    Rule.Step.total
      (Rule.steps {} Rule.all (surroundings.around (rule.plainLine message))) ≤ 1 := by
  obtain ⟨before, after, _, counted⟩ := exists_callCount_of_mentions_carrier kept
  have whole := Rule.callCount_applyAll Rule.all (surroundings.around (rule.plainLine message))
  rw [surroundings.callCount_around, rule.callCount_plainLine] at whole
  omega

/-- Above and in the beginning of the plain line, no call is opened for another rule. -/
theorem not_opens_append_plainLead {other : Rule} (different : other ≠ rule) :
    ¬other.Opens (surroundings.above ++ rule.plainLead) := by
  intro opens
  have own := rule.opens_plainLead.append_left surroundings.complete.endsAtBoundary
  apply different
  apply own.eq_of_callCount_eq_one opens
  rw [callCount_append surroundings.complete.endsAtBoundary, surroundings.above_quiet,
    rule.callCount_plainLead]

/-- Other rules keep what stands up to the message. -/
theorem exists_applyAll_plainLine_eq (message : Literal) (notEarlier : rule ∉ earlier) :
    ∃ rest, Rule.applyAll {} earlier (surroundings.around (rule.plainLine message)) =
      (surroundings.above ++ rule.plainLead) ++ message.quote.char :: rest := by
  have closed : ∀ other ∈ earlier, ¬other.Opens (surroundings.above ++ rule.plainLead) := by
    intro other member
    exact not_opens_append_plainLead surroundings (fun same => notEarlier (same ▸ member))
  have cut : surroundings.around (rule.plainLine message) =
      (surroundings.above ++ rule.plainLead) ++ message.quote.char ::
        (message.body ++ message.quote.char :: rule.plainTail ++ '\n' :: surroundings.below) := by
    rw [Surroundings.around, Rule.plainLine, message.append_source_append]
    simp only [List.append_assoc, List.cons_append]
  rw [cut]
  exact Rule.exists_applyAll_append_quote closed message.quote _

/-- A message that survives has no site of an earlier rule: that rule would have replaced the site
instead of the statement, whose opening would still be there. -/
theorem siteCount_eq_zero_of_mem_earlier (order : Rule.all = earlier ++ rule :: later)
    (notEarlier : rule ∉ earlier)
    (kept : (Rule.applyAll {} Rule.all
      (surroundings.around (rule.plainLine message))).mentions (rule.carrier message) = true) :
    ∀ other ∈ earlier,
      other.siteCount (surroundings.around (rule.plainLine message)) = 0 := by
  have few := total_steps_le_one surroundings kept
  have none : Rule.Step.total
      (Rule.steps {} earlier (surroundings.around (rule.plainLine message))) = 0 := by
    apply Nat.eq_zero_of_not_pos
    intro found
    rw [order, Rule.total_steps_append] at few
    -- The one site is spent, so the later rules find none.
    have idle : Rule.Step.total (Rule.steps {} (rule :: later)
        (Rule.applyAll {} earlier (surroundings.around (rule.plainLine message)))) = 0 := by
      omega
    rw [order, Rule.applyAll_append,
      Rule.applyAll_of_siteCount_eq_zero (Rule.siteCount_eq_zero_of_total_steps idle)] at kept
    have counted := Rule.callCount_applyAll earlier (surroundings.around (rule.plainLine message))
    rw [surroundings.callCount_around, rule.callCount_plainLine] at counted
    obtain ⟨rest, begins⟩ := exists_applyAll_plainLine_eq surroundings message notEarlier
    rw [mentions_carrier_eq_false surroundings begins (by omega)] at kept
    cases kept
  exact Rule.siteCount_eq_zero_of_total_steps none

variable (wellFormed : message.WellFormed)

include wellFormed

theorem siteCount_around_plainLine {other : Rule} (different : other ≠ rule) :
    other.siteCount (surroundings.around (rule.plainLine message)) =
      other.siteCount message.body := by
  rw [surroundings.siteCount_around, Rule.siteCount_plainLine different wellFormed]

theorem siteCount_around_rendering (other : Rule) (ending : LineEnding) :
    other.siteCount (surroundings.around (rule.rendering ending message)) =
      other.siteCount message.body := by
  rw [surroundings.siteCount_around, rule.siteCount_rendering other ending wellFormed]

theorem exists_apply_around_plainLine (rule : Rule) :
    ∃ ending, rule.apply {} (surroundings.around (rule.plainLine message)) =
      surroundings.around (rule.rendering ending message) := by
  obtain ⟨ending, replaced⟩ := surroundings.exists_apply_around rule (rule.plainLine message)
  rw [rule.rewrite_plainLine wellFormed] at replaced
  exact ⟨ending, replaced⟩

/-- A message that survives has no site of a later rule: after the statement, that rule would have
replaced the site too. -/
theorem siteCount_eq_zero_of_mem_later (order : Rule.all = earlier ++ rule :: later)
    (clear : ∀ other ∈ earlier,
      other.siteCount (surroundings.around (rule.plainLine message)) = 0)
    (kept : (Rule.applyAll {} Rule.all
      (surroundings.around (rule.plainLine message))).mentions (rule.carrier message) = true) :
    ∀ other ∈ later, other.siteCount message.body = 0 := by
  have few := total_steps_le_one surroundings kept
  have own : 0 < rule.siteCount (surroundings.around (rule.plainLine message)) := by
    rw [surroundings.siteCount_around]
    exact rule.siteCount_plainLine_pos wellFormed
  obtain ⟨ending, replaced⟩ := exists_apply_around_plainLine surroundings wellFormed rule
  rw [order, Rule.total_steps_append, Rule.applyAll_of_siteCount_eq_zero clear,
    Rule.total_steps_cons, replaced] at few
  have none : Rule.Step.total (Rule.steps {} later
      (surroundings.around (rule.rendering ending message))) = 0 := by
    omega
  intro other member
  rw [← siteCount_around_rendering surroundings wellFormed other ending]
  exact Rule.siteCount_eq_zero_of_total_steps none other member

/-- If no other rule has a site in the message, only the statement's own rule does anything. -/
theorem exists_applyAll_eq_rendering (order : Rule.all = earlier ++ rule :: later)
    (before : ∀ other ∈ earlier, other.siteCount (surroundings.around (rule.plainLine message)) = 0)
    (behind : ∀ other ∈ later, other.siteCount message.body = 0) :
    ∃ ending, Rule.applyAll {} Rule.all (surroundings.around (rule.plainLine message)) =
      surroundings.around (rule.rendering ending message) := by
  obtain ⟨ending, replaced⟩ := exists_apply_around_plainLine surroundings wellFormed rule
  refine ⟨ending, ?_⟩
  rw [order, Rule.applyAll_append, Rule.applyAll_of_siteCount_eq_zero before, Rule.applyAll,
    List.foldl_cons, replaced]
  apply Rule.applyAll_of_siteCount_eq_zero
  intro other member
  rw [siteCount_around_rendering surroundings wellFormed, behind other member]

/-- In quiet surroundings, the message survives exactly when no other rule has a site in it. -/
theorem mentions_carrier_iff (rule : Rule) :
    (Rule.applyAll {} Rule.all
      (surroundings.around (rule.plainLine message))).mentions (rule.carrier message) = true ↔
      ∀ other, other ≠ rule → other.siteCount message.body = 0 := by
  obtain ⟨earlier, later, order, notEarlier, notLater⟩ := rule.exists_all_eq
  have ne_of_mem {other : Rule} {rules : List Rule} (absent : rule ∉ rules)
      (member : other ∈ rules) : other ≠ rule :=
    fun same => absent (same ▸ member)
  constructor
  · intro kept other different
    have before := siteCount_eq_zero_of_mem_earlier surroundings order notEarlier kept
    have behind := siteCount_eq_zero_of_mem_later surroundings wellFormed order before kept
    have listed := other.mem_all
    rw [order, List.mem_append, List.mem_cons] at listed
    rcases listed with member | same | member
    · rw [← siteCount_around_plainLine surroundings wellFormed different]
      exact before other member
    · exact absurd same different
    · exact behind other member
  · intro clear
    have before : ∀ other ∈ earlier,
        other.siteCount (surroundings.around (rule.plainLine message)) = 0 := by
      intro other member
      have different := ne_of_mem notEarlier member
      rw [siteCount_around_plainLine surroundings wellFormed different, clear other different]
    obtain ⟨ending, converted⟩ := exists_applyAll_eq_rendering surroundings wellFormed order before
      (fun other member => clear other (ne_of_mem notLater member))
    obtain ⟨before, behind, split⟩ := rule.exists_rendering_eq ending wellFormed
    rw [converted, Text.mentions_eq_true_iff]
    refine ⟨surroundings.above ++ before, behind ++ '\n' :: surroundings.below, ?_⟩
    rw [Surroundings.around, split]
    simp only [List.append_assoc]

end Survival

/-! ## Conversions of a plain line -/

/-- The import is placed above the only line of a text or below it. -/
theorem Import.exists_place_eq_around {line : Text} (oneLine : '\n' ∉ line)
    (placement : Option Nat) :
    ∃ surroundings : Surroundings, place {} (line ++ ['\n']) placement =
      surroundings.around line := by
  have quiet : callCount [] = 0 := rfl
  have uncalled : '(' ∉ ([] : Text) := List.not_mem_nil
  cases placement with
  | none => exact ⟨⟨[], [], completeLines_nil, quiet, quiet, uncalled⟩, rfl⟩
  | some position =>
      obtain ⟨before, after, inserted, complete, origin⟩ :=
        exists_insertLine_eq (line ++ ['\n']) position ({} : Notifier).importStatement
      rw [place, inserted]
      generalize LineEnding.ofText (line ++ ['\n']) = ending at origin
      have ended := completeLines_append_ending ({} : Notifier).importStatement ending
      have importQuiet : callCount (({} : Notifier).importStatement ++ ending.text) = 0 := by
        cases ending <;> decide +kernel
      have importUncalled : '(' ∉ ({} : Notifier).importStatement ++ ending.text := by
        cases ending <;> decide
      have endedQuiet :
          callCount (ending.text ++ (({} : Notifier).importStatement ++ ending.text)) = 0 := by
        cases ending <;> decide +kernel
      rcases origin with whole | ⟨longer, rest⟩
      · rcases complete.eq_nil_or_concat with empty | ⟨front, concat⟩
        · -- Above the line.
          rw [empty, List.nil_append] at whole
          refine ⟨⟨_, [], ended, importQuiet, quiet, importUncalled⟩, ?_⟩
          rw [empty, ← whole, Surroundings.around]
          simp only [List.append_assoc, List.nil_append]
        · -- Below the line, which the text ends with.
          rw [concat, List.append_assoc, List.singleton_append] at whole
          obtain ⟨remaining, inFront, behind⟩ := exists_append_of_notMem oneLine whole.symm
          cases remaining with
          | nil =>
              rw [List.append_nil] at inFront
              rw [List.nil_append, List.cons.injEq] at behind
              refine ⟨⟨[], _, completeLines_nil, quiet, importQuiet, uncalled⟩, ?_⟩
              rw [concat, inFront, ← behind.2, Surroundings.around]
              simp only [List.append_assoc, List.nil_append, List.append_nil, List.cons_append]
          | cons first remaining => simp at behind
      · -- Below the line, after an empty one.
        refine ⟨⟨[], _, completeLines_nil, quiet, endedQuiet, uncalled⟩, ?_⟩
        rw [longer, rest, Surroundings.around]
        simp only [List.append_assoc, List.nil_append, List.append_nil, List.cons_append]

theorem Rule.newline_notMem_plainLine (rule : Rule) {message : Literal}
    (wellFormed : message.WellFormed) : '\n' ∉ rule.plainLine message := by
  have rest : '\n' ∉ rule.plainRest := by
    cases rule <;> decide
  rw [plainLine_eq, List.mem_append, not_or]
  exact ⟨newline_notMem_source (rule.admits_plainStatement wellFormed), rest⟩

/-- A plain statement is always converted. The notifier's call takes over the message unchanged
exactly when no other rule has a site in the message, as is the case when the message does not call
a dialog. -/
theorem message_survives_iff (rule : Rule) (message : Literal) (wellFormed : message.WellFormed) :
    ∃ conversion, convert? {} (rule.plainLine message ++ "\n".toList) = some conversion ∧
      (conversion.text.mentions (rule.carrier message) = true ↔
        ∀ other, other ≠ rule → other.siteCount message.body = 0) ∧
      ((Detection.ofText message.body).any = false →
        conversion.text.mentions (rule.carrier message) = true) := by
  have calls : callCount (rule.plainLine message ++ ['\n']) ≠ 0 := by
    have ended := callCount_append_ending .newline (rule.plainLine message) []
    rw [List.append_nil, LineEnding.text, rule.callCount_plainLine] at ended
    omega
  obtain ⟨conversion, converted⟩ := Option.ne_none_iff_exists'.1
    (fun none => calls (convert?_eq_none_iff.1 none) :
      convert? {} (rule.plainLine message ++ ['\n']) ≠ none)
  obtain ⟨surroundings, placed⟩ := Import.exists_place_eq_around
    (rule.newline_notMem_plainLine wellFormed)
    (Import.placement? {} (rule.plainLine message ++ ['\n']))
  have text : conversion.text =
      Rule.applyAll {} Rule.all (surroundings.around (rule.plainLine message)) := by
    rw [Conversion.text_eq_applyAll converted, Conversion.imported_eq_place converted, placed]
  have survives := mentions_carrier_iff surroundings wellFormed rule
  rw [← text] at survives
  refine ⟨conversion, converted, survives, ?_⟩
  intro undetected
  have quiet := Detection.any_ofText_eq_false_iff.1 undetected
  exact survives.2 (fun other _ => Rule.siteCount_eq_zero_of_callCount_eq_zero quiet other)

/-- An alert inside the message of an alert by the same rule does no harm. -/
theorem message_survives_iff_own_rule :
    (⟨.single, " alert(\"x\")".toList⟩ : Literal).WellFormed ∧
    ∃ conversion, convert? {} "alert(' alert(\"x\")');\n".toList = some conversion ∧
      conversion.text.mentions "notificationManager.show(' alert(\"x\")', 'info');".toList =
        true := by
  have wellFormed : (⟨.single, " alert(\"x\")".toList⟩ : Literal).WellFormed :=
    List.all_eq_true.1 (by decide)
  have clear : ∀ other : Rule, other ≠ .bareAlert →
      other.siteCount " alert(\"x\")".toList = 0 := by
    intro other different
    cases other with
    | bareAlert => exact absurd rfl different
    | windowAlert | confirmGuard | confirmAssignment => decide +kernel
  have ⟨conversion, converted, survives, _⟩ := message_survives_iff .bareAlert _ wellFormed
  exact ⟨wellFormed, conversion, converted, survives.2 clear⟩

/-- The message of this alert is an alert through the global object. That is a site of a later rule,
which writes quotes of its own into the message. -/
theorem message_lost_to_later_rule :
    (⟨.single, " window.alert(\"x\")".toList⟩ : Literal).WellFormed ∧
    ∃ conversion, convert? {} "alert(' window.alert(\"x\")');\n".toList = some conversion ∧
      conversion.text = ("import notificationManager from '../../utils/notification';\n" ++
        "notificationManager.show(' notificationManager.show(\"x\", 'info')', 'info');\n").toList ∧
      conversion.text.mentions
        "notificationManager.show(' window.alert(\"x\")', 'info');".toList = false := by
  constructor
  · exact List.all_eq_true.1 (by decide)
  · have ⟨conversion, converted, same⟩ := (Option.any_eq_true _ _).1
      (show (convert? {} "alert(' window.alert(\"x\")');\n".toList).any (fun conversion =>
          conversion.text == ("import notificationManager from '../../utils/notification';\n" ++
            "notificationManager.show(' notificationManager.show(\"x\", 'info')', " ++
            "'info');\n").toList) = true by
        decide +kernel)
    rw [beq_iff_eq] at same
    refine ⟨conversion, converted, same, ?_⟩
    rw [same]
    decide +kernel

end DialogCodemod
