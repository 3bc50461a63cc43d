import DialogCodemod.Proofs.CallPosition
import DialogCodemod.Proofs.Rendering
import DialogCodemod.Proofs.Rerun
import Mathlib.Data.List.TakeWhile

/-!
# Supported lines

A line is supported if it calls no dialog, or if it holds one statement that a rule replaces, with
nothing before it but its indentation and a closing brace, and no other call. Its own rule turns
such a line into the lines that are written out for the statement, and no other rule touches it.
-/

namespace DialogCodemod

/-! ## One statement on a line -/

/-- Boundary characters before a text open no call. -/
theorem callCount_boundaries_append {lead : Text}
    (boundaries : ∀ char ∈ lead, isBoundary char = true) (later : Text) :
    callCount (lead ++ later) = callCount later := by
  simp only [callCount, Dialog.callCount_eq_count, PieceTest.count_boundaries_append _ boundaries]

/-- A statement whose message calls no dialog makes one call. -/
theorem Rule.Admits.callCount_source_append {rule : Rule} {statement : Statement}
    (admitted : rule.Admits statement) (quiet : callCount statement.message.body = 0)
    (later : Text) :
    callCount (statement.source ++ later) = callCount later + 1 := by
  have opening : (Dialog.alert.openingTest.holds rule.dialog.opening).toNat +
      (Dialog.confirm.openingTest.holds rule.dialog.opening).toNat = 1 := by
    cases rule <;> decide
  rw [callCount] at quiet
  simp only [callCount, Dialog.callCount_eq_count, PieceTest.count_source_append _ admitted,
    Dialog.keptCount_openingTest]
  simp only [Dialog.callCount_eq_count] at quiet
  omega

namespace Rule

variable {rule : Rule} {notifier : Notifier} {ending : LineEnding}

/-- Boundary characters before a statement stay and lead to it. -/
theorem replaceSites_boundaries_append {lead : Text}
    (boundaries : ∀ char ∈ lead, isBoundary char = true) (before text : Text) :
    replaceSites notifier ending before (rule.segmentsFrom true (lead ++ text)) =
      lead ++
        replaceSites notifier ending (lead.reverse ++ before) (rule.segmentsFrom true text) := by
  induction lead generalizing before with
  | nil => rfl
  | cons char lead ih =>
      have boundary := boundaries char List.mem_cons_self
      have missing := rule.run_read_cons_of_isBoundary boundary (lead ++ text)
      rw [List.cons_append, segmentsFrom_true_of_run_read_eq_none missing,
        replaceSites_segmentsFrom_cons boundary,
        ih (fun other member => boundaries other (List.mem_cons_of_mem char member))]
      simp

theorem countP_isSite_boundaries_append {lead : Text}
    (boundaries : ∀ char ∈ lead, isBoundary char = true) (text : Text) :
    (rule.segmentsFrom true (lead ++ text)).countP Segment.isSite =
      (rule.segmentsFrom true text).countP Segment.isSite := by
  induction lead with
  | nil => rfl
  | cons char lead ih =>
      have boundary := boundaries char List.mem_cons_self
      have missing := rule.run_read_cons_of_isBoundary boundary (lead ++ text)
      rw [List.cons_append, segmentsFrom_true_of_run_read_eq_none missing,
        countP_isSite_segmentsFrom_cons boundary,
        ih (fun other member => boundaries other (List.mem_cons_of_mem char member))]

theorem segmentsFrom_source_append {statement : Statement} (admitted : rule.Admits statement)
    (rest : Text) :
    rule.segmentsFrom true (statement.source ++ rest) =
      .site ⟨none, statement⟩ :: rule.segmentsFrom false rest := by
  apply segmentsFrom_of_site
  exact site?_eq_some_iff.2 ⟨rfl, rfl, admitted⟩

/-- In a text without calls no scan finds a site. -/
theorem countP_isSite_eq_zero {text : Text} (quiet : callCount text = 0) (atStart : Bool) :
    (rule.segmentsFrom atStart text).countP Segment.isSite = 0 := by
  apply Nat.eq_zero_of_not_pos
  intro found
  obtain ⟨before, statement, after, split, admitted, _, ends⟩ := exists_site_of_countP_pos found
  rw [List.append_assoc] at split
  exact absurd quiet (Nat.ne_of_gt (admitted.opens split ends).callCount_pos)

/-- The only statement on a line that calls no other dialog is replaced, and all else stays. -/
theorem rewrite_statement {statement : Statement} {lead rest : Text}
    (boundaries : ∀ char ∈ lead, isBoundary char = true) (admitted : rule.Admits statement)
    (quiet : callCount rest = 0) :
    rule.rewrite notifier ending (lead ++ (statement.source ++ rest)) =
      lead ++ (statement.replacement notifier ⟨Text.indentation lead.reverse, ending⟩ ++ rest) := by
  have kept := flatMap_source_segmentsFrom rule false rest
  rw [rewrite, segments, replaceSites_boundaries_append boundaries,
    segmentsFrom_source_append admitted, replaceSites, replaceSites_of_countP_eq_zero
      (countP_isSite_eq_zero quiet false), kept]
  simp

theorem siteCount_statement_pos {statement : Statement} {lead : Text}
    (boundaries : ∀ char ∈ lead, isBoundary char = true) (admitted : rule.Admits statement)
    (rest : Text) : 0 < rule.siteCount (lead ++ (statement.source ++ rest)) := by
  rw [siteCount, segments, countP_isSite_boundaries_append boundaries,
    segmentsFrom_source_append admitted, List.countP_cons_of_pos rfl]
  exact Nat.succ_pos _

end Rule

/-! ## Supported lines -/

/-- A line with one statement that a rule replaces. Before the statement stands the indentation,
and perhaps a closing brace with the blanks after it. -/
structure DialogLine where
  indent : Text
  /-- The blanks after the closing brace, if there is one. -/
  closing : Option Text
  rule : Rule
  statement : Statement
  /-- The rest of the line. -/
  rest : Text
  indent_blank : Blank indent
  closing_blank : ∀ gap ∈ closing, Blank gap
  admitted : rule.Admits statement
  message_quiet : (Detection.ofText statement.message.body).any = false
  message_unbroken : '\r' ∉ statement.message.body
  rest_quiet : (Detection.ofText rest).any = false
  rest_unbroken : '\n' ∉ rest ∧ '\r' ∉ rest

/-- A line that calls no dialog, or that holds one statement with a call. -/
inductive Line where
  | plain (text : Text) (quiet : (Detection.ofText text).any = false)
      (unbroken : '\n' ∉ text ∧ '\r' ∉ text)
  | dialog (line : DialogLine)

namespace DialogLine

/-- What stands before the statement. -/
def lead (line : DialogLine) : Text :=
  line.indent ++ line.closing.elim [] ('\x7d' :: ·)

/-- The line as written. -/
def source (line : DialogLine) : Text :=
  line.lead ++ (line.statement.source ++ line.rest)

/-- The lines that take the place of the line: those of the statement, with what stands before the
statement and behind it. -/
def rendering (line : DialogLine) : List Text :=
  enclose line.lead line.rest (line.statement.renderedLines {} line.indent)

theorem isBoundary_of_mem_lead (line : DialogLine) :
    ∀ char ∈ line.lead, isBoundary char = true := by
  intro char member
  rcases List.mem_append.1 member with member | member
  · exact line.indent_blank.forall_isBoundary char member
  · cases closing : line.closing with
    | none =>
        rw [closing] at member
        cases member
    | some gap =>
        rw [closing] at member
        rcases List.mem_cons.1 member with rfl | member
        · rfl
        · exact (line.closing_blank gap closing).forall_isBoundary char member

theorem notMem_lead (line : DialogLine) {char : Char} (ends : EndsLine char) :
    char ∉ line.lead := by
  have closing : char ∉ line.closing.elim [] ('\x7d' :: ·) := by
    cases found : line.closing with
    | none => exact List.not_mem_nil
    | some gap =>
        rw [Option.elim_some, List.mem_cons, not_or]
        refine ⟨?_, (line.closing_blank gap found).notMem ends⟩
        rcases ends with rfl | rfl <;> decide
  rw [lead, List.mem_append, not_or]
  exact ⟨line.indent_blank.notMem ends, closing⟩

/-- The new lines take the indentation of the line. -/
theorem indentation_lead (line : DialogLine) :
    Text.indentation line.lead.reverse = line.indent := by
  have oneLine : ∀ char ∈ line.lead.reverse, (char != '\n') = true := by
    intro char member
    rw [bne_iff_ne]
    intro newline
    rw [newline, List.mem_reverse] at member
    exact line.notMem_lead (.inl rfl) member
  have stops : (line.closing.elim [] ('\x7d' :: ·)).takeWhile isBlank = [] := by
    cases line.closing with
    | none => rfl
    | some gap => rfl
  rw [Text.indentation, List.takeWhile_eq_self_iff.2 oneLine, List.reverse_reverse, lead,
    List.takeWhile_append_of_pos line.indent_blank, stops, List.append_nil]

/-- The new lines are the replacement of the statement, with what stands around it. -/
theorem intercalate_rendering (line : DialogLine) :
    ['\n'].intercalate line.rendering =
      line.lead ++ (line.statement.replacement {} ⟨line.indent, .newline⟩ ++ line.rest) := by
  rw [rendering, intercalate_enclose, Statement.replacement_eq_intercalate]
  rfl

theorem notMem_message (line : DialogLine) {char : Char} (ends : EndsLine char) :
    char ∉ line.statement.message.body := by
  rcases ends with rfl | rfl
  · intro member
    simpa [Literal.allows] using line.admitted.wellFormed.message '\n' member
  · exact line.message_unbroken

theorem notMem_rest (line : DialogLine) {char : Char} (ends : EndsLine char) :
    char ∉ line.rest := by
  rcases ends with rfl | rfl
  · exact line.rest_unbroken.1
  · exact line.rest_unbroken.2

theorem notMem_statement (line : DialogLine) {char : Char} (ends : EndsLine char) :
    char ∉ line.statement.source :=
  line.admitted.wellFormed.notMem_source ends (line.notMem_message ends)

theorem notMem_source (line : DialogLine) {char : Char} (ends : EndsLine char) :
    char ∉ line.source := by
  rw [source, List.mem_append, List.mem_append, not_or, not_or]
  exact ⟨line.notMem_lead ends, line.notMem_statement ends, line.notMem_rest ends⟩

theorem carriageReturn_notMem_rendering (line : DialogLine) :
    ∀ text ∈ line.rendering, '\r' ∉ text := by
  apply notMem_enclose _ _ _ (line.notMem_lead (.inr rfl)) line.rest_unbroken.2
  exact Statement.notMem_renderedLines (.inr rfl) (by decide) (by decide) line.indent_blank
    (line.notMem_statement (.inr rfl))

/-- Its own rule replaces the line by its rendering. -/
theorem rewrite_source (line : DialogLine) :
    line.rule.rewrite {} .newline line.source = ['\n'].intercalate line.rendering := by
  rw [source, Rule.rewrite_statement line.isBoundary_of_mem_lead line.admitted
    (Detection.any_ofText_eq_false_iff.1 line.rest_quiet), line.indentation_lead,
    intercalate_rendering]

theorem endsAtBoundary_lead (line : DialogLine) : EndsAtBoundary line.lead := by
  intro last member
  exact line.isBoundary_of_mem_lead last (List.mem_of_getLast? member)

theorem callCount_source (line : DialogLine) : callCount line.source = 1 := by
  have message := Detection.any_ofText_eq_false_iff.1 line.message_quiet
  have rest := Detection.any_ofText_eq_false_iff.1 line.rest_quiet
  rw [source, callCount_boundaries_append line.isBoundary_of_mem_lead,
    line.admitted.callCount_source_append message, rest]

theorem siteCount_source (line : DialogLine) : line.rule.siteCount line.source = 1 := by
  have found := Rule.siteCount_statement_pos line.isBoundary_of_mem_lead line.admitted line.rest
  have counted := callCount_rewrite line.rule .newline line.source
  rw [← source] at found
  rw [line.callCount_source] at counted
  omega

/-- Nothing is left to replace. -/
theorem callCount_rendering (line : DialogLine) :
    callCount (['\n'].intercalate line.rendering) = 0 := by
  have counted := callCount_rewrite line.rule .newline line.source
  rw [line.rewrite_source, line.callCount_source, line.siteCount_source] at counted
  omega

theorem siteCount_source_of_ne (line : DialogLine) {rule : Rule} (different : rule ≠ line.rule) :
    rule.siteCount line.source = 0 :=
  Rule.siteCount_eq_zero_of_ne line.admitted rfl line.endsAtBoundary_lead line.callCount_source
    different

end DialogLine

namespace Line

/-- The line as written. -/
def source : Line → Text
  | .plain text _ _ => text
  | .dialog line => line.source

/-- The lines that take the place of the line. -/
def rendering : Line → List Text
  | .plain text _ _ => [text]
  | .dialog line => line.rendering

/-- The rule that replaces a statement on the line. -/
def rule? : Line → Option Rule
  | .plain _ _ _ => none
  | .dialog line => some line.rule

/-- What has become of the line once some rules have been applied. -/
def textAfterRules (done : List Rule) : Line → Text
  | .plain text _ _ => text
  | .dialog line => if line.rule ∈ done then ['\n'].intercalate line.rendering else line.source

theorem textAfterRules_nil (line : Line) : line.textAfterRules [] = line.source := by
  cases line with
  | plain text quiet unbroken => rfl
  | dialog line =>
      rw [textAfterRules, if_neg List.not_mem_nil]
      rfl

theorem textAfterRules_all (line : Line) :
    line.textAfterRules Rule.all.reverse = ['\n'].intercalate line.rendering := by
  cases line with
  | plain text quiet unbroken => exact List.intercalate_singleton.symm
  | dialog line => exact if_pos (List.mem_reverse.2 line.rule.mem_all)

/-- One more rule is applied to the line. -/
theorem rewrite_textAfterRules (rule : Rule) (done : List Rule) (line : Line) :
    rule.rewrite {} .newline (line.textAfterRules done) = line.textAfterRules (rule :: done) := by
  cases line with
  | plain text quiet unbroken =>
      exact Rule.rewrite_of_callCount_eq_zero (Detection.any_ofText_eq_false_iff.1 quiet) {}
        .newline
  | dialog line =>
      rw [textAfterRules, textAfterRules]
      by_cases replaced : line.rule ∈ done
      · rw [if_pos replaced, if_pos (List.mem_cons_of_mem rule replaced)]
        exact Rule.rewrite_of_callCount_eq_zero line.callCount_rendering {} .newline
      · rw [if_neg replaced]
        by_cases own : line.rule = rule
        · rw [if_pos (own ▸ List.mem_cons_self), ← own]
          exact line.rewrite_source
        · have open_still : line.rule ∉ rule :: done := by
            rw [List.mem_cons, not_or]
            exact ⟨own, replaced⟩
          rw [if_neg open_still]
          exact Rule.rewrite_of_siteCount_eq_zero (line.siteCount_source_of_ne (Ne.symm own))

/-- A rule that has not been applied yet finds the statements that are its own. -/
theorem siteCount_textAfterRules {rule : Rule} {done : List Rule} (fresh : rule ∉ done)
    (line : Line) :
    rule.siteCount (line.textAfterRules done) = if line.rule? = some rule then 1 else 0 := by
  cases line with
  | plain text quiet unbroken =>
      rw [rule?, if_neg (by simp)]
      exact Rule.siteCount_eq_zero_of_callCount_eq_zero
        (Detection.any_ofText_eq_false_iff.1 quiet) rule
  | dialog line =>
      rw [textAfterRules, rule?]
      by_cases own : line.rule = rule
      · rw [if_pos (congrArg some own), if_neg (own ▸ fresh), ← own]
        exact line.siteCount_source
      · have other : some line.rule ≠ some rule := by
          intro same
          exact own (Option.some.inj same)
        rw [if_neg other]
        by_cases replaced : line.rule ∈ done
        · rw [if_pos replaced]
          exact Rule.siteCount_eq_zero_of_callCount_eq_zero line.callCount_rendering rule
        · rw [if_neg replaced]
          exact line.siteCount_source_of_ne (Ne.symm own)

end Line

end DialogCodemod
