import DialogCodemod.Proofs.Insertion
import DialogCodemod.Proofs.LineEndings
import DialogCodemod.Proofs.LineLocality

/-!
# Texts with one kind of line ending

The lines of a text all end alike if every newline stands behind a carriage return, or if there is no
carriage return at all. A conversion keeps both properties and brings neither about. Every rule finds
the line ending anew, in a text that has more lines than the one before, and the import is written
before any rule looks at the text; what carries through all of them is that the lines of a text are
rewritten apart and that new lines are joined with the ending of the first one.
-/

namespace DialogCodemod

/-- Every newline of the text stands behind a carriage return. -/
def NewlinesFollowReturns (text : Text) : Prop :=
  ∀ before after, text = before ++ '\n' :: after → before.getLast? = some '\r'

namespace NewlinesFollowReturns

variable {first later : Text}

theorem of_notMem {text : Text} (oneLine : '\n' ∉ text) : NewlinesFollowReturns text := by
  rintro before after rfl
  simp at oneLine

theorem append (returned : NewlinesFollowReturns first)
    (returnedLater : NewlinesFollowReturns later) : NewlinesFollowReturns (first ++ later) := by
  intro before after split
  rcases List.append_eq_append_iff.1 split with ⟨inside, rfl, inLater⟩ | ⟨inside, inFirst, rest⟩
  · rw [List.getLast?_append, returnedLater inside after inLater]
    rfl
  · cases inside with
    | nil =>
        -- The newline would be the first character of the later text.
        cases returnedLater [] after rest.symm
    | cons char inside =>
        obtain ⟨rfl, _⟩ := List.cons.inj rest
        exact returned before inside inFirst

theorem of_append_left (returned : NewlinesFollowReturns (first ++ later)) :
    NewlinesFollowReturns first := by
  rintro before after rfl
  exact returned before (after ++ later) (by simp)

theorem of_append_newline (returned : NewlinesFollowReturns (first ++ '\n' :: later)) :
    NewlinesFollowReturns later := by
  rintro before after rfl
  have last := returned (first ++ '\n' :: before) after (by simp)
  rw [List.getLast?_append, List.getLast?_cons] at last
  cases behind : before.getLast? with
  | none =>
      rw [behind] at last
      cases last
  | some char =>
      rw [behind] at last
      exact last

/-- Complete lines and what follows them are judged apart. -/
theorem append_iff (complete : CompleteLines first) :
    NewlinesFollowReturns (first ++ later) ↔
      NewlinesFollowReturns first ∧ NewlinesFollowReturns later := by
  refine ⟨?_, fun both => both.1.append both.2⟩
  intro returned
  refine ⟨returned.of_append_left, ?_⟩
  rcases complete.eq_nil_or_concat with rfl | ⟨front, rfl⟩
  · exact returned
  · rw [← List.append_cons] at returned
    exact returned.of_append_newline

theorem lineBreak : NewlinesFollowReturns LineEnding.carriageReturnNewline.text := by
  intro before after split
  cases before with
  | nil => cases split
  | cons char before =>
      obtain ⟨rfl, rest⟩ := List.cons.inj split
      cases before with
      | nil => rfl
      | cons next before => cases before <;> cases rest

theorem intercalate {lines : List Text} (unbroken : ∀ line ∈ lines, '\n' ∉ line) :
    NewlinesFollowReturns (LineEnding.carriageReturnNewline.text.intercalate lines) := by
  induction lines with
  | nil => exact of_notMem (by simp)
  | cons line lines ih =>
      rw [List.forall_mem_cons] at unbroken
      cases lines with
      | nil =>
          rw [List.intercalate_singleton]
          exact of_notMem unbroken.1
      | cons next lines =>
          rw [List.intercalate_cons_cons]
          exact ((of_notMem unbroken.1).append lineBreak).append (ih unbroken.2)

/-- Such a text is found to have carriage returns, provided it has a line break at all. -/
theorem ofText_eq {text : Text} (returned : NewlinesFollowReturns text) (broken : '\n' ∈ text) :
    LineEnding.ofText text = .carriageReturnNewline := by
  obtain ⟨line, later, rfl, oneLine⟩ := List.eq_append_cons_of_mem broken
  rw [LineEnding.ofText_append_newline oneLine, if_pos (returned line later rfl)]

end NewlinesFollowReturns

/-! ## Rules -/

namespace Statement

/-- The message of a statement is written in what takes its place. -/
theorem message_subset_replacement (statement : Statement) (notifier : Notifier)
    (layout : Layout) : statement.message.source ⊆ statement.replacement notifier layout := by
  intro char member
  cases statement with
  | alert written =>
      unfold replacement Notifier.showCall
      simp [show char ∈ written.message.source from member]
  | guard written =>
      obtain ⟨elseGap, ifGap, openGap, notGap, call, callGap, closeGap, returnGap⟩ := written
      cases elseGap <;>
        unfold replacement Notifier.awaitedGuard Notifier.awaitedAnswer <;>
        simp [show char ∈ call.message.source from member]
  | binding written =>
      unfold replacement Notifier.awaitedAnswer
      simp [show char ∈ written.call.message.source from member]

end Statement

namespace Rule

variable {notifier : Notifier} {text : Text}

theorem newlinesFollowReturns_rewrite_line (rule : Rule) (inName : '\n' ∉ notifier.name)
    (inSeverity : '\n' ∉ notifier.severity) {line : Text} (oneLine : '\n' ∉ line) :
    NewlinesFollowReturns (rule.rewrite notifier .carriageReturnNewline line) := by
  rw [← rule.flatMap_source_segments line] at oneLine
  apply replaceSites_of_parts (.of_notMem List.not_mem_nil) .append
  · intro char member
    apply NewlinesFollowReturns.of_notMem
    rw [List.mem_singleton]
    rintro rfl
    exact oneLine member
  · intro statement layout inText blank ending
    rw [statement.replacement_eq_intercalate, ending]
    exact .intercalate (Statement.notMem_renderedLines (.inl rfl) inName inSeverity blank
      (fun member => oneLine (inText member)))

theorem newlinesFollowReturns_rewrite (rule : Rule) (inName : '\n' ∉ notifier.name)
    (inSeverity : '\n' ∉ notifier.severity) (returned : NewlinesFollowReturns text) :
    NewlinesFollowReturns (rule.rewrite notifier .carriageReturnNewline text) := by
  induction text using Text.lineInduction with
  | lastLine line oneLine =>
      exact rule.newlinesFollowReturns_rewrite_line inName inSeverity oneLine
  | newline line later oneLine ih =>
      -- The carriage return is rewritten with the newline, as a line break that no statement touches.
      obtain ⟨front, rfl⟩ := List.getLast?_eq_some_iff.1 (returned line later rfl)
      have split : front ++ ['\r'] ++ '\n' :: later =
          front ++ (LineEnding.carriageReturnNewline.text ++ later) := by
        simp [LineEnding.text]
      have inFront : '\n' ∉ front := fun member => oneLine (List.mem_append_left _ member)
      have rewritten := rule.newlinesFollowReturns_rewrite_line inName inSeverity inFront
      rw [split, rewrite_append_lineBreak]
      exact rewritten.append (.append .lineBreak (ih returned.of_append_newline))

/-- A rule keeps the end of each line, and with it a newline that stands by itself. -/
theorem newlinesFollowReturns_of_rewrite {rule : Rule} {ending : LineEnding}
    (returned : NewlinesFollowReturns (rule.rewrite notifier ending text)) :
    NewlinesFollowReturns text := by
  rintro before after rfl
  rw [rewrite_append_newline] at returned
  exact ((rule.endsAlike_rewrite notifier ending before).getLast?_iff (.inr rfl)).1
    (returned _ _ rfl)

theorem newlinesFollowReturns_apply_iff (rule : Rule) (inName : '\n' ∉ notifier.name)
    (inSeverity : '\n' ∉ notifier.severity) (broken : '\n' ∈ text) :
    NewlinesFollowReturns (rule.apply notifier text) ↔ NewlinesFollowReturns text := by
  refine ⟨newlinesFollowReturns_of_rewrite, ?_⟩
  intro returned
  rw [apply_eq_rewrite, returned.ofText_eq broken]
  exact rule.newlinesFollowReturns_rewrite inName inSeverity returned

theorem newline_mem_apply (rule : Rule) (notifier : Notifier) (broken : '\n' ∈ text) :
    '\n' ∈ rule.apply notifier text := by
  obtain ⟨line, later, rfl, _⟩ := List.eq_append_cons_of_mem broken
  rw [apply_eq_rewrite, rewrite_append_newline]
  simp

theorem newlinesFollowReturns_applyAll_iff (inName : '\n' ∉ notifier.name)
    (inSeverity : '\n' ∉ notifier.severity) (rules : List Rule) (broken : '\n' ∈ text) :
    NewlinesFollowReturns (applyAll notifier rules text) ↔ NewlinesFollowReturns text := by
  induction rules generalizing text with
  | nil => exact Iff.rfl
  | cons rule rules ih =>
      have rest := ih (rule.newline_mem_apply notifier broken)
      exact rest.trans (rule.newlinesFollowReturns_apply_iff inName inSeverity broken)

/-- A carriage return is part of no statement, unless it stands in the message, which is kept. -/
theorem carriageReturn_mem_replaceSites {rule : Rule} {ending : LineEnding} {atStart : Bool}
    (before : Text) (member : '\r' ∈ text) :
    '\r' ∈ replaceSites notifier ending before (rule.segmentsFrom atStart text) := by
  fun_induction segmentsFrom rule atStart text generalizing before with
  | case1 atStart text site rest found ih =>
      obtain ⟨rfl, _, admitted⟩ := site?_eq_some_iff.1 found
      rw [Site.source, List.mem_append, List.mem_append] at member
      rw [replaceSites, List.mem_append, List.mem_append]
      rcases member with (inBoundary | inStatement) | inRest
      · exact .inl (.inl inBoundary)
      · have inMessage : '\r' ∈ site.statement.message.source := by
          by_contra absent
          have inBody : '\r' ∉ site.statement.message.body := fun inBody =>
            absent (by simp [Literal.source, inBody])
          exact admitted.wellFormed.notMem_source (.inr rfl) inBody inStatement
        exact .inl (.inr (site.statement.message_subset_replacement notifier _ inMessage))
      · exact .inr (ih _ inRest)
  | case2 => cases member
  | case3 atStart char rest missing ih =>
      rcases List.mem_cons.1 member with rfl | inRest
      · exact List.mem_cons_self
      · exact List.mem_cons_of_mem _ (ih _ inRest)

theorem carriageReturn_mem_apply_iff (rule : Rule) (inName : '\r' ∉ notifier.name)
    (inSeverity : '\r' ∉ notifier.severity) :
    '\r' ∈ rule.apply notifier text ↔ '\r' ∈ text := by
  refine ⟨?_, carriageReturn_mem_replaceSites []⟩
  intro member
  by_contra absent
  exact rule.carriageReturn_notMem_apply inName inSeverity absent member

theorem carriageReturn_mem_applyAll_iff (inName : '\r' ∉ notifier.name)
    (inSeverity : '\r' ∉ notifier.severity) (rules : List Rule) :
    '\r' ∈ applyAll notifier rules text ↔ '\r' ∈ text := by
  induction rules generalizing text with
  | nil => exact Iff.rfl
  | cons rule rules ih => exact ih.trans (rule.carriageReturn_mem_apply_iff inName inSeverity)

end Rule

/-! ## The import -/

/-- What a notifier brings into a text stands on one line. -/
structure Notifier.OneLine (notifier : Notifier) : Prop where
  name : ∀ {char}, EndsLine char → char ∉ notifier.name
  modulePath : ∀ {char}, EndsLine char → char ∉ notifier.modulePath
  severity : ∀ {char}, EndsLine char → char ∉ notifier.severity

theorem Notifier.OneLine.notMem_importStatement {notifier : Notifier} (oneLine : notifier.OneLine)
    {char : Char} (ends : EndsLine char) : char ∉ notifier.importStatement := by
  have inName := oneLine.name ends
  have inPath := oneLine.modulePath ends
  unfold Notifier.importStatement
  rcases ends with rfl | rfl <;> simp [inName, inPath]

namespace Import

variable {notifier : Notifier} {text : Text}

/-- The characters of the text are all kept, and those of the new line come in. -/
theorem mem_insertLine_iff {char : Char} {line : Nat} {statement : Text} :
    char ∈ insertLine text line statement ↔
      char ∈ text ∨ char ∈ statement ∨ char ∈ (LineEnding.ofText text).text := by
  obtain ⟨before, after, split, _, origin⟩ := exists_insertLine_eq text line statement
  rw [split]
  rcases origin with whole | ⟨longer, rest⟩
  · have inText : char ∈ text ↔ char ∈ before ∨ char ∈ after := by
      rw [← List.mem_append, ← whole]
    simp only [List.mem_append, inText]
    tauto
  · simp only [longer, rest, List.mem_append, List.not_mem_nil, or_false]
    tauto

theorem newline_mem_place (notifier : Notifier) (broken : '\n' ∈ text) (placement : Option Nat) :
    '\n' ∈ place notifier text placement := by
  cases placement with
  | none => exact broken
  | some line => exact mem_insertLine_iff.2 (.inl broken)

theorem newlinesFollowReturns_place_iff (oneLine : notifier.OneLine) (broken : '\n' ∈ text)
    (placement : Option Nat) :
    NewlinesFollowReturns (place notifier text placement) ↔ NewlinesFollowReturns text := by
  cases placement with
  | none => exact Iff.rfl
  | some line =>
      obtain ⟨before, after, split, complete, origin⟩ :=
        exists_insertLine_eq text line notifier.importStatement
      have own := completeLines_append_ending notifier.importStatement (LineEnding.ofText text)
      have ended (returned : NewlinesFollowReturns text) :
          NewlinesFollowReturns (LineEnding.ofText text).text := by
        rw [returned.ofText_eq broken]
        exact .lineBreak
      have imported := NewlinesFollowReturns.of_notMem (oneLine.notMem_importStatement (.inl rfl))
      rw [place, split, ← List.append_assoc notifier.importStatement,
        NewlinesFollowReturns.append_iff complete, NewlinesFollowReturns.append_iff own]
      constructor
      · rintro ⟨inBefore, _, inAfter⟩
        rcases origin with whole | ⟨longer, _⟩
        · rw [whole]
          exact inBefore.append inAfter
        · rw [longer] at inBefore
          exact inBefore.of_append_left
      · intro returned
        have line := imported.append (ended returned)
        rcases origin with whole | ⟨longer, rest⟩
        · have ⟨inBefore, inAfter⟩ :=
            (NewlinesFollowReturns.append_iff complete).1 (whole ▸ returned)
          exact ⟨inBefore, line, inAfter⟩
        · rw [longer, rest]
          exact ⟨returned.append (ended returned), line, .of_notMem List.not_mem_nil⟩

theorem carriageReturn_mem_place_iff (oneLine : notifier.OneLine) (placement : Option Nat) :
    '\r' ∈ place notifier text placement ↔ '\r' ∈ text := by
  cases placement with
  | none => exact Iff.rfl
  | some line =>
      rw [place, mem_insertLine_iff]
      refine ⟨?_, .inl⟩
      rintro (inText | inStatement | inEnding)
      · exact inText
      · exact absurd inStatement (oneLine.notMem_importStatement (.inr rfl))
      · -- Without a carriage return in the text, the new line would end with a newline alone.
        by_contra absent
        rw [LineEnding.ofText_eq_newline absent] at inEnding
        simp [LineEnding.text] at inEnding

end Import

/-- A conversion keeps the line endings of a text alike. If the text has a newline at all, then all
newlines of the converted text stand behind carriage returns exactly if those of the text do. And the
converted text has a carriage return exactly if the text has one. -/
theorem conversion_keeps_line_endings {notifier : Notifier} (oneLine : notifier.OneLine)
    {text : Text} {conversion : Conversion}
    (converted : convert? notifier text = some conversion) :
    ('\n' ∈ text → (NewlinesFollowReturns conversion.text ↔ NewlinesFollowReturns text)) ∧
    ('\r' ∈ conversion.text ↔ '\r' ∈ text) := by
  rw [Conversion.text_eq_applyAll converted, Conversion.imported_eq_place converted]
  constructor
  · intro broken
    have rules := Rule.newlinesFollowReturns_applyAll_iff (oneLine.name (.inl rfl))
      (oneLine.severity (.inl rfl)) Rule.all
      (Import.newline_mem_place notifier broken (Import.placement? notifier text))
    exact rules.trans (Import.newlinesFollowReturns_place_iff oneLine broken _)
  · have rules := @Rule.carriageReturn_mem_applyAll_iff notifier
      (Import.place notifier text (Import.placement? notifier text)) (oneLine.name (.inr rfl))
      (oneLine.severity (.inr rfl)) Rule.all
    exact rules.trans (Import.carriageReturn_mem_place_iff oneLine _)

/-- Lines with carriage returns of their own: in a message, before a call and at the very end. -/
def linesWithReturns : List Text :=
  ["import 'a';", "if (b) c();", "  else if (!confirm('d\re')) return;", "\ralert('f');\r"].map
    String.toList

/-- The guard becomes a block of several lines, and the import follows on the first line. -/
theorem conversion_keeps_line_endings_lone_returns :
    ∃ text conversion,
      text = LineEnding.carriageReturnNewline.text.intercalate linesWithReturns ∧
      convert? { name := "toast".toList } text = some conversion ∧
      conversion.importInserted = true ∧ conversion.replacementCount = 2 ∧
      NewlinesFollowReturns text ∧ NewlinesFollowReturns conversion.text := by
  have unbroken : (linesWithReturns.all fun line => !line.contains '\n') = true := by
    decide
  have returned : NewlinesFollowReturns
      (LineEnding.carriageReturnNewline.text.intercalate linesWithReturns) := by
    apply NewlinesFollowReturns.intercalate
    intro line member
    simpa using List.all_eq_true.1 unbroken line member
  have oneLine : Notifier.OneLine { name := "toast".toList } := by
    constructor <;> rintro _ (rfl | rfl) <;> decide
  have ⟨conversion, converted, counted⟩ := (Option.any_eq_true _ _).1
    (show (convert? { name := "toast".toList }
        (LineEnding.carriageReturnNewline.text.intercalate linesWithReturns)).any
        (fun conversion => conversion.importInserted && conversion.replacementCount == 2) = true by
      decide +kernel)
  rw [Bool.and_eq_true, beq_iff_eq] at counted
  have kept := (conversion_keeps_line_endings oneLine converted).1 (by decide)
  exact ⟨_, conversion, rfl, converted, counted.1, counted.2, returned, kept.2 returned⟩

end DialogCodemod
