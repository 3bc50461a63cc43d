import DialogCodemod.Proofs.Lines

/-!
# The line ending of a rewritten text

New lines take the line ending of the text they are written into, and every rule finds it anew. This
module says that it finds the same one each time: a replacement brings line breaks of the ending it
was given, the first of them behind a brace, and it does not change how a line ends. A carriage
return at the end of a line is never part of a statement.
-/

namespace DialogCodemod

/-! ## Finding the line ending -/

namespace LineEnding

/-- A character decides about the line ending only together with a newline behind it. -/
theorem ofText_cons {char : Char} {rest : Text} (here : char ≠ '\n')
    (next : rest.head? ≠ some '\n') : ofText (char :: rest) = ofText rest := by
  rw [ofText]
  · exact if_neg here
  · intro later _ split
    exact next (by rw [split]; rfl)

theorem ofText_append_newline {line : Text} (oneLine : '\n' ∉ line) (later : Text) :
    ofText (line ++ '\n' :: later) =
      if line.getLast? = some '\r' then .carriageReturnNewline else .newline := by
  induction line with
  | nil => rfl
  | cons char line ih =>
      rw [List.mem_cons, not_or] at oneLine
      cases line with
      | nil =>
          by_cases carriageReturn : char = '\r'
          · rw [carriageReturn]
            rfl
          · have single : ([char] : Text).getLast? ≠ some '\r' := by
              simpa using carriageReturn
            rw [if_neg single, List.singleton_append, ofText]
            · rw [if_neg (Ne.symm oneLine.1)]
              rfl
            · intro _ same _
              exact carriageReturn same
      | cons next line =>
          have unbroken : (next :: line ++ '\n' :: later).head? ≠ some '\n' := by
            intro starts
            exact oneLine.2 (by rw [Option.some.inj starts]; exact List.mem_cons_self)
          rw [List.cons_append, ofText_cons (Ne.symm oneLine.1) unbroken, ih oneLine.2,
            List.getLast?_cons_cons]

theorem ofText_eq_newline_of_notMem {text : Text} (oneLine : '\n' ∉ text) :
    ofText text = .newline := by
  induction text with
  | nil => rfl
  | cons char text ih =>
      rw [List.mem_cons, not_or] at oneLine
      have next : text.head? ≠ some '\n' := fun starts =>
        oneLine.2 (List.mem_of_mem_head? starts)
      rw [ofText_cons (Ne.symm oneLine.1) next, ih oneLine.2]

/-- The first line break of a text tells its line ending. -/
theorem ofText_append_text {front : Text} (oneLine : '\n' ∉ front)
    (last : front.getLast? ≠ some '\r') (ending : LineEnding) (rest : Text) :
    ofText (front ++ (ending.text ++ rest)) = ending := by
  cases ending with
  | newline =>
      rw [text, List.singleton_append, ofText_append_newline oneLine, if_neg last]
  | carriageReturnNewline =>
      have longer : '\n' ∉ front ++ ['\r'] := by
        simp [oneLine]
      have split : front ++ (carriageReturnNewline.text ++ rest) =
          (front ++ ['\r']) ++ '\n' :: rest := by
        simp [text]
      rw [split, ofText_append_newline longer, if_pos (by simp)]

end LineEnding

/-! ## The first line break -/

/-- If the text has a line break, then the first one is of the given kind and stands behind a
brace. -/
def Breaks (ending : LineEnding) (text : Text) : Prop :=
  '\n' ∉ text ∨
    ∃ front rest, text = front ++ '\x7b' :: (ending.text ++ rest) ∧ '\n' ∉ front

namespace Breaks

variable {ending : LineEnding} {first later : Text}

theorem append_left (oneLine : '\n' ∉ first) (breaks : Breaks ending later) :
    Breaks ending (first ++ later) := by
  rcases breaks with unbroken | ⟨front, rest, rfl, inFront⟩
  · exact .inl (by simp [oneLine, unbroken])
  · exact .inr ⟨first ++ front, rest, by simp, by simp [oneLine, inFront]⟩

theorem append (breaks : Breaks ending first) (breaksLater : Breaks ending later) :
    Breaks ending (first ++ later) := by
  rcases breaks with unbroken | ⟨front, rest, rfl, inFront⟩
  · exact breaksLater.append_left unbroken
  · exact .inr ⟨front, rest ++ later, by simp, inFront⟩

theorem ofText_append (breaks : Breaks ending first) (broken : '\n' ∈ first) :
    LineEnding.ofText (first ++ later) = ending := by
  rcases breaks with unbroken | ⟨front, rest, rfl, inFront⟩
  · exact absurd broken unbroken
  · have upTo : '\n' ∉ front ++ ['\x7b'] := by
      simp [inFront]
    have split : front ++ '\x7b' :: (ending.text ++ rest) ++ later =
        (front ++ ['\x7b']) ++ (ending.text ++ (rest ++ later)) := by
      simp
    rw [split, LineEnding.ofText_append_text upTo (by simp)]

end Breaks

section Replacements

variable {notifier : Notifier} {layout : Layout}

theorem Notifier.exists_awaitedAnswer_eq (notifier : Notifier) (layout : Layout)
    (message : Literal) :
    ∃ rest, notifier.awaitedAnswer layout message =
      "await new Promise((resolve) => ".toList ++ '\x7b' :: (layout.ending.text ++ rest) := by
  refine ⟨layout.nested.indent ++ (notifier.name ++ (".confirm(".toList ++ (message.source ++
    (", resolve);".toList ++ (layout.lineBreak ++ "\x7d)".toList))))), ?_⟩
  unfold Notifier.awaitedAnswer
  simp [Layout.lineBreak, Layout.nested]

theorem Notifier.breaks_awaitedAnswer (notifier : Notifier) (layout : Layout)
    (message : Literal) : Breaks layout.ending (notifier.awaitedAnswer layout message) := by
  obtain ⟨rest, answer⟩ := notifier.exists_awaitedAnswer_eq layout message
  exact .inr ⟨_, rest, answer, by decide⟩

theorem Notifier.breaks_awaitedGuard (notifier : Notifier) (layout : Layout)
    (message : Literal) : Breaks layout.ending (notifier.awaitedGuard layout message) := by
  obtain ⟨rest, answer⟩ := notifier.exists_awaitedAnswer_eq layout message
  refine .inr ⟨"const confirmed = await new Promise((resolve) => ".toList,
    rest ++ (";".toList ++ (layout.lineBreak ++ "if (!confirmed) return;".toList)), ?_, by decide⟩
  unfold Notifier.awaitedGuard
  rw [answer]
  simp

/-- The first line break that a replacement brings is of the ending it was given. -/
theorem Statement.breaks_replacement (inName : '\n' ∉ notifier.name)
    (inSeverity : '\n' ∉ notifier.severity) {statement : Statement}
    (oneLine : '\n' ∉ statement.source) :
    Breaks layout.ending (statement.replacement notifier layout) := by
  cases statement with
  | alert written =>
      have inMessage : '\n' ∉ written.message.source := by
        intro member
        exact oneLine (by simp [source, Call.source, member])
      left
      unfold replacement Notifier.showCall
      simp [inName, inSeverity, inMessage]
  | guard written =>
      obtain ⟨elseGap, ifGap, openGap, notGap, call, callGap, closeGap, returnGap⟩ := written
      cases elseGap with
      | none => exact notifier.breaks_awaitedGuard layout call.message
      | some gap =>
          refine .inr ⟨"else ".toList, layout.nested.indent ++
            (notifier.awaitedGuard layout.nested call.message ++
              (layout.lineBreak ++ "\x7d".toList)), ?_, by decide⟩
          unfold replacement
          simp [Layout.lineBreak, Layout.nested]
  | binding written =>
      have inKeyword : '\n' ∉ written.keyword.source := by
        cases written.keyword <;> decide
      have inBoundName : '\n' ∉ written.name := by
        intro member
        exact oneLine (by simp [source, Binding.source, member])
      exact (notifier.breaks_awaitedAnswer layout written.call.message).append_left
        (by simp [inKeyword, inBoundName])

theorem breaks_replaceSites (inName : '\n' ∉ notifier.name) (inSeverity : '\n' ∉ notifier.severity)
    (ending : LineEnding) (before : Text) {segments : List Segment}
    (oneLine : '\n' ∉ segments.flatMap Segment.source) :
    Breaks ending (replaceSites notifier ending before segments) := by
  apply Rule.replaceSites_of_parts (.inl List.not_mem_nil) Breaks.append
  · intro char member
    left
    rw [List.mem_singleton]
    rintro rfl
    exact oneLine member
  · rintro statement layout inText _ rfl
    exact Statement.breaks_replacement inName inSeverity (fun member => oneLine (inText member))

end Replacements

/-! ## The end of a text -/

/-- The text is not empty, and its last character does not end a line. -/
def EndsInside (text : Text) : Prop :=
  ∃ front last, text = front ++ [last] ∧ ¬EndsLine last

/-- The two texts are both empty or not, and end a line alike. -/
structure EndsAlike (first second : Text) : Prop where
  eq_nil_iff : first = [] ↔ second = []
  getLast?_iff : ∀ {char}, EndsLine char →
    (first.getLast? = some char ↔ second.getLast? = some char)

namespace EndsAlike

theorem refl (text : Text) : EndsAlike text text :=
  ⟨Iff.rfl, fun _ => Iff.rfl⟩

theorem append {first second later laterSecond : Text} (alike : EndsAlike first second)
    (alikeLater : EndsAlike later laterSecond) :
    EndsAlike (first ++ later) (second ++ laterSecond) := by
  rcases List.eq_nil_or_concat later with empty | ⟨front, last, concat⟩
  · have emptySecond := alikeLater.eq_nil_iff.1 empty
    rw [empty, emptySecond, List.append_nil, List.append_nil]
    exact alike
  · rcases List.eq_nil_or_concat laterSecond with empty | ⟨frontSecond, lastSecond, concatSecond⟩
    · rw [alikeLater.eq_nil_iff.2 empty] at concat
      simp at concat
    · refine ⟨by simp [concat, concatSecond], ?_⟩
      intro char ends
      have lastAlike := alikeLater.getLast?_iff ends
      simpa [concat, concatSecond] using lastAlike

end EndsAlike

theorem EndsInside.endsAlike {first second : Text} (inside : EndsInside first)
    (insideSecond : EndsInside second) : EndsAlike first second := by
  obtain ⟨front, last, rfl, notEnd⟩ := inside
  obtain ⟨frontSecond, lastSecond, rfl, notEndSecond⟩ := insideSecond
  refine ⟨by simp, ?_⟩
  intro char ends
  rw [List.getLast?_concat, List.getLast?_concat, Option.some.injEq, Option.some.injEq]
  refine iff_of_false ?_ ?_
  · rintro rfl
    exact notEnd ends
  · rintro rfl
    exact notEndSecond ends

/-- A character with which a statement ends, or what takes its place. -/
def closesStatement (char : Char) : Bool :=
  char == ')' || char == ';' || char == '\x7d'

/-- The text ends like a statement. -/
def EndsClosed (text : Text) : Prop :=
  ∃ front last, text = front ++ [last] ∧ closesStatement last = true

theorem EndsClosed.append_left {later : Text} (closed : EndsClosed later) (first : Text) :
    EndsClosed (first ++ later) := by
  obtain ⟨front, last, rfl, closes⟩ := closed
  exact ⟨first ++ front, last, by simp, closes⟩

theorem EndsClosed.endsInside {text : Text} (closed : EndsClosed text) : EndsInside text := by
  obtain ⟨front, last, rfl, closes⟩ := closed
  refine ⟨front, last, rfl, ?_⟩
  rintro (rfl | rfl) <;> cases closes

namespace Statement

/-- A statement ends with a parenthesis or a semicolon. -/
theorem endsClosed_source (statement : Statement) : EndsClosed statement.source := by
  have call (dialog : Dialog) (written : Call) : EndsClosed (written.source dialog) :=
    ⟨_, ')', rfl, rfl⟩
  cases statement with
  | alert written => exact call .alert written
  | guard written => exact ⟨_, ';', rfl, rfl⟩
  | binding written => exact (call .confirm written.call).append_left _

/-- A replacement ends with a parenthesis, a semicolon or a brace. -/
theorem endsClosed_replacement (statement : Statement) (notifier : Notifier) (layout : Layout) :
    EndsClosed (statement.replacement notifier layout) := by
  cases statement with
  | alert written =>
      have closing : EndsClosed "')".toList := ⟨['\x27'], ')', rfl, rfl⟩
      exact closing.append_left _
  | guard written =>
      obtain ⟨elseGap, ifGap, openGap, notGap, call, callGap, closeGap, returnGap⟩ := written
      cases elseGap with
      | none =>
          have closing : EndsClosed "if (!confirmed) return;".toList :=
            ⟨"if (!confirmed) return".toList, ';', rfl, rfl⟩
          exact closing.append_left _
      | some gap => exact ⟨_, '\x7d', rfl, rfl⟩
  | binding written =>
      have closing : EndsClosed "\x7d)".toList := ⟨['\x7d'], ')', rfl, rfl⟩
      exact (closing.append_left _).append_left _

end Statement

theorem endsAlike_replaceSites (notifier : Notifier) (ending : LineEnding) (before : Text)
    (segments : List Segment) :
    EndsAlike (replaceSites notifier ending before segments)
      (segments.flatMap Segment.source) := by
  induction segments generalizing before with
  | nil => exact .refl []
  | cons segment later ih =>
      cases segment with
      | plain char =>
          have rest := ih (char :: before)
          exact (EndsAlike.refl [char]).append rest
      | site site =>
          have rest := ih (site.statement.source.reverse ++ (site.boundary.toList ++ before))
          have closed := site.statement.endsClosed_replacement notifier
            { indent := Text.indentation (site.boundary.toList ++ before), ending }
          have replaced := closed.endsInside.endsAlike site.statement.endsClosed_source.endsInside
          exact ((EndsAlike.refl site.boundary.toList).append replaced).append rest

namespace Rule

variable {notifier : Notifier} {ending : LineEnding}

/-- A rewritten text ends a line where the text did. -/
theorem endsAlike_rewrite (rule : Rule) (notifier : Notifier) (ending : LineEnding) (text : Text) :
    EndsAlike (rule.rewrite notifier ending text) text := by
  have alike := endsAlike_replaceSites notifier ending [] (rule.segments text)
  rw [flatMap_source_segments] at alike
  exact alike

theorem breaks_rewrite (rule : Rule) (inName : '\n' ∉ notifier.name)
    (inSeverity : '\n' ∉ notifier.severity) (ending : LineEnding) {line : Text}
    (oneLine : '\n' ∉ line) : Breaks ending (rule.rewrite notifier ending line) := by
  apply breaks_replaceSites inName inSeverity
  rw [flatMap_source_segments]
  exact oneLine

/-- Rules keep the line ending of a text. -/
theorem ofText_apply (rule : Rule) (inName : '\n' ∉ notifier.name)
    (inSeverity : '\n' ∉ notifier.severity) (text : Text) :
    LineEnding.ofText (rule.apply notifier text) = LineEnding.ofText text := by
  rw [apply_eq_rewrite]
  by_cases broken : '\n' ∈ text
  · obtain ⟨line, later, rfl, oneLine⟩ := List.eq_append_cons_of_mem broken
    have found := LineEnding.ofText_append_newline oneLine later
    generalize LineEnding.ofText (line ++ '\n' :: later) = ending at found ⊢
    rw [rewrite_append_newline]
    by_cases inside : '\n' ∈ rule.rewrite notifier ending line
    · -- The first line break is one of a replacement.
      exact (rule.breaks_rewrite inName inSeverity ending oneLine).ofText_append inside
    · -- The first line keeps its end.
      have alike := (rule.endsAlike_rewrite notifier ending line).getLast?_iff (.inr rfl)
      rw [LineEnding.ofText_append_newline inside, if_congr alike rfl rfl, found]
  · rw [LineEnding.ofText_eq_newline_of_notMem broken]
    by_cases inside : '\n' ∈ rule.rewrite notifier .newline text
    · have breaks := rule.breaks_rewrite inName inSeverity .newline broken
      rw [← List.append_nil (rule.rewrite notifier .newline text), breaks.ofText_append inside]
    · exact LineEnding.ofText_eq_newline_of_notMem inside

/-! ## Line breaks in a text -/

/-- A statement does not take a carriage return at the end of the text. -/
theorem uncrossed_carriageReturn (rule : Rule) (text : Text) : rule.Uncrossed text '\r' [] := by
  intro before start statement rest _ _ _ split
  rcases List.eq_nil_or_concat rest with rfl | ⟨remaining, last, rfl⟩
  · obtain ⟨front, last, source, notEnd⟩ := statement.endsClosed_source.endsInside
    rw [List.append_nil, source] at split
    have last_eq := (List.append_inj' split rfl).2
    rw [List.cons.injEq] at last_eq
    exact absurd (.inr last_eq.1.symm) notEnd
  · rw [List.concat_eq_append, ← List.append_assoc] at split
    exact ⟨remaining, (List.append_inj' split rfl).1⟩

theorem rewrite_append_carriageReturn (rule : Rule) (text : Text) :
    rule.rewrite notifier ending (text ++ ['\r']) =
      rule.rewrite notifier ending text ++ ['\r'] := by
  have whole : rule.Uncrossed ([] ++ text) '\r' [] := rule.uncrossed_carriageReturn text
  rw [rewrite, segments, whole.segmentsFrom_append (fun _ => rfl) rfl, replaceSites_append,
    replaceSites_segmentsFrom_cons rfl, segmentsFrom_nil]
  rfl

/-- The texts before and after a line break are rewritten apart. -/
theorem rewrite_append_lineBreak (rule : Rule) (text : Text) (own : LineEnding) (later : Text) :
    rule.rewrite notifier ending (text ++ (own.text ++ later)) =
      rule.rewrite notifier ending text ++ (own.text ++ rule.rewrite notifier ending later) := by
  cases own with
  | newline => exact rewrite_append_newline text later
  | carriageReturnNewline =>
      have split (first rest : Text) :
          first ++ (LineEnding.carriageReturnNewline.text ++ rest) =
            (first ++ ['\r']) ++ '\n' :: rest := by
        simp [LineEnding.text]
      rw [split, rewrite_append_newline, rewrite_append_carriageReturn, split]

@[simp] theorem siteCount_nil (rule : Rule) : rule.siteCount [] = 0 := by
  rw [siteCount, segments, segmentsFrom_nil]
  rfl

theorem siteCount_append_lineBreak (rule : Rule) (text : Text) (own : LineEnding)
    (later : Text) :
    rule.siteCount (text ++ (own.text ++ later)) = rule.siteCount text + rule.siteCount later := by
  cases own with
  | newline => exact siteCount_append_newline text later
  | carriageReturnNewline =>
      have split : text ++ (LineEnding.carriageReturnNewline.text ++ later) =
          (text ++ ['\r']) ++ '\n' :: later := by
        simp [LineEnding.text]
      have ended := (rule.uncrossed_carriageReturn text).siteCount_append rfl
      rw [split, siteCount_append_newline, ended, siteCount_nil, Nat.add_zero]

/-- The sites in complete lines and in what follows them are counted apart. -/
theorem siteCount_append {lines : Text} (rule : Rule) (complete : CompleteLines lines)
    (later : Text) :
    rule.siteCount (lines ++ later) = rule.siteCount lines + rule.siteCount later := by
  rcases complete.eq_nil_or_concat with rfl | ⟨front, rfl⟩
  · rw [List.nil_append, siteCount_nil, Nat.zero_add]
  · rw [List.append_assoc, List.singleton_append, siteCount_append_newline,
      siteCount_append_newline, siteCount_nil, Nat.add_zero]

end Rule

end DialogCodemod
