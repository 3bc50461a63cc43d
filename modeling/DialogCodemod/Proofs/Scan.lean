import DialogCodemod.Proofs.Grammar
import DialogCodemod.Rule.Replacement

/-!
# Scanning a text for sites

A rule scans a text from left to right. This module says exactly when a site is found and what the
scan does with the text around it. The main statement is about a boundary character that no
statement crosses: the text behind it is scanned as if it began there. A line break is such a
character, and so a text is rewritten line by line.
-/

namespace DialogCodemod

/-- A statement starts with a letter. -/
theorem Statement.exists_source_eq_cons (statement : Statement) :
    ∃ first later, statement.source = first :: later ∧ isBoundary first = false := by
  cases statement with
  | alert written =>
      obtain ⟨viaWindow, lead, message, trail⟩ := written
      cases viaWindow
      · exact ⟨'a', _, rfl, rfl⟩
      · exact ⟨'w', _, rfl, rfl⟩
  | guard written =>
      obtain ⟨elseGap, ifGap, openGap, notGap, call, callGap, closeGap, returnGap⟩ := written
      cases elseGap
      · exact ⟨'i', _, rfl, rfl⟩
      · exact ⟨'e', _, rfl, rfl⟩
  | binding written =>
      obtain ⟨keyword, keywordGap, nameStart, nameRest, nameGap, equalsGap, call⟩ := written
      cases keyword
      · exact ⟨'c', _, rfl, rfl⟩
      · exact ⟨'l', _, rfl, rfl⟩
      · exact ⟨'v', _, rfl, rfl⟩

/-- After such a text a statement may begin: it is empty or ends with a boundary character. -/
def EndsAtBoundary (text : Text) : Prop :=
  ∀ last ∈ text.getLast?, isBoundary last = true

/-- White space, line breaks included. -/
def White (gap : Text) : Prop :=
  ∀ char ∈ gap, isSpace char = true

instance (gap : Text) : Decidable (White gap) :=
  List.decidableBAll (isSpace · = true) gap

/-- A line begins behind such a text: it is empty or ends with a newline. -/
def CompleteLines (text : Text) : Prop :=
  ∀ last ∈ text.getLast?, last = '\n'

@[simp] theorem completeLines_nil : CompleteLines [] := by
  simp [CompleteLines]

theorem completeLines_append_ending (text : Text) (ending : LineEnding) :
    CompleteLines (text ++ ending.text) := by
  cases ending <;> simp [CompleteLines, LineEnding.text]

theorem EndsAtBoundary.append {first later : Text} (ends : EndsAtBoundary first)
    (endsLater : EndsAtBoundary later) : EndsAtBoundary (first ++ later) := by
  intro last member
  rw [List.getLast?_append] at member
  rcases Option.or_eq_some_iff.1 member with inLater | ⟨_, inFirst⟩
  · exact endsLater last inLater
  · exact ends last inFirst

theorem EndsAtBoundary.of_append {first later : Text} (ends : EndsAtBoundary (first ++ later)) :
    EndsAtBoundary later := by
  intro last member
  apply ends last
  rw [List.getLast?_append, Option.mem_def.1 member]
  rfl

theorem CompleteLines.endsAtBoundary {text : Text} (complete : CompleteLines text) :
    EndsAtBoundary text := by
  intro last member
  rw [complete last member]
  rfl

/-- A text of complete lines is empty, or a last line ends it. -/
theorem CompleteLines.eq_nil_or_concat {text : Text} (complete : CompleteLines text) :
    text = [] ∨ ∃ front, text = front ++ ['\n'] := by
  rcases List.eq_nil_or_concat text with rfl | ⟨front, last, rfl⟩
  · exact .inl rfl
  · rw [complete last (by simp), List.concat_eq_append]
    exact .inr ⟨front, rfl⟩

/-- A piece without the separator that starts a text ends before the separator. -/
theorem exists_append_of_notMem {separator : Char} {piece first later rest : Text}
    (absent : separator ∉ piece) (split : first ++ separator :: later = piece ++ rest) :
    ∃ remaining, first = piece ++ remaining ∧ rest = remaining ++ separator :: later := by
  rcases List.append_eq_append_iff.1 split with ⟨excess, rfl, tail⟩ | ⟨remaining, rfl, rfl⟩
  · cases excess with
    | nil => exact ⟨[], by simp, tail.symm⟩
    | cons char excess =>
        rw [List.cons_append, List.cons.injEq] at tail
        simp [tail.1] at absent
  · exact ⟨remaining, rfl, rfl⟩

/-- A piece without the separator that ends a text begins behind the separator. -/
theorem exists_append_of_notMem_end {separator : Char} {piece first later front : Text}
    (absent : separator ∉ piece) (split : first ++ separator :: later = front ++ piece) :
    ∃ remaining, front = first ++ separator :: remaining ∧ later = remaining ++ piece := by
  rcases List.append_eq_append_iff.1 split with ⟨inside, rfl, tail⟩ | ⟨excess, rfl, rfl⟩
  · cases inside with
    | nil =>
        rw [List.nil_append] at tail
        simp [← tail] at absent
    | cons char remaining =>
        rw [List.cons_append, List.cons.injEq] at tail
        obtain ⟨rfl, rfl⟩ := tail
        exact ⟨remaining, rfl, rfl⟩
  · simp at absent

/-- The indentation of a position is blank. -/
theorem Text.blank_indentation (before : Text) : Blank (indentation before) := by
  intro char member
  exact List.all_eq_true.1 List.all_takeWhile char member

/-- Where a site may stand: without a boundary only at the start of the text. -/
def Site.Placed (atStart : Bool) (site : Site) : Prop :=
  match site.boundary with
  | none => atStart = true
  | some char => isBoundary char = true

/-- What has been passed up to the statement of a site ends at a boundary. -/
theorem Site.Placed.endsAtBoundary {atStart : Bool} {site : Site} (placed : site.Placed atStart)
    {passed : Text} (start : atStart = true → passed = []) :
    EndsAtBoundary (passed ++ site.boundary.toList) := by
  obtain ⟨boundary, statement⟩ := site
  cases boundary with
  | none =>
      rw [start placed]
      simp [EndsAtBoundary]
  | some char => simpa [EndsAtBoundary, Placed] using placed

namespace Rule

variable {rule : Rule} {notifier : Notifier} {ending : LineEnding}

/-- No statement starts with a boundary character. -/
theorem run_read_cons_of_isBoundary {char : Char} (boundary : isBoundary char = true)
    (text : Text) : rule.read.run (char :: text) = none := by
  cases found : rule.read.run (char :: text) with
  | none => rfl
  | some result =>
      obtain ⟨first, later, source, notBoundary⟩ := result.1.exists_source_eq_cons
      have split := eq_append_of_run_read found
      rw [source, List.cons_append, List.cons.injEq] at split
      rw [split.1, notBoundary] at boundary
      cases boundary

theorem siteAtStart?_eq_some_iff {text rest : Text} {site : Site} :
    rule.siteAtStart? text = some (site, rest) ↔
      site.boundary = none ∧ text = site.statement.source ++ rest ∧
        rule.Admits site.statement := by
  obtain ⟨boundary, statement⟩ := site
  simp only [siteAtStart?, Option.map_eq_some_iff, Prod.exists, Prod.mk.injEq, Site.mk.injEq,
    run_read_eq_some_iff]
  constructor
  · rintro ⟨_, _, ⟨split, admitted⟩, ⟨rfl, rfl⟩, rfl⟩
    exact ⟨rfl, split, admitted⟩
  · rintro ⟨rfl, split, admitted⟩
    exact ⟨statement, rest, ⟨split, admitted⟩, ⟨rfl, rfl⟩, rfl⟩

theorem siteAtBoundary?_eq_some_iff {text rest : Text} {site : Site} :
    rule.siteAtBoundary? text = some (site, rest) ↔
      ∃ char, site.boundary = some char ∧ isBoundary char = true ∧
        text = char :: (site.statement.source ++ rest) ∧ rule.Admits site.statement := by
  obtain ⟨boundary, statement⟩ := site
  cases text with
  | nil => simp [siteAtBoundary?]
  | cons first later =>
      by_cases starts : isBoundary first = true
      · simp only [siteAtBoundary?, starts, if_true, Option.map_eq_some_iff, Prod.exists,
          Prod.mk.injEq, Site.mk.injEq, run_read_eq_some_iff, List.cons.injEq]
        constructor
        · rintro ⟨_, _, ⟨split, admitted⟩, ⟨rfl, rfl⟩, rfl⟩
          exact ⟨first, rfl, starts, ⟨rfl, split⟩, admitted⟩
        · rintro ⟨_, rfl, _, ⟨rfl, split⟩, admitted⟩
          exact ⟨statement, rest, ⟨split, admitted⟩, ⟨rfl, rfl⟩, rfl⟩
      · simp only [siteAtBoundary?, starts, List.cons.injEq]
        constructor
        · intro impossible
          cases impossible
        · rintro ⟨_, _, starts', ⟨rfl, _⟩, _⟩
          exact absurd starts' starts

/-- A site is found where a statement of the rule's grammar stands after a boundary, or at the
start of the text. -/
theorem site?_eq_some_iff {atStart : Bool} {text rest : Text} {site : Site} :
    rule.site? atStart text = some (site, rest) ↔
      text = site.source ++ rest ∧ site.Placed atStart ∧ rule.Admits site.statement := by
  obtain ⟨boundary, statement⟩ := site
  simp only [site?, Option.or_eq_some_iff, siteAtBoundary?_eq_some_iff]
  cases boundary with
  | none =>
      cases atStart with
      | false => simp [Site.Placed]
      | true => simp [Site.Placed, Site.source, siteAtStart?_eq_some_iff]
  | some char =>
      -- A text that begins with a boundary has no statement at its start.
      have notAtStart (boundary : isBoundary char = true) (later : Text) :
          (if atStart then rule.siteAtStart? (char :: later) else none) = none := by
        simp [siteAtStart?, run_read_cons_of_isBoundary boundary]
      constructor
      · rintro (start | ⟨_, _, same, boundary, rfl, admitted⟩)
        · cases atStart with
          | false => cases start
          | true => cases (siteAtStart?_eq_some_iff.1 start).1
        · cases same
          exact ⟨rfl, boundary, admitted⟩
      · rintro ⟨rfl, boundary, admitted⟩
        exact .inr ⟨notAtStart boundary _, char, rfl, boundary, rfl, admitted⟩

/-! ## The steps of a scan -/

theorem segmentsFrom_of_site {atStart : Bool} {text rest : Text} {site : Site}
    (found : rule.site? atStart text = some (site, rest)) :
    rule.segmentsFrom atStart text = .site site :: rule.segmentsFrom false rest := by
  rw [segmentsFrom]
  split
  next later rest' found' =>
    rw [found] at found'
    cases found'
    rfl
  next missing =>
    rw [found] at missing
    cases missing

theorem segmentsFrom_cons_of_no_site {atStart : Bool} {char : Char} {rest : Text}
    (missing : rule.site? atStart (char :: rest) = none) :
    rule.segmentsFrom atStart (char :: rest) = .plain char :: rule.segmentsFrom false rest := by
  rw [segmentsFrom]
  split
  next found =>
    rw [found] at missing
    cases missing
  next => rfl

@[simp] theorem segmentsFrom_nil (atStart : Bool) : rule.segmentsFrom atStart [] = [] := by
  rw [segmentsFrom]
  split
  next found => exact absurd (length_lt_of_site?_eq_some found) (Nat.not_lt_zero _)
  next => rfl

/-- Behind its first segments, a scan goes on like a scan of the rest. -/
theorem segmentsFrom_of_append {atStart : Bool} {text : Text} {first later : List Segment}
    (cut : rule.segmentsFrom atStart text = first ++ later) :
    rule.segmentsFrom (atStart && first.isEmpty) (later.flatMap Segment.source) = later := by
  induction first generalizing atStart text with
  | nil =>
      rw [List.nil_append] at cut
      rw [← cut, flatMap_source_segmentsFrom]
      simp
  | cons segment first ih =>
      cases found : rule.site? atStart text with
      | some result =>
          rw [segmentsFrom_of_site found, List.cons_append, List.cons.injEq] at cut
          simpa using ih cut.2
      | none =>
          cases text with
          | nil => simp at cut
          | cons char rest =>
              rw [segmentsFrom_cons_of_no_site found, List.cons_append, List.cons.injEq] at cut
              simpa using ih cut.2

/-- A scan takes a character for plain only where no site begins. -/
theorem site?_eq_none_of_plain {atStart : Bool} {text : Text} {char : Char} {later : List Segment}
    (cut : rule.segmentsFrom atStart text = .plain char :: later) :
    rule.site? atStart text = none := by
  cases found : rule.site? atStart text with
  | none => rfl
  | some result =>
      rw [segmentsFrom_of_site found] at cut
      cases cut

/-- The sites of a scan are placed like sites and hold statements of the rule's grammar. -/
theorem placed_and_admits_of_segmentsFrom {atStart : Bool} {text : Text}
    {earlier later : List Segment} {site : Site}
    (cut : rule.segmentsFrom atStart text = earlier ++ .site site :: later) :
    site.Placed (atStart && earlier.isEmpty) ∧ rule.Admits site.statement := by
  have here := segmentsFrom_of_append cut
  cases found : rule.site? (atStart && earlier.isEmpty)
      ((.site site :: later).flatMap Segment.source) with
  | some result =>
      rw [segmentsFrom_of_site found, List.cons.injEq, Segment.site.injEq] at here
      rw [← here.1]
      exact (site?_eq_some_iff.1 found).2
  | none =>
      cases rest : (Segment.site site :: later).flatMap Segment.source with
      | nil =>
          rw [rest, segmentsFrom_nil] at here
          cases here
      | cons char rest' =>
          rw [rest] at here found
          rw [segmentsFrom_cons_of_no_site found] at here
          cases here

/-- The start of the text matters only to a statement that stands there. -/
theorem segmentsFrom_true_of_run_read_eq_none {text : Text} (missing : rule.read.run text = none) :
    rule.segmentsFrom true text = rule.segmentsFrom false text := by
  have same : rule.site? true text = rule.site? false text := by
    simp [site?, siteAtStart?, missing]
  cases found : rule.site? false text with
  | some result =>
      rw [segmentsFrom_of_site found, segmentsFrom_of_site (same.trans found)]
  | none =>
      cases text with
      | nil => simp
      | cons char rest =>
          rw [segmentsFrom_cons_of_no_site found, segmentsFrom_cons_of_no_site (same.trans found)]

/-- The text before the segments, given in reverse, grows by their sources. -/
theorem replaceSites_append (before : Text) (first later : List Segment) :
    replaceSites notifier ending before (first ++ later) =
      replaceSites notifier ending before first ++
        replaceSites notifier ending ((first.flatMap Segment.source).reverse ++ before) later := by
  induction first generalizing before with
  | nil => rfl
  | cons segment first ih =>
      cases segment with
      | plain char => simp [replaceSites, ih, Segment.source]
      | site site =>
          obtain ⟨boundary, statement⟩ := site
          cases boundary <;> simp [replaceSites, ih, Segment.source, Site.source]

/-- What holds of every character that is kept and of every replacement holds of the rewritten text,
if it passes from two texts to both in a row. -/
theorem replaceSites_of_parts {holds : Text → Prop} (empty : holds [])
    (append : ∀ {first later}, holds first → holds later → holds (first ++ later))
    (before : Text) {segments : List Segment}
    (kept : ∀ char ∈ segments.flatMap Segment.source, holds [char])
    (replaced : ∀ {statement : Statement} {layout : Layout},
      statement.source ⊆ segments.flatMap Segment.source → Blank layout.indent →
      layout.ending = ending → holds (statement.replacement notifier layout)) :
    holds (replaceSites notifier ending before segments) := by
  induction segments generalizing before with
  | nil => exact empty
  | cons segment later ih =>
      rw [List.flatMap_cons] at kept replaced
      have rest (passed : Text) : holds (replaceSites notifier ending passed later) :=
        ih passed (fun char member => kept char (List.mem_append_right _ member))
          (fun inLater => replaced (List.subset_append_of_subset_right _ inLater))
      cases segment with
      | plain char => exact append (kept char List.mem_cons_self) (rest (char :: before))
      | site site =>
          obtain ⟨boundary, statement⟩ := site
          have opened : holds boundary.toList := by
            cases boundary with
            | none => exact empty
            | some char => exact kept char List.mem_cons_self
          have inSite : statement.source ⊆
              (Segment.site ⟨boundary, statement⟩).source ++ later.flatMap Segment.source :=
            List.subset_append_of_subset_left _ (List.subset_append_right boundary.toList _)
          exact append (append opened (replaced inSite (Text.blank_indentation _) rfl)) (rest _)

/-- Text on earlier lines does not change the indentation. -/
theorem indentation_append_newline (near far : Text) :
    Text.indentation (near ++ '\n' :: far) = Text.indentation near := by
  have sameLine : (near ++ '\n' :: far).takeWhile (· != '\n') = near.takeWhile (· != '\n') := by
    induction near with
    | nil => simp
    | cons char near ih => simp [List.takeWhile_cons, ih]
  rw [Text.indentation, Text.indentation, sameLine]

/-- Replacements depend on the text before them up to the start of the line. -/
theorem replaceSites_append_newline (near far : Text) (segments : List Segment) :
    replaceSites notifier ending (near ++ '\n' :: far) segments =
      replaceSites notifier ending near segments := by
  induction segments generalizing near with
  | nil => rfl
  | cons segment later ih =>
      cases segment with
      | plain char => simp only [replaceSites, ← List.cons_append, ih]
      | site site =>
          simp only [replaceSites, ← List.append_assoc, ih, indentation_append_newline]

/-- A boundary character does for the text after it what the start does for a whole text: the same
statement is found, or the character is plain. -/
theorem segmentsFrom_false_cons {char : Char} (boundary : isBoundary char = true) (text : Text) :
    rule.segmentsFrom false (char :: text) = .plain char :: rule.segmentsFrom true text ∨
      ∃ statement later,
        rule.segmentsFrom true text = .site ⟨none, statement⟩ :: later ∧
        rule.segmentsFrom false (char :: text) = .site ⟨some char, statement⟩ :: later := by
  cases found : rule.read.run text with
  | none =>
      have missing : rule.site? false (char :: text) = none := by
        simp [site?, siteAtBoundary?, boundary, found]
      left
      rw [segmentsFrom_cons_of_no_site missing, segmentsFrom_true_of_run_read_eq_none found]
  | some result =>
      have atStart : rule.site? true text = some (⟨none, result.1⟩, result.2) := by
        simp [site?, siteAtStart?, found]
      have atBoundary : rule.site? false (char :: text) = some (⟨some char, result.1⟩, result.2) := by
        simp [site?, siteAtBoundary?, boundary, found]
      right
      exact ⟨_, _, segmentsFrom_of_site atStart, segmentsFrom_of_site atBoundary⟩

theorem replaceSites_segmentsFrom_cons {char : Char} (boundary : isBoundary char = true)
    (before text : Text) :
    replaceSites notifier ending before (rule.segmentsFrom false (char :: text)) =
      char :: replaceSites notifier ending (char :: before) (rule.segmentsFrom true text) := by
  rcases segmentsFrom_false_cons boundary text with plain | ⟨statement, later, start, found⟩
  · rw [plain]
    rfl
  · rw [start, found]
    rfl

theorem countP_isSite_segmentsFrom_cons {char : Char} (boundary : isBoundary char = true)
    (text : Text) :
    (rule.segmentsFrom false (char :: text)).countP Segment.isSite =
      (rule.segmentsFrom true text).countP Segment.isSite := by
  rcases segmentsFrom_false_cons boundary text with plain | ⟨statement, later, start, found⟩
  · rw [plain]
    rfl
  · rw [start, found]
    rfl

/-! ## Separators -/

/-- No statement of the rule that begins before the separator goes on behind it. -/
def Uncrossed (rule : Rule) (first : Text) (separator : Char) (later : Text) : Prop :=
  ∀ before start statement rest, first = before ++ start → EndsAtBoundary before →
    rule.Admits statement → start ++ separator :: later = statement.source ++ rest →
    ∃ remaining, start = statement.source ++ remaining

/-- A site that begins before an uncrossed separator ends before it. Of the text before the
separator, a part may have been passed already. -/
theorem Uncrossed.exists_append_of_site {atStart : Bool} {passed text later rest : Text}
    {separator : Char} {site : Site}
    (uncrossed : rule.Uncrossed (passed ++ text) separator later)
    (start : atStart = true → passed = []) (nonempty : text ≠ [])
    (found : rule.site? atStart (text ++ separator :: later) = some (site, rest)) :
    ∃ remaining, rule.site? atStart text = some (site, remaining) := by
  obtain ⟨split, placed, admitted⟩ := site?_eq_some_iff.1 found
  obtain ⟨boundary, statement⟩ := site
  cases boundary with
  | none =>
      have unpassed : passed = [] := start placed
      obtain ⟨remaining, inText⟩ :=
        uncrossed passed text statement rest rfl (by simp [unpassed, EndsAtBoundary]) admitted split
      exact ⟨remaining, site?_eq_some_iff.2 ⟨inText, placed, admitted⟩⟩
  | some first =>
      cases text with
      | nil => exact absurd rfl nonempty
      | cons char text =>
          simp only [Site.source, Option.toList_some, List.cons_append, List.nil_append,
            List.cons.injEq] at split
          obtain ⟨rfl, split⟩ := split
          have boundary : isBoundary char = true := placed
          obtain ⟨remaining, inText⟩ :=
            uncrossed (passed ++ [char]) text statement rest (by simp)
              (by simp [EndsAtBoundary, boundary]) admitted split
          refine ⟨remaining, site?_eq_some_iff.2 ⟨?_, placed, admitted⟩⟩
          simp [Site.source, inText]

/-- A scan goes on behind an uncrossed separator as if it had only begun there. -/
theorem Uncrossed.segmentsFrom_append {atStart : Bool} {passed text later : Text}
    {separator : Char} (uncrossed : rule.Uncrossed (passed ++ text) separator later)
    (start : atStart = true → passed = []) (boundary : isBoundary separator = true) :
    rule.segmentsFrom atStart (text ++ separator :: later) =
      rule.segmentsFrom atStart text ++ rule.segmentsFrom false (separator :: later) := by
  fun_induction segmentsFrom rule atStart text generalizing passed with
  | case1 atStart text site rest found ih =>
      have grammatical := site?_eq_some_iff.1 found
      have extended : rule.site? atStart (text ++ separator :: later) =
          some (site, rest ++ separator :: later) := by
        rw [site?_eq_some_iff, grammatical.1, List.append_assoc]
        exact ⟨rfl, grammatical.2⟩
      rw [grammatical.1, ← List.append_assoc] at uncrossed
      rw [segmentsFrom_of_site extended, ih uncrossed (by simp)]
      rfl
  | case2 atStart found =>
      cases atStart with
      | false => rfl
      | true =>
          exact segmentsFrom_true_of_run_read_eq_none (run_read_cons_of_isBoundary boundary later)
  | case3 atStart char rest missing ih =>
      have extended : rule.site? atStart (char :: rest ++ separator :: later) = none := by
        cases found : rule.site? atStart (char :: rest ++ separator :: later) with
        | none => rfl
        | some result =>
            obtain ⟨remaining, inText⟩ :=
              uncrossed.exists_append_of_site start (List.cons_ne_nil char rest) found
            rw [missing] at inText
            cases inText
      rw [List.append_cons] at uncrossed
      rw [List.cons_append] at extended ⊢
      rw [segmentsFrom_cons_of_no_site extended, ih uncrossed (by simp)]
      rfl

theorem Uncrossed.siteCount_append {first later : Text} {separator : Char}
    (uncrossed : rule.Uncrossed first separator later) (boundary : isBoundary separator = true) :
    rule.siteCount (first ++ separator :: later) = rule.siteCount first + rule.siteCount later := by
  have whole : rule.Uncrossed ([] ++ first) separator later := uncrossed
  rw [siteCount, segments, whole.segmentsFrom_append (fun _ => rfl) boundary, List.countP_append,
    countP_isSite_segmentsFrom_cons boundary]
  rfl

/-! ## Lines -/

/-- A statement stands on one line. -/
theorem newline_notMem_source {statement : Statement} (admitted : rule.Admits statement) :
    '\n' ∉ statement.source := by
  have message : '\n' ∉ statement.message.body := by
    intro member
    simpa [Literal.allows] using admitted.wellFormed.message '\n' member
  exact admitted.wellFormed.notMem_source (.inl rfl) message

theorem uncrossed_newline (first later : Text) : rule.Uncrossed first '\n' later := by
  intro before start statement rest _ _ admitted split
  obtain ⟨remaining, inLine, _⟩ := exists_append_of_notMem (newline_notMem_source admitted) split
  exact ⟨remaining, inLine⟩

theorem segmentsFrom_append_newline (atStart : Bool) (line later : Text) :
    rule.segmentsFrom atStart (line ++ '\n' :: later) =
      rule.segmentsFrom atStart line ++ rule.segmentsFrom false ('\n' :: later) := by
  have uncrossed : rule.Uncrossed ([] ++ line) '\n' later := uncrossed_newline line later
  exact uncrossed.segmentsFrom_append (fun _ => rfl) rfl

/-- Replace all sites of the rule in a text, with the given line ending for new lines. -/
def rewrite (rule : Rule) (notifier : Notifier) (ending : LineEnding) (text : Text) : Text :=
  replaceSites notifier ending [] (rule.segments text)

theorem apply_eq_rewrite (text : Text) :
    rule.apply notifier text = rule.rewrite notifier (LineEnding.ofText text) text := rfl

/-- A text is rewritten line by line. -/
theorem rewrite_append_newline (line later : Text) :
    rule.rewrite notifier ending (line ++ '\n' :: later) =
      rule.rewrite notifier ending line ++ '\n' :: rule.rewrite notifier ending later := by
  have sources := rule.flatMap_source_segmentsFrom true line
  rw [rewrite, segments, segmentsFrom_append_newline, replaceSites_append, sources,
    replaceSites_segmentsFrom_cons rfl]
  have forget := @replaceSites_append_newline notifier ending [] (line.reverse ++ [])
    (rule.segmentsFrom true later)
  rw [List.nil_append] at forget
  rw [forget]
  rfl

theorem siteCount_append_newline (line later : Text) :
    rule.siteCount (line ++ '\n' :: later) = rule.siteCount line + rule.siteCount later :=
  (uncrossed_newline line later).siteCount_append rfl

@[simp] theorem rewrite_nil : rule.rewrite notifier ending [] = [] := by
  rw [rewrite, segments, segmentsFrom_nil]
  rfl

/-- Complete lines are rewritten into complete lines, apart from the rest of the text. -/
theorem rewrite_append {lines : Text} (complete : CompleteLines lines) (later : Text) :
    rule.rewrite notifier ending (lines ++ later) =
        rule.rewrite notifier ending lines ++ rule.rewrite notifier ending later ∧
      CompleteLines (rule.rewrite notifier ending lines) := by
  rcases complete.eq_nil_or_concat with rfl | ⟨front, rfl⟩
  · simp
  · rw [List.append_assoc, List.cons_append, rewrite_append_newline, rewrite_append_newline]
    exact ⟨by simp, by simp [CompleteLines]⟩

/-! ## Texts without sites -/

theorem replaceSites_of_countP_eq_zero {before : Text} {segments : List Segment}
    (noSites : segments.countP Segment.isSite = 0) :
    replaceSites notifier ending before segments = segments.flatMap Segment.source := by
  induction segments generalizing before with
  | nil => rfl
  | cons segment later ih =>
      cases segment with
      | plain char =>
          rw [List.countP_cons_of_neg (by simp [Segment.isSite])] at noSites
          simp [replaceSites, Segment.source, ih noSites]
      | site site => simp [Segment.isSite] at noSites

/-- A text without sites stays as it is. -/
theorem rewrite_of_siteCount_eq_zero {text : Text} (noSites : rule.siteCount text = 0) :
    rule.rewrite notifier ending text = text := by
  rw [rewrite, replaceSites_of_countP_eq_zero noSites, flatMap_source_segments]

/-- Before an uncrossed separator, a text without sites stays as it is. -/
theorem Uncrossed.exists_rewrite_append {first later : Text} {separator : Char}
    (uncrossed : rule.Uncrossed first separator later) (boundary : isBoundary separator = true)
    (noSites : rule.siteCount first = 0) :
    ∃ rewritten, rule.rewrite notifier ending (first ++ separator :: later) =
      first ++ separator :: rewritten := by
  have whole : rule.Uncrossed ([] ++ first) separator later := uncrossed
  have sources := rule.flatMap_source_segmentsFrom true first
  rw [siteCount, segments] at noSites
  rw [rewrite, segments, whole.segmentsFrom_append (fun _ => rfl) boundary, replaceSites_append,
    replaceSites_of_countP_eq_zero noSites, sources, replaceSites_segmentsFrom_cons boundary]
  exact ⟨_, rfl⟩

/-- A scan that finds a site splits the text there: before the statement stands a boundary, or
nothing at the start of the text. -/
theorem exists_site_of_countP_pos {atStart : Bool} {text : Text}
    (found : 0 < (rule.segmentsFrom atStart text).countP Segment.isSite) :
    ∃ before statement after, text = before ++ statement.source ++ after ∧
      rule.Admits statement ∧ (before = [] → atStart = true) ∧ EndsAtBoundary before := by
  fun_induction segmentsFrom rule atStart text with
  | case1 atStart text site rest here ih =>
      obtain ⟨split, placed, admitted⟩ := site?_eq_some_iff.1 here
      obtain ⟨boundary, statement⟩ := site
      refine ⟨boundary.toList, statement, rest, split, admitted, ?_⟩
      cases boundary with
      | none => exact ⟨fun _ => placed, by simp [EndsAtBoundary]⟩
      | some char => exact ⟨by simp, by simpa [Site.Placed, EndsAtBoundary] using placed⟩
  | case2 => simp at found
  | case3 atStart char rest missing ih =>
      rw [List.countP_cons_of_neg (by simp [Segment.isSite])] at found
      obtain ⟨before, statement, after, rfl, admitted, nonempty, boundary⟩ := ih found
      cases before with
      | nil => cases nonempty rfl
      | cons first before =>
          exact ⟨char :: first :: before, statement, after, rfl, admitted, by simp, boundary⟩

end Rule

end DialogCodemod
