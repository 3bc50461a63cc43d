import DialogCodemod.Proofs.LeftmostSites
import DialogCodemod.Proofs.LineEndings
import DialogCodemod.Proofs.StatementOrigin

/-!
# Sites that lie apart

A rule passes over the sites that begin inside one it replaces: a statement whose boundary is the
last character of another, or one that stands in a message. Where no site of a rule begins inside
another, the rule replaces them all. Replacements keep sites apart and create none, so that the
rules together leave no site of such a text.
-/

namespace DialogCodemod

/-! ## Occurrences and sites -/

namespace Occurrence

variable {rule : Rule}

/-- The statement with the character before it. -/
def site (occurrence : Occurrence rule) : Site :=
  ⟨occurrence.before.getLast?, occurrence.statement⟩

theorem length_source_site (occurrence : Occurrence rule) :
    occurrence.start - 1 + occurrence.site.source.length = occurrence.finish := by
  rw [finish, start, site, Site.source]
  rcases List.eq_nil_or_concat occurrence.before with empty | ⟨front, last, split⟩
  · simp [empty]
  · simp [split]
    omega

theorem siteAt (occurrence : Occurrence rule) :
    rule.SiteAt occurrence.text (occurrence.start - 1) occurrence.site := by
  have ends := occurrence.ends
  rw [start, site, text]
  rcases List.eq_nil_or_concat occurrence.before with empty | ⟨front, last, split⟩
  · rw [empty]
    exact ⟨⟨occurrence.after, rfl⟩, rfl, occurrence.admitted⟩
  · rw [split, List.concat_eq_append] at ends ⊢
    refine ⟨⟨occurrence.after, ?_⟩, ?_, occurrence.admitted⟩
    · simp [Site.source]
    · simpa [Site.Placed, EndsAtBoundary] using ends

theorem start_lt_finish (occurrence : Occurrence rule) : occurrence.start < occurrence.finish :=
  Nat.lt_of_le_of_lt (Nat.le_add_right _ _) occurrence.call_lt_finish

theorem finish_le_length (occurrence : Occurrence rule) :
    occurrence.finish ≤ occurrence.text.length := by
  rw [finish, start, text]
  simp only [List.length_append]
  omega

/-- A site begins with the character before its statement, and the site of a statement at the very
start with the statement. Still, sites are in the order of their statements. -/
theorem start_le_of_position_le {first later : Occurrence rule} (same : first.text = later.text)
    (order : first.start - 1 ≤ later.start - 1) : first.start ≤ later.start := by
  by_cases atStart : later.start = 0
  · have found := first.siteAt
    have found' := later.siteAt
    rw [same, show first.start - 1 = later.start - 1 by omega] at found
    have sites := congrArg Site.boundary (found.unique found')
    rw [site, site, List.eq_nil_of_length_eq_zero atStart] at sites
    rw [start, List.getLast?_eq_none_iff.1 sites]
    exact Nat.zero_le _
  · omega

theorem call_eq_of_start_eq {first later : Occurrence rule} (same : first.text = later.text)
    (starts : first.start = later.start) : first.call = later.call := by
  have found := first.siteAt
  have found' := later.siteAt
  rw [same, starts] at found
  have statements : first.statement = later.statement :=
    congrArg Site.statement (found.unique found')
  rw [call, call, starts, statements]

end Occurrence

theorem Rule.SiteAt.exists_occurrence {rule : Rule} {text : Text} {position : Nat} {site : Site}
    (found : rule.SiteAt text position site) :
    ∃ occurrence : Occurrence rule, occurrence.text = text ∧ occurrence.start - 1 = position ∧
      occurrence.site = site := by
  obtain ⟨⟨after, split⟩, placed, admitted⟩ := found
  obtain ⟨boundary, statement⟩ := site
  have inside : position ≤ text.length := by
    by_contra outside
    rw [List.drop_eq_nil_of_le (by omega)] at split
    simp [Site.source, statement.source_ne_nil] at split
  have whole : text = text.take position ++ (boundary.toList ++ (statement.source ++ after)) := by
    rw [Site.source, List.append_assoc] at split
    rw [split, List.take_append_drop]
  cases boundary with
  | none =>
      obtain rfl : position = 0 := beq_iff_eq.1 placed
      exact ⟨⟨[], statement, after, by simp [EndsAtBoundary], admitted⟩, whole.symm, rfl, rfl⟩
  | some char =>
      refine ⟨⟨text.take position ++ [char], statement, after,
        endsAtBoundary_append_cons placed blank_nil _, admitted⟩, ?_, ?_, ?_⟩
      · rw [Occurrence.text, List.append_assoc]
        exact whole.symm
      · simp [Occurrence.start, inside]
      · simp [Occurrence.site]

/-! ## Texts with sites apart -/

namespace Rule

/-- No site of the rule begins inside another. A guard in an `else` branch is a site twice, from its
`else` on and from its `if` on, and only the second counts. -/
def Apart (rule : Rule) (text : Text) : Prop :=
  ∀ position site later next, rule.SiteAt text position site → rule.SiteAt text later next →
    site.statement.beginsWithElse = false → next.statement.beginsWithElse = false →
    position < later → position + site.source.length ≤ later

variable {rule : Rule} {text : Text}

theorem apart_iff : rule.Apart text ↔ ∀ first later : Occurrence rule,
    first.text = text → later.text = text →
    first.statement.beginsWithElse = false → later.statement.beginsWithElse = false →
    first.start < later.start → first.finish < later.start := by
  constructor
  · rintro apart first later rfl same plain plain' order
    have found := later.siteAt
    rw [same] at found
    have positions : first.start - 1 < later.start - 1 := by
      by_contra reversed
      have := Occurrence.start_le_of_position_le same (Nat.le_of_not_lt reversed)
      omega
    have behind := apart _ _ _ _ first.siteAt found plain plain' positions
    rw [first.length_source_site] at behind
    omega
  · intro apart position site later next found found' plain plain' order
    obtain ⟨first, inText, rfl, rfl⟩ := found.exists_occurrence
    obtain ⟨second, inText', rfl, rfl⟩ := found'.exists_occurrence
    have behind := apart first second inText inText' plain plain' (by omega)
    rw [first.length_source_site]
    omega

instance : Decidable (rule.Apart text) :=
  decidable_of_iff (∀ later < text.length, ∀ position < later,
      ∀ site ∈ (rule.site? (position == 0) (text.drop position)).map Prod.fst,
      ∀ next ∈ (rule.site? (later == 0) (text.drop later)).map Prod.fst,
        site.statement.beginsWithElse = false → next.statement.beginsWithElse = false →
        position + site.source.length ≤ later) (by
    constructor
    · intro checked position site later next found found' plain plain' order
      have inside : later < text.length := by
        obtain ⟨occurrence, rfl, rfl, _⟩ := found'.exists_occurrence
        have started := occurrence.start_lt_finish
        have bound := occurrence.finish_le_length
        omega
      exact checked later inside position order site (siteAt_iff.1 found) next
        (siteAt_iff.1 found') plain plain'
    · intro apart later _ position order site found next found' plain plain'
      exact apart position site later next (siteAt_iff.2 found) (siteAt_iff.2 found') plain plain'
        order)

example : ¬Rule.bareAlert.Apart "alert('alert(\"a\")');".toList := by
  decide +kernel

/-- No statement of the rule stands in the text. -/
def Clear (rule : Rule) (text : Text) : Prop :=
  ∀ occurrence : Occurrence rule, occurrence.text ≠ text

theorem Clear.siteCount_eq_zero (clear : rule.Clear text) : rule.siteCount text = 0 := by
  by_contra found
  obtain ⟨before, statement, after, split, admitted, _, ends⟩ :=
    exists_site_of_countP_pos (Nat.pos_of_ne_zero found)
  rw [List.append_assoc] at split
  exact clear ⟨before, statement, after, ends, admitted⟩ split.symm

end Rule

/-! ## Guards without their `else` -/

/-- A statement that begins with `else` is one without it as well, and has the same call. -/
theorem Occurrence.exists_plain {rule : Rule} (occurrence : Occurrence rule) :
    ∃ plain : Occurrence rule, plain.text = occurrence.text ∧
      plain.statement.beginsWithElse = false ∧ plain.call = occurrence.call ∧
      plain.finish = occurrence.finish ∧
      ∃ word, plain.before = occurrence.before ++ word ∧ '(' ∉ word := by
  obtain ⟨before, statement, after, ends, admitted⟩ := occurrence
  cases statement with
  | alert _ | binding _ => exact ⟨_, rfl, rfl, rfl, rfl, [], by simp⟩
  | guard written =>
      cases found : written.elseGap with
      | none => exact ⟨_, rfl, by simp [Statement.beginsWithElse, found], rfl, rfl, [], by simp⟩
      | some gap =>
          cases rule with
          | bareAlert | windowAlert | confirmAssignment => exact admitted.elim
          | confirmGuard =>
              have wellFormed : written.WellFormed := admitted
              have ⟨nonempty, blank⟩ := wellFormed.elseGap gap found
              have boundary : EndsAtBoundary (before ++ ("else".toList ++ gap)) := by
                obtain ⟨first, more, rfl⟩ := List.exists_cons_of_ne_nil nonempty
                rw [← List.append_assoc]
                rw [blank_cons] at blank
                exact endsAtBoundary_append_cons (isBoundary_of_isBlank blank.1) blank.2 _
              refine ⟨⟨before ++ ("else".toList ++ gap), .guard { written with elseGap := none },
                after, boundary, { wellFormed with elseGap := by simp }⟩, ?_, rfl, ?_, ?_,
                "else".toList ++ gap, rfl, ?_⟩
              · simp [text, Statement.source, Guard.source, found, Guard.elseSource]
              · simp [call, start, Statement.front, found, Guard.elseSource]
                omega
              · simp [finish, start, Statement.source, Guard.source, found, Guard.elseSource]
                omega
              · rw [List.mem_append, not_or]
                refine ⟨by decide, ?_⟩
                intro member
                cases blank _ member

/-- A statement has a parenthesis, and cannot be part of a word without one. -/
theorem Occurrence.lt_finish_of_notMem {rule : Rule} {occurrence : Occurrence rule}
    {before word rest : Text} (whole : occurrence.text = before ++ (word ++ rest))
    (absent : '(' ∉ word) (start : before.length ≤ occurrence.start) :
    (before ++ word).length < occurrence.finish := by
  by_contra inside
  have parenthesis : '(' ∈ occurrence.statement.source := by
    have opening : '(' ∈ rule.dialog.opening := by
      cases rule <;> decide
    simp [occurrence.admitted.source_around_message, Statement.beforeMessage, opening]
  rw [Occurrence.text, ← List.append_assoc, ← List.append_assoc] at whole
  obtain ⟨remaining, ended⟩ := List.prefix_of_prefix_length_le ⟨occurrence.after, whole⟩
    ⟨rest, rfl⟩ (by simpa [Occurrence.finish, Occurrence.start] using inside)
  rw [List.append_assoc] at ended
  obtain ⟨gap, begun⟩ := List.prefix_of_prefix_length_le ⟨word, rfl⟩ ⟨_, ended⟩ start
  rw [← begun, List.append_assoc, List.append_right_inj] at ended
  exact absent (by simp [← ended, parenthesis])

namespace Rule

variable {rule other : Rule} {text kept old new later : Text}

theorem clear_of_plain (absent : ∀ occurrence : Occurrence rule, occurrence.text = text →
    occurrence.statement.beginsWithElse = true) : rule.Clear text := by
  intro occurrence found
  obtain ⟨plain, same, without, _⟩ := occurrence.exists_plain
  rw [absent plain (same.trans found)] at without
  cases without

/-! ## One replacement -/

/-- An exchange keeps the order of positions. Statements that it separates have the new stretch
between them. -/
theorem Traceable.apart (traceable : rule.Traceable kept old new later) (nonempty : new ≠ [])
    (apart : rule.Apart (kept ++ (old ++ later))) : rule.Apart (kept ++ (new ++ later)) := by
  have width := List.length_pos_iff.2 nonempty
  rw [apart_iff] at apart ⊢
  intro first second inFirst inSecond plain plain' order
  obtain ⟨origin, inOrigin, stems⟩ := traceable first inFirst
  obtain ⟨origin', inOrigin', stems'⟩ := traceable second inSecond
  have starts := stems.start
  have starts' := stems'.start
  have lasts := stems.last
  have called := origin.call_lt_finish
  have called' := first.call_lt_finish
  rw [Shifted] at starts starts' lasts
  have behind := apart origin origin' inOrigin inOrigin' (stems.beginsWithElse.trans plain)
    (stems'.beginsWithElse.trans plain') (by omega)
  omega

theorem Traceable.clear (traceable : rule.Traceable kept old new later)
    (clear : rule.Clear (kept ++ (old ++ later))) : rule.Clear (kept ++ (new ++ later)) := by
  intro occurrence found
  obtain ⟨origin, inOrigin, _⟩ := traceable occurrence found
  exact clear origin inOrigin

/-- A replacement keeps what is kept by the exchange of stretches. -/
theorem Admits.holds_replaced {statement : Statement} (admitted : rule.Admits statement)
    {holds : Text → Prop}
    (exchange : ∀ {kept old new later}, other.Traceable kept old new later → new ≠ [] →
      holds (kept ++ (old ++ later)) → holds (kept ++ (new ++ later)))
    {layout : Layout} (blank : Blank layout.indent) {before after : Text}
    (ends : EndsAtBoundary before) (start : holds (before ++ (statement.source ++ after))) :
    holds (before ++ (statement.replacement {} layout ++ after)) := by
  obtain ⟨lead, tail, split, some_lead, some_tail, traceable⟩ :=
    admitted.exists_traceable blank ends after
  rw [admitted.source_around_message] at start
  simp only [List.append_assoc] at start
  have exchanged := exchange (traceable other).1 some_lead start
  have regrouped (rest : Text) : before ++ (lead ++ (statement.message.source ++ rest)) =
      (before ++ (lead ++ statement.message.source)) ++ rest := by
    simp only [List.append_assoc]
  rw [regrouped] at exchanged
  rw [split, List.append_assoc, List.append_assoc, regrouped]
  exact exchange (traceable other).2 some_tail exchanged

/-- A rewrite keeps what is kept by the exchange of stretches. -/
theorem holds_append_replaceSites (rule other : Rule) {holds : Text → Prop}
    (exchange : ∀ {kept old new later}, other.Traceable kept old new later → new ≠ [] →
      holds (kept ++ (old ++ later)) → holds (kept ++ (new ++ later)))
    (ending : LineEnding) (atStart : Bool) (rest before passed : Text)
    (start : atStart = true → passed = []) (whole : holds (passed ++ rest)) :
    holds (passed ++ replaceSites {} ending before (rule.segmentsFrom atStart rest)) := by
  fun_induction segmentsFrom rule atStart rest generalizing before passed with
  | case1 atStart rest site after found ih =>
      obtain ⟨split, placed, admitted⟩ := site?_eq_some_iff.1 found
      have layout : Blank (Layout.mk (Text.indentation (site.boundary.toList ++ before))
          ending).indent := Text.blank_indentation _
      rw [split, Site.source, List.append_assoc, ← List.append_assoc] at whole
      have replaced :=
        admitted.holds_replaced exchange layout (placed.endsAtBoundary start) whole
      rw [← List.append_assoc] at replaced
      have later := ih (site.statement.source.reverse ++ (site.boundary.toList ++ before)) _
        (by simp) replaced
      rw [replaceSites]
      simpa only [List.append_assoc] using later
  | case2 => exact whole
  | case3 atStart char rest missing ih =>
      rw [List.append_cons] at whole
      have later := ih (char :: before) (passed ++ [char]) (by simp) whole
      rw [replaceSites, List.append_cons]
      exact later

theorem Apart.rewrite (apart : other.Apart text) (rule : Rule) (ending : LineEnding) :
    other.Apart (rule.rewrite {} ending text) :=
  holds_append_replaceSites rule other Traceable.apart ending true text [] [] (fun _ => rfl) apart

theorem Clear.rewrite (clear : other.Clear text) (rule : Rule) (ending : LineEnding) :
    other.Clear (rule.rewrite {} ending text) :=
  holds_append_replaceSites rule other (fun traceable _ => traceable.clear) ending true text [] []
    (fun _ => rfl) clear

/-! ## All sites of a rule -/

theorem Admits.replacement_ne_nil {statement : Statement} (admitted : rule.Admits statement)
    {layout : Layout} (blank : Blank layout.indent) : statement.replacement {} layout ≠ [] := by
  obtain ⟨lead, tail, split, frames, _⟩ := admitted.exists_frames blank
  rw [split]
  exact List.append_ne_nil_of_left_ne_nil frames.lead_ne_nil _

/-- Every statement behind a replacement comes from another one than the replaced. If that one
begins behind the replaced statement, then this one does behind the replacement. -/
theorem exists_origin_of_replaced (here : Occurrence rule) {layout : Layout}
    (blank : Blank layout.indent) {occurrence : Occurrence other}
    (found : occurrence.text =
      here.before ++ (here.statement.replacement {} layout ++ here.after)) :
    ∃ origin : Occurrence other, origin.text = here.text ∧
      origin.statement.beginsWithElse = occurrence.statement.beginsWithElse ∧
      origin.call ≠ here.call ∧
      (here.finish < origin.start →
        (here.before ++ here.statement.replacement {} layout).length < occurrence.start) := by
  obtain ⟨lead, tail, split, _, _, traceable⟩ :=
    here.admitted.exists_traceable blank here.ends here.after
  have source := here.admitted.source_around_message
  have regrouped (rest : Text) :
      (here.before ++ (lead ++ here.statement.message.source)) ++ rest =
        here.before ++ (lead ++ (here.statement.message.source ++ rest)) := by
    simp only [List.append_assoc]
  rw [split, List.append_assoc, List.append_assoc, ← regrouped] at found
  obtain ⟨middle, inMiddle, behind⟩ := (traceable other).2 occurrence found
  rw [regrouped] at inMiddle
  obtain ⟨origin, inOrigin, before⟩ := (traceable other).1 middle inMiddle
  refine ⟨origin, ?_, before.beginsWithElse.trans behind.beginsWithElse, ?_, ?_⟩
  · rw [inOrigin, Occurrence.text, source]
    simp only [List.append_assoc]
  · -- The replaced call opens in the first of the two stretches, where no origin has its call.
    have call := before.call
    have opened := List.length_pos_iff.2 rule.dialog.opening_ne_nil
    rw [Shifted, Statement.beforeMessage] at call
    simp only [List.length_append] at call
    show origin.call ≠ here.before.length + here.statement.front.length
    omega
  · intro late
    have start := behind.start
    have start' := before.start
    rw [Shifted] at start start'
    rw [Occurrence.finish, Occurrence.start, source] at late
    rw [split]
    simp only [List.length_append] at start late ⊢
    omega

/-- Once the first statement is replaced, all others begin behind what took its place. -/
theorem Apart.lt_start_of_replaced {here : Occurrence rule} (apart : rule.Apart here.text)
    (first : ∀ occurrence : Occurrence rule, occurrence.text = here.text →
      occurrence.statement.beginsWithElse = false → here.start ≤ occurrence.start)
    {layout : Layout} (blank : Blank layout.indent) {occurrence : Occurrence rule}
    (found : occurrence.text =
      here.before ++ (here.statement.replacement {} layout ++ here.after))
    (unbranched : occurrence.statement.beginsWithElse = false) :
    (here.before ++ here.statement.replacement {} layout).length < occurrence.start := by
  obtain ⟨origin, inText, same, different, behind⟩ := exists_origin_of_replaced here blank found
  obtain ⟨plain, inText', unbranched', call, finish, word, before, absent⟩ := here.exists_plain
  rw [← same] at unbranched
  rw [apart_iff] at apart
  rcases Nat.lt_trichotomy origin.start plain.start with earlier | together | later
  · -- Between the `else` of a guard and its `if` there is no place for a statement.
    have early := apart origin plain inText inText' unbranched unbranched' earlier
    have whole : origin.text =
        here.before ++ (word ++ (plain.statement.source ++ plain.after)) := by
      rw [inText, ← inText', Occurrence.text, before, List.append_assoc]
    have late := Occurrence.lt_finish_of_notMem whole absent (first origin inText unbranched)
    rw [Occurrence.start, before] at early
    omega
  · have calls := Occurrence.call_eq_of_start_eq (inText.trans inText'.symm) together
    exact absurd (calls.trans call) different
  · apply behind
    rw [← finish]
    exact apart plain origin inText' inText unbranched' unbranched later

/-- If the sites lie apart, a scan leaves none. No statement begins in the text that has been
passed, with the replacements made in it. -/
theorem Apart.clear_append_replaceSites (ending : LineEnding) (atStart : Bool)
    (rest before passed : Text) (start : atStart = (passed.length == 0))
    (apart : rule.Apart (passed ++ rest))
    (fresh : ∀ occurrence : Occurrence rule, occurrence.text = passed ++ rest →
      occurrence.statement.beginsWithElse = false → passed.length ≤ occurrence.start - 1) :
    rule.Clear (passed ++ replaceSites {} ending before (rule.segmentsFrom atStart rest)) := by
  fun_induction segmentsFrom rule atStart rest generalizing before passed with
  | case1 atStart rest site after found ih =>
      obtain ⟨split, placed, admitted⟩ := site?_eq_some_iff.1 found
      have first : atStart = true → passed = [] := by
        rintro rfl
        simpa using start
      let here : Occurrence rule := ⟨passed ++ site.boundary.toList, site.statement, after,
        placed.endsAtBoundary first, admitted⟩
      have whole : passed ++ rest = here.text := by
        rw [split, Site.source, Occurrence.text]
        simp only [here, List.append_assoc]
      have position : here.start - 1 ≤ passed.length := by
        rw [Occurrence.start]
        cases boundary : site.boundary <;> simp [here, boundary]
      have least : ∀ occurrence : Occurrence rule, occurrence.text = here.text →
          occurrence.statement.beginsWithElse = false → here.start ≤ occurrence.start := by
        intro occurrence same plain
        have late := fresh occurrence (same.trans whole.symm) plain
        exact Occurrence.start_le_of_position_le same.symm (position.trans late)
      rw [whole] at apart
      -- Behind the replacement the rest of the text is as fresh as before.
      have blank : Blank (Layout.mk (Text.indentation (site.boundary.toList ++ before))
          ending).indent := Text.blank_indentation _
      have replaced := admitted.holds_replaced Traceable.apart blank here.ends apart
      have nonempty := List.append_ne_nil_of_right_ne_nil here.before
        (admitted.replacement_ne_nil blank)
      rw [← List.append_assoc] at replaced
      have later := ih (site.statement.source.reverse ++ (site.boundary.toList ++ before)) _
        (beq_false_of_ne (mt List.eq_nil_of_length_eq_zero nonempty)).symm replaced (by
          intro occurrence same plain
          rw [List.append_assoc] at same
          exact Nat.le_sub_one_of_lt (apart.lt_start_of_replaced least blank same plain))
      rw [replaceSites]
      simpa only [here, List.append_assoc] using later
  | case2 atStart missing =>
      apply clear_of_plain
      intro occurrence same
      by_contra unbranched
      have late := fresh occurrence same (eq_false_of_ne_true unbranched)
      have inside := occurrence.finish_le_length
      have started := occurrence.start_lt_finish
      rw [same, replaceSites, List.append_nil] at inside
      omega
  | case3 atStart char rest missing ih =>
      rw [List.append_cons] at apart fresh
      have passes : ∀ occurrence : Occurrence rule, occurrence.text = (passed ++ [char]) ++ rest →
          occurrence.statement.beginsWithElse = false →
          (passed ++ [char]).length ≤ occurrence.start - 1 := by
        intro occurrence same plain
        have late := fresh occurrence same plain
        have elsewhere : passed.length ≠ occurrence.start - 1 := by
          intro here
          have found := occurrence.siteAt
          rw [same, ← here, ← List.append_cons, siteAt_append_iff, ← start, missing] at found
          simp at found
        rw [List.length_append, List.length_singleton]
        omega
      rw [replaceSites, List.append_cons]
      exact ih (char :: before) (passed ++ [char]) (by simp) apart passes

theorem Apart.clear_rewrite (apart : rule.Apart text) (ending : LineEnding) :
    rule.Clear (rule.rewrite {} ending text) :=
  apart.clear_append_replaceSites ending true text [] [] rfl (fun _ _ _ => Nat.zero_le _)

theorem Clear.applyAll (clear : rule.Clear text) (rules : List Rule) :
    rule.Clear (Rule.applyAll {} rules text) := by
  induction rules generalizing text with
  | nil => exact clear
  | cons other rules ih => exact ih (clear.rewrite other (LineEnding.ofText text))

/-- Rules that are applied one after the other leave no statement of theirs, if the sites of each
lie apart. -/
theorem clear_applyAll (apart : ∀ rule : Rule, rule.Apart text) (rules : List Rule) :
    ∀ rule ∈ rules, rule.Clear (applyAll {} rules text) := by
  induction rules generalizing text with
  | nil => simp
  | cons first rules ih =>
      rw [List.forall_mem_cons]
      constructor
      · exact ((apart first).clear_rewrite (LineEnding.ofText text)).applyAll rules
      · exact ih (fun rule => (apart rule).rewrite first (LineEnding.ofText text))

end Rule

/-! ## The words before a call -/

/-- Whether a piece begins with a word. -/
def startsWord (piece : Text) : Bool :=
  piece.head?.any fun char => !isBoundary char

/-- The number of words of a text. -/
def wordCount (text : Text) : Nat :=
  text.pieces.countP startsWord

theorem wordCount_append {text : Text} (ends : EndsAtBoundary text) (later : Text) :
    wordCount (text ++ later) = wordCount text + wordCount later := by
  rw [wordCount, Text.pieces_append ends, List.countP_append, wordCount, wordCount]

theorem wordCount_cons_pos {char : Char} (letter : isBoundary char = false) (text : Text) :
    0 < wordCount (char :: text) := by
  rw [wordCount, Text.pieces, if_neg (by simp [letter])]
  split <;> exact List.countP_pos_iff.2 ⟨_, List.mem_cons_self, by simp [startsWord, letter]⟩

theorem wordCount_eq_zero {text : Text} (boundaries : ∀ char ∈ text, isBoundary char = true) :
    wordCount text = 0 := by
  induction text with
  | nil => rfl
  | cons char text ih =>
      rw [List.forall_mem_cons] at boundaries
      rw [wordCount, Text.pieces, if_pos boundaries.1,
        List.countP_cons_of_neg (by simp [startsWord, boundaries.1])]
      exact ih boundaries.2

/-- A word, with boundary characters behind it. -/
theorem wordCount_word_append {word gap : Text} (some_word : word ≠ [])
    (letters : ∀ char ∈ word, isBoundary char = false) (some_gap : gap ≠ [])
    (boundaries : ∀ char ∈ gap, isBoundary char = true) : wordCount (word ++ gap) = 1 := by
  obtain ⟨first, word, rfl⟩ := List.exists_cons_of_ne_nil some_word
  obtain ⟨char, gap, rfl⟩ := List.exists_cons_of_ne_nil some_gap
  rw [List.forall_mem_cons] at boundaries
  have found : startsWord (first :: word ++ [char]) = true := by
    simp [startsWord, letters first]
  have none := wordCount_eq_zero boundaries.2
  rw [wordCount] at none ⊢
  rw [Text.pieces_word_append letters boundaries.1, List.countP_cons_of_pos found, none]

/-- The number of words before the calls of a rule. -/
def Rule.frontWords : Rule → Nat
  | .bareAlert | .windowAlert => 0
  | .confirmGuard => 1
  | .confirmAssignment => 2

theorem Rule.Admits.wordCount_front {rule : Rule} {statement : Statement}
    (admitted : rule.Admits statement) (plain : statement.beginsWithElse = false) :
    wordCount statement.front = rule.frontWords := by
  cases statement with
  | alert written =>
      cases rule with
      | bareAlert | windowAlert => rfl
      | confirmGuard | confirmAssignment => exact admitted.elim
  | guard written =>
      cases rule with
      | bareAlert | windowAlert | confirmAssignment => exact admitted.elim
      | confirmGuard =>
          have layout : written.WellFormed := admitted
          have unbranched : written.elseGap = none := by
            simpa [Statement.beginsWithElse] using plain
          have parts : (Statement.guard written).front = "if".toList ++ (written.ifGap ++
              '(' :: (written.openGap ++ '!' :: written.notGap)) := by
            simp [Statement.front, unbranched, Guard.elseSource]
          rw [parts]
          refine wordCount_word_append (by decide)
            (Text.isBoundary_eq_false_of_all (by decide)) (by simp) ?_
          simp only [List.forall_mem_append, List.forall_mem_cons]
          exact ⟨layout.ifGap.forall_isBoundary, rfl, layout.openGap.forall_isBoundary, rfl,
            layout.notGap.forall_isBoundary⟩
  | binding written =>
      cases rule with
      | bareAlert | windowAlert | confirmGuard => exact admitted.elim
      | confirmAssignment =>
          have layout : written.WellFormed := admitted
          have some_keyword : written.keyword.source ≠ [] := by
            cases written.keyword <;> decide
          have keyword := Text.isBoundary_eq_false_of_all
            (show written.keyword.source.all (fun char => !isBoundary char) = true by
              cases written.keyword <;> decide)
          have parts : (Statement.binding written).front =
              (written.keyword.source ++ written.keywordGap) ++
                (written.name ++ (written.nameGap ++ '=' :: written.equalsGap)) := by
            simp [Statement.front]
          have ends : EndsAtBoundary (written.keyword.source ++ written.keywordGap) := by
            intro last member
            rw [List.getLast?_append_of_ne_nil _ layout.keywordGap_ne_nil] at member
            exact layout.keywordGap.forall_isBoundary last (List.mem_of_getLast? member)
          rw [parts, wordCount_append ends, wordCount_word_append some_keyword keyword
            layout.keywordGap_ne_nil layout.keywordGap.forall_isBoundary,
            wordCount_word_append (by simp [Binding.name]) layout.name_letters (by simp)]
          · rfl
          · simp only [List.forall_mem_append, List.forall_mem_cons]
            exact ⟨layout.nameGap.forall_isBoundary, rfl, layout.equalsGap.forall_isBoundary⟩

/-- A call belongs to one statement, apart from the `else` of a guard. -/
theorem Occurrence.start_eq_of_call_eq {rule : Rule} {first later : Occurrence rule}
    (plain : first.statement.beginsWithElse = false)
    (plain' : later.statement.beginsWithElse = false)
    (calls : first.before ++ first.statement.front = later.before ++ later.statement.front) :
    first.start = later.start := by
  -- If one statement began before the other, the text between them would hold a word too many.
  have aligned {inner outer : Occurrence rule} {excess : Text}
      (within : inner.before = outer.before ++ excess)
      (longer : outer.statement.front = excess ++ inner.statement.front)
      (words : wordCount outer.statement.front = wordCount inner.statement.front) :
      inner.start = outer.start := by
    cases excess with
    | nil => rw [start, within, List.append_nil, start]
    | cons char excess =>
        have ends := inner.ends
        rw [within] at ends
        rw [longer, wordCount_append ends.of_append] at words
        obtain ⟨initial, rest, source, letter⟩ := outer.statement.exists_source_eq_cons
        rw [outer.admitted.source_eq, longer] at source
        obtain ⟨rfl, _⟩ := List.cons.inj source
        have word := wordCount_cons_pos letter excess
        omega
  have words := first.admitted.wordCount_front plain
  have words' := later.admitted.wordCount_front plain'
  rcases List.append_eq_append_iff.1 calls with ⟨excess, within, longer⟩ | ⟨excess, within, longer⟩
  · exact (aligned within longer (words.trans words'.symm)).symm
  · exact aligned within longer (words'.trans words.symm)

/-! ## Line by line -/

namespace Occurrence

variable {rule : Rule} (occurrence : Occurrence rule)

/-- The statement in a longer text. -/
def extend {front : Text} (ends : EndsAtBoundary front) (behind : Text) : Occurrence rule where
  before := front ++ occurrence.before
  statement := occurrence.statement
  after := occurrence.after ++ behind
  ends := ends.append occurrence.ends
  admitted := occurrence.admitted

theorem text_extend {front : Text} (ends : EndsAtBoundary front) (behind : Text) :
    (occurrence.extend ends behind).text = front ++ (occurrence.text ++ behind) := by
  simp only [extend, text, List.append_assoc]

theorem start_extend {front : Text} (ends : EndsAtBoundary front) (behind : Text) :
    (occurrence.extend ends behind).start = front.length + occurrence.start := by
  rw [start, extend, List.length_append, start]

end Occurrence

/-- A statement stands on one side of a separator that no statement crosses. -/
theorem Occurrence.exists_beside {rule : Rule} {occurrence : Occurrence rule} {separator : Char}
    {line later : Text} (boundary : isBoundary separator = true)
    (uncrossed : rule.Uncrossed line separator later)
    (split : occurrence.text = line ++ separator :: later) :
    ∃ inside : Occurrence rule, inside.statement = occurrence.statement ∧
      (inside.text = line ∧ occurrence.start = inside.start ∨
        inside.text = later ∧ occurrence.start = line.length + 1 + inside.start) := by
  have ends := occurrence.ends
  rw [text] at split
  rcases List.append_eq_append_iff.1 split with ⟨begun, whole, cut⟩ | ⟨passed, whole, cut⟩
  · obtain ⟨rest, rfl⟩ := uncrossed _ begun _ _ whole ends occurrence.admitted cut.symm
    exact ⟨⟨occurrence.before, occurrence.statement, rest, ends, occurrence.admitted⟩, rfl,
      .inl ⟨whole.symm, rfl⟩⟩
  · cases passed with
    | nil =>
        obtain ⟨first, _, source, letter⟩ := occurrence.statement.exists_source_eq_cons
        rw [source] at cut
        rw [(List.cons.inj cut).1, letter] at boundary
        cases boundary
    | cons char passed =>
        rw [List.cons_append, List.cons.injEq] at cut
        rw [whole, List.append_cons] at ends
        refine ⟨⟨passed, occurrence.statement, occurrence.after, ends.of_append,
          occurrence.admitted⟩, rfl, .inr ⟨cut.2.symm, ?_⟩⟩
        simp only [start, whole, List.length_append, List.length_cons]
        omega

namespace Rule

variable {rule : Rule} {text : Text}

/-- Where a text makes a single call, no sites can overlap. -/
theorem apart_of_callCount_le_one (few : callCount text ≤ 1) : rule.Apart text := by
  rw [apart_iff]
  rintro first second rfl same plain plain' order
  have counted :=
    Dialog.callCount_of_opening first.text_eq_opening first.endsAtBoundary_front
  have single : rule.dialog.callCount first.text = 1 := by
    have bound : rule.dialog.callCount first.text ≤ callCount first.text := by
      rw [callCount]
      cases rule <;> simp [dialog]
    omega
  have calls := (Dialog.eq_of_callCount_eq_one single first.text_eq_opening
    first.endsAtBoundary_front (same.symm.trans second.text_eq_opening)
    second.endsAtBoundary_front).1
  have starts := Occurrence.start_eq_of_call_eq plain plain' calls
  omega

/-- Sites that lie apart in a text do so in a part of it. -/
theorem Apart.of_append {front behind : Text} (ends : EndsAtBoundary front)
    (apart : rule.Apart (front ++ (text ++ behind))) : rule.Apart text := by
  rw [apart_iff] at apart ⊢
  rintro first second rfl same plain plain' order
  have later := apart (first.extend ends behind) (second.extend ends behind)
    (first.text_extend ends behind) (by rw [second.text_extend, same]) plain plain'
  simp only [Occurrence.finish, Occurrence.start_extend] at later ⊢
  exact Nat.lt_of_add_lt_add_left (Nat.add_assoc _ _ _ ▸ later (Nat.add_lt_add_left order _))

/-- Where no statement crosses a separator, sites lie apart if they do on its two sides. -/
theorem apart_append_iff {separator : Char} {line later : Text}
    (boundary : isBoundary separator = true) (uncrossed : rule.Uncrossed line separator later) :
    rule.Apart (line ++ separator :: later) ↔ rule.Apart line ∧ rule.Apart later := by
  constructor
  · intro apart
    have atStart : EndsAtBoundary [] := by
      simp [EndsAtBoundary]
    have whole : rule.Apart ((line ++ [separator]) ++ (later ++ [])) := by
      rw [List.append_nil, List.append_assoc]
      exact apart
    exact ⟨Apart.of_append atStart apart,
      whole.of_append (endsAtBoundary_append_cons boundary blank_nil line)⟩
  · simp only [apart_iff]
    rintro ⟨apart, apart'⟩ first second inFirst inSecond plain plain' order
    obtain ⟨inside, same, place⟩ := Occurrence.exists_beside boundary uncrossed inFirst
    obtain ⟨inside', same', place'⟩ := Occurrence.exists_beside boundary uncrossed inSecond
    rw [← same] at plain
    rw [← same'] at plain'
    have finish : first.finish = first.start + (inside.finish - inside.start) := by
      rw [Occurrence.finish, Occurrence.finish, same, Nat.add_sub_cancel_left]
    have within := inside.finish_le_length
    have within' := inside'.finish_le_length
    have started := inside.start_lt_finish
    have started' := inside'.start_lt_finish
    rcases place with ⟨rfl, moved⟩ | ⟨rfl, moved⟩
    · rcases place' with ⟨here, moved'⟩ | ⟨here, moved'⟩
      · have behind := apart inside inside' rfl here plain plain' (by omega)
        omega
      · omega
    · rcases place' with ⟨rfl, moved'⟩ | ⟨here, moved'⟩
      · omega
      · have behind := apart' inside inside' rfl here plain plain' (by omega)
        omega

theorem apart_nil : rule.Apart [] :=
  apart_of_callCount_le_one (by rw [callCount_nil]; exact Nat.zero_le 1)

theorem apart_append_newline {line later : Text} :
    rule.Apart (line ++ '\n' :: later) ↔ rule.Apart line ∧ rule.Apart later :=
  apart_append_iff rfl (uncrossed_newline line later)

theorem Apart.append_ending (apart : rule.Apart text) (ending : LineEnding) :
    rule.Apart (text ++ ending.text) := by
  cases ending with
  | newline => exact apart_append_newline.2 ⟨apart, apart_nil⟩
  | carriageReturnNewline =>
      have ended : text ++ LineEnding.carriageReturnNewline.text =
          (text ++ ['\r']) ++ '\n' :: [] := by
        simp [LineEnding.text]
      rw [ended, apart_append_newline,
        apart_append_iff rfl (rule.uncrossed_carriageReturn text)]
      exact ⟨⟨apart, apart_nil⟩, apart_nil⟩

/-- The sites of a text lie apart exactly when they do on each of its lines. -/
theorem apart_iff_forall_lines : rule.Apart text ↔ ∀ line ∈ text.lines, rule.Apart line := by
  induction text using Text.lineInduction with
  | lastLine line oneLine =>
      by_cases empty : line = []
      · simp [empty, Text.lines, apart_nil]
      · rw [Text.lines_of_newline_notMem oneLine empty, List.forall_mem_singleton]
  | newline line later oneLine ih =>
      rw [apart_append_newline, ih, Text.lines_append_newline oneLine, List.forall_mem_cons]

end Rule

end DialogCodemod
