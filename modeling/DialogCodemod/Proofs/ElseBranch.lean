import DialogCodemod.Proofs.LineEndings
import Mathlib.Data.List.Induction

/-!
# Guards in `else` branches

A guard that is an `else` branch becomes a block, since a declaration must not follow `else`. The
rule reads `else` with the guard if blanks alone separate the two and the character before `else` is
still free to be the boundary of the site. Otherwise the guard is read without its `else`, and the
declaration that takes its place stands directly behind the word. This module says exactly when that
happens.
-/

namespace DialogCodemod

/-! ## Texts that end with `else` -/

/-- The keyword `else` stands at the end of the text, up to white space. -/
def FollowsElse (before : Text) : Prop :=
  ∃ front gap, before = front ++ ("else".toList ++ gap) ∧ EndsAtBoundary front ∧ White gap

/-- A sign is neither in the keyword nor in the white space behind it. -/
theorem notMem_else {char : Char} (boundary : isBoundary char = true) (ink : isSpace char = false)
    {gap : Text} (white : White gap) : char ∉ "else".toList ++ gap := by
  have letters : "else".toList.any isBoundary = false := by
    decide
  rw [List.mem_append, not_or]
  constructor
  · intro member
    exact List.any_eq_false.1 letters char member boundary
  · intro member
    rw [white char member] at ink
    cases ink

/-- What stands before a sign does not matter to an `else` behind it. -/
theorem followsElse_append_cons {char : Char} (boundary : isBoundary char = true)
    (ink : isSpace char = false) (first rest : Text) :
    FollowsElse (first ++ char :: rest) ↔ FollowsElse rest := by
  constructor
  · rintro ⟨front, gap, split, startsWord, white⟩
    obtain ⟨remaining, rfl, rfl⟩ :=
      exists_append_of_notMem_end (notMem_else boundary ink white) split
    rw [List.append_cons] at startsWord
    exact ⟨remaining, gap, rfl, startsWord.of_append, white⟩
  · rintro ⟨front, gap, rfl, startsWord, white⟩
    have ends : EndsAtBoundary (first ++ [char]) := by
      simp [EndsAtBoundary, boundary]
    exact ⟨first ++ [char] ++ front, gap, by simp, ends.append startsWord, white⟩

theorem sign_of_closesStatement {char : Char} (closes : closesStatement char = true) :
    isBoundary char = true ∧ isSpace char = false := by
  simp only [closesStatement, Bool.or_eq_true, beq_iff_eq] at closes
  rcases closes with (rfl | rfl) | rfl <;> decide

theorem EndsClosed.followsElse_append {closed : Text} (endsClosed : EndsClosed closed)
    (rest : Text) : FollowsElse (closed ++ rest) ↔ FollowsElse rest := by
  obtain ⟨front, last, rfl, closes⟩ := endsClosed
  have sign := sign_of_closesStatement closes
  rw [← List.append_cons]
  exact followsElse_append_cons sign.1 sign.2 front rest

/-- `else` follows on a rewritten text where it follows on the text: what takes the place of a
statement ends like a statement, and all other characters stay. -/
theorem followsElse_replaceSites_append (notifier : Notifier) (ending : LineEnding) (before : Text)
    (segments : List Segment) (rest : Text) :
    FollowsElse (replaceSites notifier ending before segments ++ rest) ↔
      FollowsElse (segments.flatMap Segment.source ++ rest) := by
  -- From the last segment on, since only the end of the text matters.
  induction segments using List.reverseRecOn generalizing rest with
  | nil => exact Iff.rfl
  | append_singleton segments segment ih =>
      rw [Rule.replaceSites_append, List.flatMap_append]
      cases segment with
      | plain char =>
          rw [List.append_assoc, List.append_assoc]
          exact ih (char :: rest)
      | site site =>
          have replaced := (site.statement.endsClosed_replacement notifier
            { indent := Text.indentation (site.boundary.toList ++
                ((segments.flatMap Segment.source).reverse ++ before)), ending }).append_left
            (replaceSites notifier ending before segments ++ site.boundary.toList)
          have source := site.statement.endsClosed_source.append_left
            (segments.flatMap Segment.source ++ site.boundary.toList)
          simp only [replaceSites, List.flatMap_cons, List.flatMap_nil, List.append_nil,
            Segment.source, Site.source, ← List.append_assoc] at replaced source ⊢
          rw [replaced.followsElse_append, source.followsElse_append]

/-- White space holds no `else`. -/
theorem White.not_followsElse {text : Text} (white : White text) : ¬FollowsElse text := by
  rintro ⟨front, gap, rfl, _⟩
  have letter := white 'e' (by simp)
  cases letter

/-! ## The declaration of a guard -/

/-- What a guard is replaced by, up to the declaration. -/
def Guard.declarationLead (layout : Layout) : (elseGap : Option Text) → Text
  | none => []
  | some _ => "else \x7b".toList ++ layout.nested.lineBreak

@[simp] theorem Guard.declarationLead_none (layout : Layout) : declarationLead layout none = [] :=
  rfl

theorem Guard.exists_replacement_eq (guard : Guard) (notifier : Notifier) (layout : Layout) :
    ∃ after, (Statement.guard guard).replacement notifier layout =
      declarationLead layout guard.elseGap ++ ("const confirmed".toList ++ after) := by
  have declared (layout : Layout) (message : Literal) :
      ∃ after, notifier.awaitedGuard layout message = "const confirmed".toList ++ after := by
    have opening : "const confirmed = ".toList = "const confirmed".toList ++ " = ".toList := by
      decide
    unfold Notifier.awaitedGuard
    rw [opening]
    simp only [List.append_assoc]
    exact ⟨_, rfl⟩
  obtain ⟨elseGap, ifGap, openGap, notGap, call, callGap, closeGap, returnGap⟩ := guard
  cases elseGap with
  | none => exact declared layout call.message
  | some gap =>
      obtain ⟨after, written⟩ := declared layout.nested call.message
      refine ⟨after ++ layout.lineBreak ++ "\x7d".toList, ?_⟩
      have block : (Statement.guard ⟨some gap, ifGap, openGap, notGap, call, callGap, closeGap,
          returnGap⟩).replacement notifier layout =
          declarationLead layout (some gap) ++ notifier.awaitedGuard layout.nested call.message ++
            layout.lineBreak ++ "\x7d".toList := rfl
      rw [block, written]
      simp only [List.append_assoc]

/-- The rewritten text before the declaration of a guard, which follows on the given segments. -/
def textBeforeDeclaration (notifier : Notifier) (ending : LineEnding) (earlier : List Segment)
    (boundary : Option Char) (guard : Guard) : Text :=
  let layout : Layout :=
    { indent := Text.indentation (boundary.toList ++ (earlier.flatMap Segment.source).reverse),
      ending }
  replaceSites notifier ending [] earlier ++
    (boundary.toList ++ Guard.declarationLead layout guard.elseGap)

theorem exists_replaceSites_guard_eq (notifier : Notifier) (ending : LineEnding)
    (earlier later : List Segment) (boundary : Option Char) (guard : Guard) :
    ∃ after, replaceSites notifier ending [] (earlier ++ .site ⟨boundary, .guard guard⟩ :: later) =
      textBeforeDeclaration notifier ending earlier boundary guard ++
        ("const confirmed".toList ++ after) := by
  obtain ⟨after, replaced⟩ := guard.exists_replacement_eq notifier
    { indent := Text.indentation (boundary.toList ++ (earlier.flatMap Segment.source).reverse),
      ending }
  rw [Rule.replaceSites_append, List.append_nil]
  simp only [replaceSites, replaced, textBeforeDeclaration, List.append_assoc]
  exact ⟨_, rfl⟩

theorem LineEnding.white_text (ending : LineEnding) : White ending.text := by
  cases ending <;> decide

/-- The brace of the block separates the declaration from `else`. -/
theorem Guard.not_followsElse_declarationLead (ending : LineEnding) (position before gap : Text) :
    ¬FollowsElse (before ++
      declarationLead { indent := Text.indentation position, ending } (some gap)) := by
  have brace : "else \x7b".toList = "else ".toList ++ ['\x7b'] := by
    decide
  have white : White
      (Layout.nested { indent := Text.indentation position, ending }).lineBreak := by
    intro char member
    rcases List.mem_append.1 member with inEnding | inIndent
    · exact ending.white_text char inEnding
    rcases List.mem_append.1 inIndent with inLine | inNesting
    · exact isSpace_of_isBlank (Text.blank_indentation position char inLine)
    · have spaces : White "  ".toList := by
        decide
      exact spaces char inNesting
  have regrouped (word rest : Text) :
      before ++ (word ++ ['\x7b'] ++ rest) = before ++ word ++ '\x7b' :: rest := by
    simp
  unfold declarationLead
  rw [brace, regrouped, followsElse_append_cons rfl rfl]
  exact white.not_followsElse

/-- A declaration follows `else` if the rule has not read the `else` before the guard. -/
theorem followsElse_textBeforeDeclaration (notifier : Notifier) (ending : LineEnding)
    (earlier : List Segment) (boundary : Option Char) (guard : Guard) :
    FollowsElse (textBeforeDeclaration notifier ending earlier boundary guard) ↔
      guard.elseGap = none ∧
        FollowsElse (earlier.flatMap Segment.source ++ boundary.toList) := by
  rw [textBeforeDeclaration, followsElse_replaceSites_append]
  cases guard.elseGap with
  | none =>
      rw [Guard.declarationLead_none, List.append_nil]
      exact (and_iff_right rfl).symm
  | some gap =>
      refine iff_of_false ?_ (by simp)
      rw [← List.append_assoc]
      exact Guard.not_followsElse_declarationLead ending _ _ gap

/-! ## When `else` is left unread -/

/-- One of the sites ends where the front ends. -/
def SiteEnds (segments : List Segment) (front : Text) : Prop :=
  ∃ passed site rest, segments = passed ++ .site site :: rest ∧
    front = passed.flatMap Segment.source ++ site.source

theorem SiteEnds.cons {segments : List Segment} {front : Text} (ends : SiteEnds segments front)
    (segment : Segment) : SiteEnds (segment :: segments) (segment.source ++ front) := by
  obtain ⟨passed, site, rest, rfl, rfl⟩ := ends
  exact ⟨segment :: passed, site, rest, rfl, by simp⟩

theorem Blank.white {gap : Text} (blank : Blank gap) : White gap :=
  fun char member => isSpace_of_isBlank (blank char member)

namespace Guard

variable {guard : Guard} {gap : Text}

/-- The guard as the branch of an `else`. -/
def withElse (guard : Guard) (gap : Text) : Guard :=
  { guard with elseGap := some gap }

theorem source_withElse (unread : guard.elseGap = none) (gap : Text) :
    (guard.withElse gap).source = "else".toList ++ (gap ++ guard.source) := by
  simp only [source, withElse, elseSource, unread, List.append_assoc, List.nil_append]

theorem WellFormed.withElse (wellFormed : guard.WellFormed) (nonempty : gap ≠ [])
    (blank : Blank gap) : (guard.withElse gap).WellFormed :=
  { wellFormed with
    elseGap := by
      rintro _ ⟨⟩
      exact ⟨nonempty, blank⟩ }

/-- `else` and blanks before a guard are part of its site where a site may stand. -/
theorem site?_else_ne_none (wellFormed : guard.WellFormed) (unread : guard.elseGap = none)
    (nonempty : gap ≠ []) (blank : Blank gap) {atStart : Bool} {boundary : Option Char}
    (placed : Site.Placed atStart ⟨boundary, .guard (guard.withElse gap)⟩) (rest : Text) :
    Rule.confirmGuard.site? atStart
      (boundary.toList ++ ("else".toList ++ (gap ++ (guard.source ++ rest)))) ≠ none := by
  have admitted : Rule.confirmGuard.Admits (.guard (guard.withElse gap)) :=
    wellFormed.withElse nonempty blank
  have split : boundary.toList ++ ("else".toList ++ (gap ++ (guard.source ++ rest))) =
      Site.source ⟨boundary, .guard (guard.withElse gap)⟩ ++ rest := by
    rw [Site.source, Statement.source, source_withElse unread]
    simp only [List.append_assoc]
  rw [Rule.site?_eq_some_iff.2 ⟨split, placed, admitted⟩]
  exact Option.some_ne_none _

end Guard

section Unread

variable {guard : Guard} {gap : Text} {boundary : Option Char} {atStart : Bool} {text front : Text}
  {earlier later : List Segment}

/-- The text around a guard of a scan, up to an `else` before the guard. -/
theorem eq_append_else_of_segmentsFrom
    (cut : Rule.confirmGuard.segmentsFrom atStart text =
      earlier ++ .site ⟨boundary, .guard guard⟩ :: later)
    (split : earlier.flatMap Segment.source ++ boundary.toList =
      front ++ ("else".toList ++ gap)) :
    text = front ++ ("else".toList ++
      (gap ++ (guard.source ++ later.flatMap Segment.source))) := by
  have whole := Rule.confirmGuard.flatMap_source_segmentsFrom atStart text
  rw [cut, List.flatMap_append, List.flatMap_cons, Segment.source, Site.source, List.append_assoc,
    ← List.append_assoc, split] at whole
  rw [← whole]
  simp only [Statement.source, List.append_assoc]

/-- The character before the guard is its boundary, and `else` does not end with one. -/
theorem gap_ne_nil_of_segmentsFrom
    (cut : Rule.confirmGuard.segmentsFrom atStart text =
      earlier ++ .site ⟨boundary, .guard guard⟩ :: later)
    (split : earlier.flatMap Segment.source ++ boundary.toList =
      front ++ ("else".toList ++ gap)) : gap ≠ [] := by
  have placed := (Rule.placed_and_admits_of_segmentsFrom cut).1
  rintro rfl
  cases boundary with
  | none =>
      have start : earlier = [] := List.isEmpty_iff.1 (Bool.and_eq_true_iff.1 placed).2
      rw [start] at split
      cases front <;> cases split
  | some char =>
      have last := congrArg List.getLast? split
      rw [Option.toList_some, List.getLast?_concat, List.append_nil, List.getLast?_append] at last
      cases last
      cases placed

/-- A scan passes over an `else` with blanks behind it only if the character before it belongs to
the site before. -/
theorem siteEnds_of_segmentsFrom (wellFormed : guard.WellFormed) (unread : guard.elseGap = none)
    (nonempty : gap ≠ []) (blank : Blank gap)
    (cut : Rule.confirmGuard.segmentsFrom atStart text =
      earlier ++ .site ⟨boundary, .guard guard⟩ :: later)
    (split : earlier.flatMap Segment.source ++ boundary.toList = front ++ ("else".toList ++ gap))
    (startsWord : EndsAtBoundary front) :
    (atStart = false ∧ front = []) ∨ SiteEnds earlier front := by
  -- On the segments before the guard. The first alternative is for the rest of a scan: `else` stands
  -- where the rest begins, and what came before decides.
  induction earlier generalizing atStart text front with
  | nil =>
      have short := congrArg List.length split
      cases boundary <;> simp at short
      omega
  | cons segment earlier ih =>
      have whole := eq_append_else_of_segmentsFrom cut split
      have behind := Rule.segmentsFrom_of_append (show _ = [segment] ++ _ from cut)
      rw [List.flatMap_cons, List.append_assoc] at split
      cases segment with
      | plain char =>
          have passed := Rule.site?_eq_none_of_plain cut
          cases front with
          | nil =>
              cases atStart with
              | false => exact .inl ⟨rfl, rfl⟩
              | true =>
                  have placed : Site.Placed true ⟨none, .guard (guard.withElse gap)⟩ := rfl
                  rw [whole] at passed
                  exact absurd passed
                    (Guard.site?_else_ne_none wellFormed unread nonempty blank placed _)
          | cons first front =>
              obtain ⟨rfl, splitBehind⟩ := List.cons.inj split
              have starts : EndsAtBoundary ([char] ++ front) := startsWord
              rcases ih behind splitBehind starts.of_append with ⟨_, rfl⟩ | ends
              · have placed : Site.Placed atStart ⟨some char, .guard (guard.withElse gap)⟩ :=
                  startsWord char rfl
                rw [whole] at passed
                exact absurd passed
                  (Guard.site?_else_ne_none wellFormed unread nonempty blank placed _)
              · exact .inr (ends.cons (.plain char))
      | site site =>
          obtain ⟨opening, last, source, closes⟩ :=
            site.statement.endsClosed_source.append_left site.boundary.toList
          have sign := sign_of_closesStatement closes
          -- `else` cannot begin inside the site, which ends with a sign.
          rw [Segment.source, Site.source, source, ← List.append_cons] at split
          obtain ⟨remaining, rfl, splitBehind⟩ :=
            exists_append_of_notMem_end (notMem_else sign.1 sign.2 blank.white) split
          rw [List.append_cons, ← source] at startsWord ⊢
          right
          rcases ih behind splitBehind startsWord.of_append with ⟨_, rfl⟩ | ends
          · exact ⟨[], site, earlier, rfl, by simp [Site.source]⟩
          · exact ends.cons (.site site)

/-- The text before a guard ends with an `else` that the rule cannot read: more than blanks separate
it from the guard, or the site before has taken the character before it. -/
def ElseUnread (earlier : List Segment) (boundary : Option Char) : Prop :=
  ∃ front gap, earlier.flatMap Segment.source ++ boundary.toList = front ++ ("else".toList ++ gap) ∧
    EndsAtBoundary front ∧ White gap ∧ (¬Blank gap ∨ SiteEnds earlier front)

/-- An `else` that is left before a guard is one that the rule cannot read. -/
theorem followsElse_iff_elseUnread (unread : guard.elseGap = none)
    (cut : Rule.confirmGuard.segments text =
      earlier ++ .site ⟨boundary, .guard guard⟩ :: later) :
    FollowsElse (earlier.flatMap Segment.source ++ boundary.toList) ↔
      ElseUnread earlier boundary := by
  constructor
  · rintro ⟨front, gap, split, startsWord, white⟩
    refine ⟨front, gap, split, startsWord, white, ?_⟩
    by_cases blank : Blank gap
    · have wellFormed : guard.WellFormed := (Rule.placed_and_admits_of_segmentsFrom cut).2
      have nonempty := gap_ne_nil_of_segmentsFrom cut split
      rcases siteEnds_of_segmentsFrom wellFormed unread nonempty blank cut split startsWord
        with ⟨inside, _⟩ | ends
      · cases inside
      · exact .inr ends
    · exact .inl blank
  · rintro ⟨front, gap, split, startsWord, white, _⟩
    exact ⟨front, gap, split, startsWord, white⟩

/-- Every `else` before a guard is separated from it by blanks alone, and no semicolon stands
directly before the `else`. -/
def ElsesReadable (text : Text) : Prop :=
  ∀ front gap guard rest, text = front ++ ("else".toList ++ (gap ++ (Guard.source guard ++ rest))) →
    EndsAtBoundary front → White gap → guard.WellFormed → guard.elseGap = none →
    Blank gap ∧ front.getLast? ≠ some ';'

/-- The sites of the rule are guards. -/
theorem exists_guard_of_segments {site : Site}
    (cut : Rule.confirmGuard.segments text = earlier ++ .site site :: later) :
    ∃ guard, site.statement = .guard guard ∧ guard.WellFormed := by
  have admitted := (Rule.placed_and_admits_of_segmentsFrom cut).2
  cases statement : site.statement with
  | guard guard =>
      rw [statement] at admitted
      exact ⟨guard, rfl, admitted⟩
  | alert written | binding written =>
      rw [statement] at admitted
      exact admitted.elim

/-- A guard ends with a semicolon. -/
theorem getLast?_of_siteEnds (cut : Rule.confirmGuard.segments text = earlier ++ later)
    (ends : SiteEnds earlier front) : front.getLast? = some ';' := by
  obtain ⟨passed, site, rest, rfl, rfl⟩ := ends
  rw [List.append_assoc] at cut
  obtain ⟨guard, statement, _⟩ := exists_guard_of_segments cut
  rw [Site.source, statement, Statement.source, Guard.source, ← List.append_assoc,
    ← List.append_assoc, List.getLast?_concat]

theorem ElsesReadable.not_elseUnread (readable : ElsesReadable text)
    (unread : guard.elseGap = none)
    (cut : Rule.confirmGuard.segments text =
      earlier ++ .site ⟨boundary, .guard guard⟩ :: later) : ¬ElseUnread earlier boundary := by
  rintro ⟨front, gap, split, startsWord, white, cause⟩
  have wellFormed : guard.WellFormed := (Rule.placed_and_admits_of_segmentsFrom cut).2
  have ⟨blank, free⟩ := readable front gap guard _ (eq_append_else_of_segmentsFrom cut split)
    startsWord white wellFormed unread
  rcases cause with notBlank | ends
  · exact notBlank blank
  · exact free (getLast?_of_siteEnds cut ends)

end Unread

/-- A guard becomes a declaration, which stands directly behind `else` exactly if the rule could not
read the `else` with the guard. In a text where each `else` before a guard can be read this never
happens, and a guard that is an `else` branch is read with its `else` and becomes a block. -/
theorem declaration_follows_else_iff (notifier : Notifier) (text : Text)
    (earlier later : List Segment) (site : Site)
    (cut : Rule.confirmGuard.segments text = earlier ++ .site site :: later) :
    ∃ guard before after,
      site.statement = .guard guard ∧
      before = textBeforeDeclaration notifier (LineEnding.ofText text) earlier site.boundary guard ∧
      Rule.confirmGuard.apply notifier text = before ++ ("const confirmed".toList ++ after) ∧
      (FollowsElse before ↔ guard.elseGap = none ∧ ElseUnread earlier site.boundary) ∧
      (ElsesReadable text → ¬FollowsElse before ∧
        (FollowsElse (earlier.flatMap Segment.source ++
            (site.boundary.toList ++ Guard.elseSource guard.elseGap)) →
          ∃ gap, guard.elseGap = some gap)) := by
  obtain ⟨guard, statement, _⟩ := exists_guard_of_segments cut
  obtain ⟨boundary, _⟩ := site
  cases statement
  obtain ⟨after, applied⟩ := exists_replaceSites_guard_eq notifier (LineEnding.ofText text) earlier
    later boundary guard
  have follows := followsElse_textBeforeDeclaration notifier (LineEnding.ofText text) earlier
    boundary guard
  refine ⟨guard, _, after, rfl, rfl, ?_, ?_, ?_⟩
  · rw [Rule.apply, cut]
    exact applied
  · rw [follows]
    exact and_congr_right fun unread => followsElse_iff_elseUnread unread cut
  · intro readable
    have separate (unread : guard.elseGap = none) :
        ¬FollowsElse (earlier.flatMap Segment.source ++ boundary.toList) := by
      rw [followsElse_iff_elseUnread unread cut]
      exact readable.not_elseUnread unread cut
    constructor
    · rw [follows]
      exact fun behind => separate behind.1 behind.2
    · intro branch
      cases read : guard.elseGap with
      | some gap => exact ⟨gap, rfl⟩
      | none =>
          rw [read, Guard.elseSource, List.append_nil] at branch
          exact absurd branch (separate read)

/-- A guard on the line of its `else`. -/
def guardBesideElse : Text :=
  "if (busy) wait();\nelse if (!confirm('Go?')) return;\n".toList

/-- `else` stands only at one place, and one blank separates it from the guard. -/
theorem elsesReadable_guardBesideElse : ElsesReadable guardBesideElse := by
  intro front gap guard rest split _ white _ _
  have only : ∀ position ≤ guardBesideElse.length,
      "else".toList <+: guardBesideElse.drop position → position = 18 := by
    decide
  have here : front.length = 18 := by
    apply only
    · simp only [split, List.length_append]
      exact Nat.le_add_right _ _
    · rw [split, List.drop_left]
      exact List.prefix_append _ _
  have parts : guardBesideElse = "if (busy) wait();\n".toList ++
      ("else".toList ++ (' ' :: 'i' :: "f (!confirm('Go?')) return;\n".toList)) := by
    decide
  rw [parts] at split
  obtain ⟨rfl, behind⟩ := List.append_inj split here.symm
  refine ⟨?_, by decide⟩
  have gapSource := List.append_cancel_left behind
  cases gap with
  | nil => exact blank_nil
  | cons first gap =>
      obtain ⟨rfl, moreSource⟩ := List.cons.inj gapSource
      cases gap with
      | nil => exact blank_cons.2 ⟨rfl, blank_nil⟩
      | cons second gap =>
          obtain ⟨rfl, _⟩ := List.cons.inj moreSource
          cases white 'i' (by simp)

/-- The declaration stands behind the brace of a block. -/
theorem declaration_follows_else_iff_same_line :
    ∃ earlier site later before after,
      Rule.confirmGuard.segments guardBesideElse = earlier ++ .site site :: later ∧
      Rule.confirmGuard.apply {} guardBesideElse = before ++ ("const confirmed".toList ++ after) ∧
      FollowsElse (earlier.flatMap Segment.source ++ (site.boundary.toList ++ "else ".toList)) ∧
      ¬FollowsElse before := by
  have cut : Rule.confirmGuard.segments guardBesideElse =
      "if (busy) wait();".toList.map Segment.plain ++
        .site ⟨some '\n', .guard ⟨some [' '], [' '], [], [],
          ⟨false, [], ⟨.single, "Go?".toList⟩, []⟩, [], [' '], []⟩⟩ :: [.plain '\n'] := by
    decide +kernel
  obtain ⟨_, before, after, _, _, applied, _, separate⟩ :=
    declaration_follows_else_iff {} _ _ _ _ cut
  refine ⟨_, _, _, before, after, cut, applied, ?_, (separate elsesReadable_guardBesideElse).1⟩
  refine ⟨"if (busy) wait();\n".toList, [' '], by decide, ?_, by decide⟩
  rintro _ ⟨⟩
  rfl

/-- A line break between `else` and the guard. -/
def guardBelowElse : Text :=
  "if (busy) wait();\nelse\n  if (!confirm('Go?')) return;\n".toList

/-- A guard right before the `else`, on one line with the guard that is its branch. -/
def guardBeforeElse : Text :=
  "if (!confirm('a')) return;else if (!confirm('b')) return;\n".toList

/-- Neither text declares anything, and in both rewritten texts a declaration follows `else`. In the
first, the rule does not read `else` across the line break. In the second, the guard before `else`
has taken the semicolon. -/
theorem declaration_follows_else :
    guardBelowElse.mentions "const".toList = false ∧
    guardBeforeElse.mentions "const".toList = false ∧
    (∃ before after, FollowsElse before ∧
      Rule.confirmGuard.apply {} guardBelowElse = before ++ ("const confirmed".toList ++ after)) ∧
    ∃ before after, FollowsElse before ∧
      Rule.confirmGuard.apply {} guardBeforeElse =
        before ++ ("const confirmed".toList ++ after) := by
  refine ⟨by decide +kernel, by decide +kernel, ?_, ?_⟩
  · refine ⟨"if (busy) wait();\nelse\n  ".toList,
      (Rule.confirmGuard.apply {} guardBelowElse).drop 40,
      ⟨"if (busy) wait();\n".toList, "\n  ".toList, rfl, ?_, by decide⟩, by decide +kernel⟩
    rintro _ ⟨⟩
    rfl
  · refine ⟨"const confirmed = await new Promise((resolve) => \x7b\n  ".toList ++
        "notificationManager.confirm('a', resolve);\n\x7d);\nif (!confirmed) return".toList ++
          ';' :: "else ".toList,
      (Rule.confirmGuard.apply {} guardBeforeElse).drop 143, ?_, by decide +kernel⟩
    rw [followsElse_append_cons rfl rfl]
    exact ⟨[], [' '], rfl, by simp [EndsAtBoundary], by decide⟩

end DialogCodemod
