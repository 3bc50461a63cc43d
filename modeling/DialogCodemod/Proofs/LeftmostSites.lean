import DialogCodemod.Proofs.Lines
import DialogCodemod.Proofs.PieceCount
import DialogCodemod.Proofs.Rendering
import Mathlib.Data.List.TakeWhile

/-!
# A rule replaces the leftmost sites

The scan of a rule goes from left to right and remembers little. This module says what it comes to
in terms of positions in the whole text. A text is cut into sites and the gaps between them; no site
begins in a gap, and each site is replaced by the rendered lines of its statement, indented like the
line on which the statement begins.
-/

namespace DialogCodemod

/-! ## The line of a position -/

/-- The line on which the position stands begins with these blanks and no more. -/
def Text.IndentedBy (text : Text) (position : Nat) (indent : Text) : Prop :=
  ∃ above line rest, text.take position = above ++ line ∧ CompleteLines above ∧ '\n' ∉ line ∧
    text.drop above.length = indent ++ rest ∧ Blank indent ∧ Stops isBlank rest

theorem Text.indentation_reverse {above line : Text} (complete : CompleteLines above)
    (oneLine : '\n' ∉ line) :
    Text.indentation (above ++ line).reverse = line.takeWhile isBlank := by
  have own : Text.indentation line.reverse = line.takeWhile isBlank := by
    have all : line.reverse.takeWhile (· != '\n') = line.reverse := by
      rw [List.takeWhile_eq_self_iff]
      intro char member
      simp only [bne_iff_ne]
      rintro rfl
      exact oneLine (List.mem_reverse.1 member)
    rw [indentation, all, List.reverse_reverse]
  rcases complete.eq_nil_or_concat with rfl | ⟨front, rfl⟩
  · exact own
  · have split : (front ++ ['\n'] ++ line).reverse = line.reverse ++ '\n' :: front.reverse := by
      simp
    rw [split, Rule.indentation_append_newline, own]

/-- Before a statement, the blanks that were passed on its line are all that the line begins
with. -/
theorem Statement.indentedBy (statement : Statement) (before after : Text) :
    Text.IndentedBy (before ++ (statement.source ++ after)) before.length
      (Text.indentation before.reverse) := by
  obtain ⟨above, line, rfl, complete, oneLine⟩ := before.exists_lastLine
  obtain ⟨first, later, source, letter⟩ := statement.exists_source_eq_cons
  have indent := Text.indentation_reverse complete oneLine
  refine ⟨above, line, line.dropWhile isBlank ++ (statement.source ++ after), List.take_left,
    complete, oneLine, ?_, Text.blank_indentation _, ?_⟩
  · rw [indent, ← List.append_assoc (line.takeWhile isBlank), List.takeWhile_append_dropWhile,
      List.append_assoc above, List.drop_left]
  · have ink : isBlank first = false := by
      apply eq_false_of_ne_true
      intro blank
      rw [isBoundary_of_isBlank blank] at letter
      cases letter
    cases remaining : line.dropWhile isBlank with
    | nil =>
        rw [source]
        exact stops_cons.2 ink
    | cons char more =>
        have stopped := List.head?_dropWhile_not isBlank line
        rw [remaining] at stopped
        exact stops_cons.2 (by simpa using stopped)

/-! ## Sites by their positions -/

namespace Rule

/-- A site of the rule begins at the position: a statement of its grammar, after a boundary
character or at the start of the text. -/
def SiteAt (rule : Rule) (text : Text) (position : Nat) (site : Site) : Prop :=
  site.source <+: text.drop position ∧ site.Placed (position == 0) ∧ rule.Admits site.statement

variable {rule : Rule}

theorem siteAt_iff {text : Text} {position : Nat} {site : Site} :
    rule.SiteAt text position site ↔
      (rule.site? (position == 0) (text.drop position)).map Prod.fst = some site := by
  rw [SiteAt, Option.map_eq_some_iff]
  constructor
  · rintro ⟨⟨rest, split⟩, placed, admitted⟩
    exact ⟨(site, rest), site?_eq_some_iff.2 ⟨split.symm, placed, admitted⟩, rfl⟩
  · rintro ⟨⟨_, rest⟩, found, rfl⟩
    obtain ⟨split, placed, admitted⟩ := site?_eq_some_iff.1 found
    exact ⟨⟨rest, split.symm⟩, placed, admitted⟩

instance (text : Text) (position : Nat) (site : Site) :
    Decidable (rule.SiteAt text position site) :=
  decidable_of_iff' _ siteAt_iff

/-- At most one site begins at a position. -/
theorem SiteAt.unique {text : Text} {position : Nat} {site other : Site}
    (found : rule.SiteAt text position site) (again : rule.SiteAt text position other) :
    site = other := by
  rw [siteAt_iff] at found again
  exact Option.some.inj (found.symm.trans again)

/-- The site with which the rest of a text begins. -/
theorem siteAt_append_iff {before rest : Text} {site : Site} :
    rule.SiteAt (before ++ rest) before.length site ↔
      ∃ after, rule.site? (before.length == 0) rest = some (site, after) := by
  simp only [siteAt_iff, List.drop_left, Option.map_eq_some_iff, Prod.exists, exists_and_right,
    exists_eq_right]

end Rule

/-- A site of a text, with the text between the site before it and this one, and the indentation of
the line on which its statement begins. -/
structure Cut where
  gap : Text
  site : Site
  indent : Text
  deriving DecidableEq, Repr

namespace Cut

/-- The gap and the site as written. -/
def source (cut : Cut) : Text :=
  cut.gap ++ cut.site.source

/-- The gap, and what takes the place of the site. The boundary character stays. -/
def rewritten (notifier : Notifier) (ending : LineEnding) (cut : Cut) : Text :=
  cut.gap ++ (cut.site.boundary.toList ++
    ending.text.intercalate (cut.site.statement.renderedLines notifier cut.indent))

end Cut

namespace Rule

/-- The cuts are at the sites of the rule from a position on, the leftmost first: each cut is at a
site, no site begins in the gap before it, and none behind the last cut. -/
inductive Leftmost (rule : Rule) (text : Text) : (position : Nat) → List Cut → Prop where
  | last {position : Nat} (clear : ∀ later ≥ position, ∀ site, ¬rule.SiteAt text later site) :
      Leftmost rule text position []
  | next {position : Nat} {cut : Cut} {later : List Cut}
      (clear : ∀ passed ≥ position, passed < position + cut.gap.length →
        ∀ site, ¬rule.SiteAt text passed site)
      (found : rule.SiteAt text (position + cut.gap.length) cut.site)
      (indented : text.IndentedBy
        (position + cut.gap.length + cut.site.boundary.toList.length) cut.indent)
      (rest : Leftmost rule text (position + cut.source.length) later) :
      Leftmost rule text position (cut :: later)

variable {rule : Rule} {notifier : Notifier} {ending : LineEnding}

/-- A character at which no site begins belongs to the gap that follows it. -/
theorem Leftmost.exists_cons (notifier : Notifier) (ending : LineEnding) {text : Text}
    {position : Nat} {cuts : List Cut} (leftmost : rule.Leftmost text (position + 1) cuts)
    (missing : ∀ site, ¬rule.SiteAt text position site) (char : Char) (last : Text) :
    ∃ cuts' last', rule.Leftmost text position cuts' ∧ cuts'.length = cuts.length ∧
      cuts'.flatMap Cut.source ++ last' = char :: (cuts.flatMap Cut.source ++ last) ∧
      cuts'.flatMap (Cut.rewritten notifier ending) ++ last' =
        char :: (cuts.flatMap (Cut.rewritten notifier ending) ++ last) := by
  have extend {passed : Nat} (bound : passed ≥ position)
      (clear : passed ≥ position + 1 → ∀ site, ¬rule.SiteAt text passed site) :
      ∀ site, ¬rule.SiteAt text passed site := by
    rcases Nat.eq_or_lt_of_le bound with rfl | behind
    · exact missing
    · exact clear behind
  cases leftmost with
  | last clear =>
      refine ⟨[], char :: last, .last ?_, rfl, rfl, rfl⟩
      intro later bound
      exact extend bound (clear later)
  | @next _ cut later clear found indented rest =>
      have shifted : position + (char :: cut.gap).length = position + 1 + cut.gap.length := by
        rw [List.length_cons]
        omega
      refine ⟨{ cut with gap := char :: cut.gap } :: later, last, .next ?_ ?_ ?_ ?_, rfl, ?_, ?_⟩
      · rw [shifted]
        intro passed bound early
        exact extend bound (fun behind => clear passed behind early)
      · rw [shifted]
        exact found
      · rw [shifted]
        exact indented
      · have width : (char :: cut.gap ++ cut.site.source).length = cut.source.length + 1 := by
          rw [Cut.source, List.cons_append, List.length_cons]
        rw [Cut.source, width, Nat.add_comm cut.source.length, ← Nat.add_assoc]
        exact rest
      · simp [Cut.source]
      · simp [Cut.rewritten]

/-- A site that begins at the position is the first to cut at, with nothing before it. -/
theorem Leftmost.cons_site {before rest after : Text} {site : Site} {cuts : List Cut}
    (found : rule.site? (before.length == 0) rest = some (site, after))
    (leftmost : rule.Leftmost (before ++ rest) (before ++ site.source).length cuts) :
    rule.Leftmost (before ++ rest) before.length
      (⟨[], site, Text.indentation (before ++ site.boundary.toList).reverse⟩ :: cuts) := by
  refine .next ?_ (siteAt_append_iff.2 ⟨after, found⟩) ?_ ?_
  · intro passed bound early
    exact absurd early (Nat.not_lt.2 bound)
  · have indented := site.statement.indentedBy (before ++ site.boundary.toList) after
    rw [eq_append_of_site?_eq_some found, Site.source, List.append_assoc,
      ← List.append_assoc before]
    rw [List.length_append] at indented
    exact indented
  · rw [List.length_append] at leftmost
    exact leftmost

/-- The rest of a scan cuts at the leftmost sites of the rest of the text. -/
theorem exists_leftmost (notifier : Notifier) (ending : LineEnding) (atStart : Bool)
    (rest before : Text) (start : atStart = (before.length == 0)) :
    ∃ cuts last, rule.Leftmost (before ++ rest) before.length cuts ∧
      rest = cuts.flatMap Cut.source ++ last ∧
      replaceSites notifier ending before.reverse (rule.segmentsFrom atStart rest) =
        cuts.flatMap (Cut.rewritten notifier ending) ++ last ∧
      (rule.segmentsFrom atStart rest).countP Segment.isSite = cuts.length := by
  fun_induction segmentsFrom rule atStart rest generalizing before with
  | case1 atStart rest site after found ih =>
      have split := eq_append_of_site?_eq_some found
      have nonempty : (before ++ site.source).length ≠ 0 := by
        simp [Site.source, site.statement.source_ne_nil]
      obtain ⟨cuts, last, leftmost, whole, replaced, counted⟩ :=
        ih (before ++ site.source) (beq_false_of_ne nonempty).symm
      have opened : (before ++ site.boundary.toList).reverse =
          site.boundary.toList ++ before.reverse := by
        cases site.boundary <;> simp
      rw [List.append_assoc, ← split] at leftmost
      rw [Site.source, ← List.append_assoc, List.reverse_append, opened] at replaced
      refine ⟨_, last, leftmost.cons_site (start ▸ found), ?_, ?_, ?_⟩
      · rw [List.flatMap_cons, List.append_assoc, ← whole]
        exact split
      · rw [replaceSites, replaced, Statement.replacement_eq_intercalate, List.flatMap_cons,
          Cut.rewritten, opened]
        simp only [List.nil_append, List.append_assoc]
      · rw [List.countP_cons_of_pos rfl, counted]
        rfl
  | case2 atStart missing =>
      refine ⟨[], [], .last ?_, rfl, rfl, rfl⟩
      rintro later bound site ⟨here, _⟩
      rw [List.append_nil, List.drop_eq_nil_of_le bound, List.prefix_nil] at here
      exact site.statement.source_ne_nil (List.append_eq_nil_iff.1 here).2
  | case3 atStart char rest missing ih =>
      obtain ⟨cuts, last, leftmost, split, replaced, counted⟩ := ih (before ++ [char]) (by simp)
      have none : ∀ site, ¬rule.SiteAt (before ++ char :: rest) before.length site := by
        intro site found
        obtain ⟨after, here⟩ := siteAt_append_iff.1 found
        rw [← start, missing] at here
        cases here
      rw [List.append_assoc, List.length_append] at leftmost
      obtain ⟨cuts', last', leftmost', same, source, rewritten⟩ :=
        leftmost.exists_cons notifier ending none char last
      rw [List.reverse_append] at replaced
      refine ⟨cuts', last', leftmost', by rw [source, ← split], ?_, ?_⟩
      · rw [replaceSites, rewritten, ← replaced]
        rfl
      · rw [List.countP_cons_of_neg (by simp [Segment.isSite]), counted, same]

end Rule

/-- A rule cuts a text at its leftmost sites and replaces these, each by the lines that are written
out for its statement. All else stays, and the sites are as many as are counted. No two sites begin
at one position. -/
theorem rule_replaces_leftmost_sites (rule : Rule) (notifier : Notifier) (text : Text) :
    (∃ cuts last, rule.Leftmost text 0 cuts ∧
      text = cuts.flatMap Cut.source ++ last ∧
      rule.apply notifier text =
        cuts.flatMap (Cut.rewritten notifier (LineEnding.ofText text)) ++ last ∧
      rule.siteCount text = cuts.length) ∧
    ∀ position site other, rule.SiteAt text position site → rule.SiteAt text position other →
      site = other := by
  constructor
  · exact rule.exists_leftmost notifier (LineEnding.ofText text) true text [] rfl
  · intro position site other found again
    exact found.unique again

/-- Two guards that touch, on an indented line. -/
def touchingGuards : Text :=
  "\tif (!confirm('a')) return;if (!confirm('b')) return;".toList

/-- The second guard begins inside the first, at its semicolon, and is not cut at. The first is
replaced by four lines, indented like the line on which it stands. -/
theorem rule_replaces_leftmost_sites_touching_guards :
    (∃ cut last, Rule.confirmGuard.Leftmost touchingGuards 0 [cut] ∧
      touchingGuards = cut.source ++ last ∧
      Rule.confirmGuard.apply {} touchingGuards = cut.rewritten {} .newline ++ last) ∧
    Rule.confirmGuard.apply {} touchingGuards =
      "\tconst confirmed = await new Promise((resolve) => \x7b\n".toList ++
        ("\t  notificationManager.confirm('a', resolve);\n\t\x7d);\n".toList ++
          "\tif (!confirmed) return;if (!confirm('b')) return;".toList) ∧
    ∃ site, Rule.confirmGuard.SiteAt touchingGuards 26 site ∧
      ∀ other, Rule.confirmGuard.SiteAt touchingGuards 26 other → site = other := by
  have ⟨⟨cuts, last, leftmost, split, rewritten, counted⟩, single⟩ :=
    rule_replaces_leftmost_sites .confirmGuard {} touchingGuards
  have one : Rule.confirmGuard.siteCount touchingGuards = 1 := by
    decide +kernel
  have newline : LineEnding.ofText touchingGuards = .newline := by
    decide +kernel
  obtain ⟨cut, rfl⟩ := List.length_eq_one_iff.1 (counted.symm.trans one)
  rw [newline] at rewritten
  have ⟨second, found⟩ := Option.isSome_iff_exists.1
    (show ((Rule.confirmGuard.site? false (touchingGuards.drop 26)).map
      Prod.fst).isSome = true by decide +kernel)
  have here : Rule.confirmGuard.SiteAt touchingGuards 26 second := Rule.siteAt_iff.2 found
  refine ⟨⟨cut, last, leftmost, ?_, ?_⟩, by decide +kernel, second, here,
    fun other again => single 26 second other here again⟩
  · simpa using split
  · simpa using rewritten

end DialogCodemod
