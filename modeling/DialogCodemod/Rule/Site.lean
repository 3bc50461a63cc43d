import DialogCodemod.Rule.Basic

/-!
# Call sites

A rule applies to a statement at the start of the text or after a boundary character. Statement and
boundary together are a site. Sites are looked for from left to right, and a site begins where the
one before it has ended at the earliest; so the boundary of a site is never a character of another.

`Rule.segments` cuts a text into its sites and the characters between them. The main statement says
that nothing is lost: the sources of the segments, put together, are the text.
-/

namespace DialogCodemod

/-- A statement that a rule replaces, with the boundary character before it. Only the start of the
text has no boundary. -/
structure Site where
  boundary : Option Char
  statement : Statement
  deriving DecidableEq, Repr

/-- The site as written. -/
def Site.source (site : Site) : Text :=
  site.boundary.toList ++ site.statement.source

/-- A piece of a text under a rule. -/
inductive Segment where
  | plain (char : Char)
  | site (site : Site)
  deriving DecidableEq, Repr

/-- The segment as written. -/
def Segment.source : Segment → Text
  | .plain char => [char]
  | .site found => found.source

/-- Whether the segment is a site. -/
def Segment.isSite : Segment → Bool
  | .plain _ => false
  | .site _ => true

namespace Rule

/-- The site that begins with a statement at the very start of the text. -/
def siteAtStart? (rule : Rule) (text : Text) : Option (Site × Text) :=
  (rule.read.run text).map fun (statement, rest) => ({ boundary := none, statement }, rest)

/-- The site whose boundary is the first character of the text. -/
def siteAtBoundary? (rule : Rule) : Text → Option (Site × Text)
  | [] => none
  | char :: text =>
      if isBoundary char then
        (rule.read.run text).map fun (statement, rest) => ({ boundary := some char, statement }, rest)
      else none

/-- The site with which the text begins, and the rest of the text. -/
def site? (rule : Rule) (atStart : Bool) (text : Text) : Option (Site × Text) :=
  (if atStart then rule.siteAtStart? text else none).or (rule.siteAtBoundary? text)

theorem eq_append_of_site?_eq_some {rule : Rule} {atStart : Bool} {text rest : Text} {site : Site}
    (found : rule.site? atStart text = some (site, rest)) : text = site.source ++ rest := by
  rcases Option.or_eq_some_iff.1 found with start | ⟨_, boundary⟩
  · split at start
    · obtain ⟨⟨statement, _⟩, success, same⟩ := Option.map_eq_some_iff.1 start
      simp only [Prod.mk.injEq] at same
      obtain ⟨rfl, rfl⟩ := same
      exact eq_append_of_run_read success
    · cases start
  · cases text with
    | nil => cases boundary
    | cons char text =>
        simp only [siteAtBoundary?] at boundary
        split at boundary
        · obtain ⟨⟨statement, _⟩, success, same⟩ := Option.map_eq_some_iff.1 boundary
          simp only [Prod.mk.injEq] at same
          obtain ⟨rfl, rfl⟩ := same
          simp [Site.source, eq_append_of_run_read success]
        · cases boundary

/-- A site takes at least one character of the text. -/
theorem length_lt_of_site?_eq_some {rule : Rule} {atStart : Bool} {text rest : Text} {site : Site}
    (found : rule.site? atStart text = some (site, rest)) : rest.length < text.length := by
  have nonempty := List.length_pos_iff.2 site.statement.source_ne_nil
  simp only [eq_append_of_site?_eq_some found, Site.source, List.length_append]
  omega

/-- Cut the rest of a text into segments. -/
def segmentsFrom (rule : Rule) (atStart : Bool) (text : Text) : List Segment :=
  match _found : rule.site? atStart text with
  | some (site, rest) => .site site :: rule.segmentsFrom false rest
  | none =>
      match text with
      | [] => []
      | char :: rest => .plain char :: rule.segmentsFrom false rest
termination_by text.length
decreasing_by
  · exact length_lt_of_site?_eq_some _found
  · simp

/-- Cut a text into the sites of the rule and the characters between them. -/
def segments (rule : Rule) (text : Text) : List Segment :=
  rule.segmentsFrom true text

/-- Nothing is lost by cutting. -/
theorem flatMap_source_segmentsFrom (rule : Rule) (atStart : Bool) (text : Text) :
    (rule.segmentsFrom atStart text).flatMap Segment.source = text := by
  fun_induction segmentsFrom rule atStart text with
  | case1 atStart text site rest found ih =>
      simp [Segment.source, ih, eq_append_of_site?_eq_some found]
  | case2 => rfl
  | case3 atStart char rest found ih => simp [Segment.source, ih]

@[simp] theorem flatMap_source_segments (rule : Rule) (text : Text) :
    (rule.segments text).flatMap Segment.source = text :=
  rule.flatMap_source_segmentsFrom true text

end Rule

end DialogCodemod
