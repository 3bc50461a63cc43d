import DialogCodemod.Notifier
import DialogCodemod.Rule.Site
import DialogCodemod.Text.Line

/-!
# Replacements

What stands in a converted text in place of a site. An alert becomes a call of the notifier. A
question becomes a promise that is awaited, spread over lines that take their indentation from the
line on which the statement begins and their line endings from the text.
-/

namespace DialogCodemod

/-- The indentation and the line ending that new lines take from their surroundings. -/
structure Layout where
  indent : Text
  ending : LineEnding
  deriving DecidableEq, Repr

namespace Layout

/-- A line break up to the indentation of the surroundings. -/
def lineBreak (layout : Layout) : Text :=
  layout.ending.text ++ layout.indent

/-- The layout of a block inside the surroundings. -/
def nested (layout : Layout) : Layout :=
  { layout with indent := layout.indent ++ "  ".toList }

end Layout

namespace Notifier

/-- The call that shows a message. -/
def showCall (notifier : Notifier) (message : Literal) : Text :=
  notifier.name ++ ".show(".toList ++ message.source ++ ", '".toList ++ notifier.severity ++
    "')".toList

/-- The expression that asks a question and waits for the answer. -/
def awaitedAnswer (notifier : Notifier) (layout : Layout) (message : Literal) : Text :=
  "await new Promise((resolve) => \x7b".toList ++ layout.nested.lineBreak ++ notifier.name ++
    ".confirm(".toList ++ message.source ++ ", resolve);".toList ++ layout.lineBreak ++
    "\x7d)".toList

/-- The statements that ask a question and return unless the user confirms. -/
def awaitedGuard (notifier : Notifier) (layout : Layout) (message : Literal) : Text :=
  "const confirmed = ".toList ++ notifier.awaitedAnswer layout message ++ ";".toList ++
    layout.lineBreak ++ "if (!confirmed) return;".toList

end Notifier

namespace Statement

/-- What replaces a statement. A guard in an `else` branch becomes a block, because more than one
statement takes its place. -/
def replacement (notifier : Notifier) (layout : Layout) : Statement → Text
  | .alert written => notifier.showCall written.message
  | .guard { elseGap := none, call, .. } => notifier.awaitedGuard layout call.message
  | .guard { elseGap := some _, call, .. } =>
      "else \x7b".toList ++ layout.nested.lineBreak ++
        notifier.awaitedGuard layout.nested call.message ++ layout.lineBreak ++ "\x7d".toList
  | .binding written =>
      written.keyword.source ++ " ".toList ++ written.name ++ " = ".toList ++
        notifier.awaitedAnswer layout written.call.message

end Statement

/-- Put replacements in place of the sites. The text before the segments, which determines the
indentation, is given in reverse. -/
def replaceSites (notifier : Notifier) (ending : LineEnding) :
    (before : Text) → List Segment → Text
  | _, [] => []
  | before, .plain char :: later => char :: replaceSites notifier ending (char :: before) later
  | before, .site site :: later =>
      let opened := site.boundary.toList ++ before
      site.boundary.toList ++
        site.statement.replacement notifier { indent := Text.indentation opened, ending } ++
        replaceSites notifier ending (site.statement.source.reverse ++ opened) later

namespace Rule

/-- The number of sites of the rule in a text. -/
def siteCount (rule : Rule) (text : Text) : Nat :=
  (rule.segments text).countP Segment.isSite

/-- Replace all sites of the rule in a text. -/
def apply (rule : Rule) (notifier : Notifier) (text : Text) : Text :=
  replaceSites notifier (LineEnding.ofText text) [] (rule.segments text)

/-- The application of one rule among several. -/
structure Step where
  rule : Rule
  /-- The number of sites that were replaced. -/
  count : Nat
  /-- The text after the step. -/
  text : Text
  deriving DecidableEq, Repr

/-- The number of sites that steps replaced. -/
def Step.total : List Step → Nat
  | [] => 0
  | step :: later => step.count + total later

/-- Apply rules one after the other, each to the result of the one before. -/
def steps (notifier : Notifier) : List Rule → Text → List Step
  | [], _ => []
  | rule :: later, text =>
      let result := rule.apply notifier text
      { rule, count := rule.siteCount text, text := result } :: steps notifier later result

/-- The text after applying rules one after the other. -/
def applyAll (notifier : Notifier) (rules : List Rule) (text : Text) : Text :=
  rules.foldl (fun current rule => rule.apply notifier current) text

/-- The text after the last step is the text after all rules. -/
theorem foldl_text_steps (notifier : Notifier) (rules : List Rule) (text : Text) :
    (steps notifier rules text).foldl (fun _ step => step.text) text =
      applyAll notifier rules text := by
  induction rules generalizing text with
  | nil => rfl
  | cons rule later ih => exact ih (rule.apply notifier text)

end Rule

end DialogCodemod
