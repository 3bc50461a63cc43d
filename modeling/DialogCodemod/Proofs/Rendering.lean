import DialogCodemod.Proofs.Scan

/-!
# Lines that take the place of a statement

What replaces a statement is laid out over lines. They are written out here, once for every place
that speaks of them: the replacement is these lines joined by the line ending of the text.
-/

namespace DialogCodemod

/-- The lines that take the place of a statement. All but the first begin with the indentation of
the line on which the statement begins. -/
def Statement.renderedLines (notifier : Notifier) (indent : Text) : Statement → List Text
  | .alert written =>
      [notifier.name ++ ".show(".toList ++ written.message.source ++ ", '".toList ++
        notifier.severity ++ "')".toList]
  | .guard { elseGap := none, call, .. } =>
      ["const confirmed = await new Promise((resolve) => \x7b".toList,
        indent ++ "  ".toList ++ notifier.name ++ ".confirm(".toList ++ call.message.source ++
          ", resolve);".toList,
        indent ++ "\x7d);".toList,
        indent ++ "if (!confirmed) return;".toList]
  | .guard { elseGap := some _, call, .. } =>
      ["else \x7b".toList,
        indent ++ "  const confirmed = await new Promise((resolve) => \x7b".toList,
        indent ++ "    ".toList ++ notifier.name ++ ".confirm(".toList ++ call.message.source ++
          ", resolve);".toList,
        indent ++ "  \x7d);".toList,
        indent ++ "  if (!confirmed) return;".toList,
        indent ++ "\x7d".toList]
  | .binding written =>
      [written.keyword.source ++ " ".toList ++ written.name ++
          " = await new Promise((resolve) => \x7b".toList,
        indent ++ "  ".toList ++ notifier.name ++ ".confirm(".toList ++
          written.call.message.source ++ ", resolve);".toList,
        indent ++ "\x7d)".toList]

theorem Statement.replacement_eq_intercalate (notifier : Notifier) (layout : Layout)
    (statement : Statement) :
    statement.replacement notifier layout =
      layout.ending.text.intercalate (statement.renderedLines notifier layout.indent) := by
  -- The fixed words are split where the indentation of a nested block or a question begins.
  have question : "const confirmed = await new Promise((resolve) => \x7b".toList =
      "const confirmed = ".toList ++ "await new Promise((resolve) => \x7b".toList := by
    decide +kernel
  have answered : "\x7d);".toList = "\x7d)".toList ++ ";".toList := by
    decide +kernel
  cases statement with
  | alert written =>
      unfold replacement renderedLines Notifier.showCall
      rw [List.intercalate_singleton]
  | guard written =>
      obtain ⟨elseGap, ifGap, openGap, notGap, call, callGap, closeGap, returnGap⟩ := written
      cases elseGap with
      | none =>
          unfold replacement renderedLines Notifier.awaitedGuard Notifier.awaitedAnswer
          simp only [List.intercalate_cons_cons, List.intercalate_singleton, List.append_assoc,
            Layout.lineBreak, Layout.nested, question, answered]
      | some gap =>
          have nestedQuestion : "  const confirmed = await new Promise((resolve) => \x7b".toList =
              "  ".toList ++ "const confirmed = await new Promise((resolve) => \x7b".toList := by
            decide +kernel
          have nestedCall : "    ".toList = "  ".toList ++ "  ".toList := by
            decide +kernel
          have nestedAnswer : "  \x7d);".toList = "  ".toList ++ "\x7d);".toList := by
            decide +kernel
          have nestedReturn : "  if (!confirmed) return;".toList =
              "  ".toList ++ "if (!confirmed) return;".toList := by
            decide +kernel
          unfold replacement renderedLines Notifier.awaitedGuard Notifier.awaitedAnswer
          simp only [List.intercalate_cons_cons, List.intercalate_singleton, List.append_assoc,
            Layout.lineBreak, Layout.nested, nestedQuestion, nestedCall, nestedAnswer, nestedReturn,
            question, answered]
  | binding written =>
      have bound : " = await new Promise((resolve) => \x7b".toList =
          " = ".toList ++ "await new Promise((resolve) => \x7b".toList := by
        decide +kernel
      unfold replacement renderedLines Notifier.awaitedAnswer
      simp only [List.intercalate_cons_cons, List.intercalate_singleton, List.append_assoc,
        Layout.lineBreak, Layout.nested, bound]

namespace Statement

variable {notifier : Notifier} {statement : Statement} {char : Char}

/-- The message of a statement is written in it. -/
theorem message_subset_source (statement : Statement) :
    statement.message.source ⊆ statement.source := by
  intro char member
  cases statement with
  | alert written =>
      simp [source, Call.source, show char ∈ written.message.source from member]
  | guard written =>
      simp [source, Guard.source, Call.source,
        show char ∈ written.call.message.source from member]
  | binding written =>
      simp [source, Binding.source, Call.source,
        show char ∈ written.call.message.source from member]

/-- The lines that take the place of a statement hold no part of a line ending. -/
theorem notMem_renderedLines (ends : EndsLine char) (inName : char ∉ notifier.name)
    (inSeverity : char ∉ notifier.severity) {indent : Text} (blank : Blank indent)
    (absent : char ∉ statement.source) :
    ∀ line ∈ statement.renderedLines notifier indent, char ∉ line := by
  have inMessage : char ∉ statement.message.source := fun member =>
    absent (statement.message_subset_source member)
  have inIndent := blank.notMem ends
  cases statement with
  | alert written =>
      rcases ends with rfl | rfl <;>
        simp [renderedLines, inName, inSeverity,
          show _ ∉ written.message.source from inMessage]
  | guard written =>
      obtain ⟨elseGap, ifGap, openGap, notGap, call, callGap, closeGap, returnGap⟩ := written
      cases elseGap <;> rcases ends with rfl | rfl <;>
        simp [renderedLines, inName, inIndent, show _ ∉ call.message.source from inMessage]
  | binding written =>
      have keyword : char ∉ written.keyword.source := by
        rcases ends with rfl | rfl <;> cases written.keyword <;> decide
      have name : char ∉ written.name := by
        intro member
        apply absent
        simp [source, Binding.source, member]
      rcases ends with rfl | rfl <;>
        simp [renderedLines, inName, inIndent, keyword, name,
          show _ ∉ written.call.message.source from inMessage]

end Statement

/-! ## Lines with something around them -/

/-- Lines with a text before the first of them and a text behind the last. -/
def enclose (before behind : Text) : List Text → List Text
  | [] => [before ++ behind]
  | [line] => [before ++ (line ++ behind)]
  | line :: next :: later => (before ++ line) :: enclose [] behind (next :: later)

section Enclose

variable (before behind : Text) (lines : List Text)

theorem enclose_ne_nil : enclose before behind lines ≠ [] := by
  fun_cases enclose before behind lines <;> simp

/-- Joining comes to the same before and after the texts are added. -/
theorem intercalate_enclose (separator : Text) :
    separator.intercalate (enclose before behind lines) =
      before ++ (separator.intercalate lines ++ behind) := by
  fun_induction enclose before behind lines with
  | case1 => simp
  | case2 => simp
  | case3 before line next later ih =>
      rw [List.intercalate_cons_of_ne_nil (enclose_ne_nil [] behind _), ih,
        List.intercalate_cons_cons]
      simp only [List.append_assoc, List.nil_append]

theorem notMem_enclose {char : Char} (inBefore : char ∉ before) (inBehind : char ∉ behind)
    (inLines : ∀ line ∈ lines, char ∉ line) :
    ∀ line ∈ enclose before behind lines, char ∉ line := by
  fun_induction enclose before behind lines with
  | case1 => simp [inBefore, inBehind]
  | case2 before line => simp [inBefore, inBehind, inLines line]
  | case3 before line next later ih =>
      rw [List.forall_mem_cons] at inLines
      rw [List.forall_mem_cons]
      exact ⟨by simp [inBefore, inLines.1], ih List.not_mem_nil inLines.2⟩

end Enclose

end DialogCodemod
