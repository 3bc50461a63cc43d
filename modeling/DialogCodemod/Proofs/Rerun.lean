import DialogCodemod.Proofs.ImportOnce
import DialogCodemod.Proofs.SitesApart

/-!
# Converting again

A second conversion may find statements that the first one hid or left over: a boundary serves one
statement only, and a message may itself call a dialog. A text on which a conversion changes nothing
is one without sites. A text in which the sites of each rule lie apart becomes such a text at once,
and so does one with at most one call on each line. In general each conversion that changes a text
takes a call away or adds the import, so that repeated conversions come to rest.
-/

namespace DialogCodemod

/-! ## Texts without sites -/

theorem Rule.apply_of_siteCount_eq_zero {rule : Rule} {text : Text}
    (clear : rule.siteCount text = 0) (notifier : Notifier) : rule.apply notifier text = text := by
  rw [apply_eq_rewrite]
  exact rewrite_of_siteCount_eq_zero clear

/-- Rules that find no site change nothing. -/
theorem Rule.applyAll_of_siteCount_eq_zero {notifier : Notifier} {rules : List Rule} {text : Text}
    (clear : ∀ rule ∈ rules, rule.siteCount text = 0) : applyAll notifier rules text = text := by
  induction rules with
  | nil => rfl
  | cons rule rules ih =>
      rw [applyAll, List.foldl_cons, apply_of_siteCount_eq_zero (clear rule List.mem_cons_self)]
      exact ih (fun later member => clear later (List.mem_cons_of_mem rule member))

/-- If no step replaces anything, no rule has a site in the text the steps began with. -/
theorem Rule.siteCount_eq_zero_of_total_steps {notifier : Notifier} {rules : List Rule}
    {text : Text} (none : Step.total (steps notifier rules text) = 0) :
    ∀ rule ∈ rules, rule.siteCount text = 0 := by
  induction rules with
  | nil => simp
  | cons rule rules ih =>
      rw [steps, Step.total, Nat.add_eq_zero_iff] at none
      have clear : rule.siteCount text = 0 := none.1
      rw [apply_of_siteCount_eq_zero clear] at none
      intro later member
      rcases List.mem_cons.1 member with rfl | member
      · exact clear
      · exact ih none.2 later member

theorem Rule.mem_all (rule : Rule) : rule ∈ all := by
  cases rule <;> decide

/-- On a text with the import, a conversion changes nothing exactly when no rule has a site. -/
theorem Conversion.text_eq_self_iff {text : Text}
    (imported : text.mentions ({} : Notifier).name = true) :
    (∀ conversion ∈ convert? {} text, conversion.text = text) ↔
      ∀ rule : Rule, rule.siteCount text = 0 := by
  constructor
  · intro unchanged rule
    cases converted : convert? {} text with
    | none =>
        exact Rule.siteCount_eq_zero_of_callCount_eq_zero (convert?_eq_none_iff.1 converted) rule
    | some conversion =>
        have same : conversion.text = text := unchanged conversion converted
        have counted := Conversion.callCount_text converted
        rw [same, Conversion.replacementCount_eq converted,
          Conversion.imported_eq_self imported converted] at counted
        exact Rule.siteCount_eq_zero_of_total_steps (Nat.add_eq_left.1 counted) rule rule.mem_all
  · intro clear conversion converted
    rw [Conversion.text_eq_applyAll converted, Conversion.imported_eq_self imported converted]
    exact Rule.applyAll_of_siteCount_eq_zero (fun rule _ => clear rule)

/-- What holds of every line of a text holds of every line of the text with the import, if it holds
of the import and is kept when the last line is ended. -/
theorem Import.forall_mem_lines_place {holds : Text → Prop} {notifier : Notifier} {text : Text}
    (lines : ∀ line ∈ text.lines, holds line)
    (ended : ∀ line ∈ (text ++ (LineEnding.ofText text).text).lines, holds line)
    (statement : ∀ line ∈ (notifier.importStatement ++ (LineEnding.ofText text).text).lines,
      holds line)
    (placement : Option Nat) : ∀ line ∈ (place notifier text placement).lines, holds line := by
  cases placement with
  | none => exact lines
  | some position =>
      obtain ⟨before, after, inserted, complete, origin⟩ :=
        exists_insertLine_eq text position notifier.importStatement
      have own := completeLines_append_ending notifier.importStatement (LineEnding.ofText text)
      rw [place, inserted, Text.lines_append complete, ← List.append_assoc, Text.lines_append own,
        List.forall_mem_append, List.forall_mem_append]
      rcases origin with whole | ⟨longer, rest⟩
      · rw [whole, Text.lines_append complete, List.forall_mem_append] at lines
        exact ⟨lines.1, statement, lines.2⟩
      · rw [longer, rest]
        exact ⟨ended, statement, by simp [Text.lines]⟩

/-! ## The second conversion -/

/-- The import keeps sites apart. -/
theorem Rule.Apart.place {rule : Rule} {text : Text} (apart : rule.Apart text)
    (placement : Option Nat) : rule.Apart (Import.place {} text placement) := by
  have quiet :
      callCount (({} : Notifier).importStatement ++ (LineEnding.ofText text).text) = 0 := by
    cases LineEnding.ofText text <;> decide +kernel
  have own : rule.Apart (({} : Notifier).importStatement ++ (LineEnding.ofText text).text) :=
    apart_of_callCount_le_one (by omega)
  have ended := apart.append_ending (LineEnding.ofText text)
  rw [apart_iff_forall_lines] at apart own ended ⊢
  exact Import.forall_mem_lines_place apart ended own placement

/-- A conversion leaves no site if the sites of each rule lie apart. -/
theorem Conversion.siteCount_text_eq_zero {text : Text} {conversion : Conversion}
    (converted : convert? {} text = some conversion) (apart : ∀ rule : Rule, rule.Apart text)
    (rule : Rule) : rule.siteCount conversion.text = 0 := by
  rw [text_eq_applyAll converted, imported_eq_place converted]
  have cleared := Rule.clear_applyAll
    (fun rule => (apart rule).place (Import.placement? {} text)) Rule.all
  exact (cleared rule rule.mem_all).siteCount_eq_zero

/-- A second conversion changes nothing exactly when the first leaves no site. The first leaves none
if no site of a rule begins inside another site of the same rule, as is the case where each line
calls at most one dialog. A second conversion finds nothing to convert exactly when every call was
replaced. -/
theorem second_conversion_unchanged_iff {text : Text} {conversion : Conversion}
    (converted : convert? {} text = some conversion) :
    ((∀ again ∈ convert? {} conversion.text, again.text = conversion.text) ↔
      ∀ rule : Rule, rule.siteCount conversion.text = 0) ∧
    ((∀ rule : Rule, rule.Apart text) →
      ∀ again ∈ convert? {} conversion.text, again.text = conversion.text) ∧
    ((∀ line ∈ text.lines, callCount line ≤ 1) → ∀ rule : Rule, rule.Apart text) ∧
    (convert? {} conversion.text = none ↔ conversion.replacementCount = callCount text) := by
  have unchanged := Conversion.text_eq_self_iff (Conversion.mentions_text converted)
  refine ⟨unchanged, ?_, ?_, ?_⟩
  · intro apart
    exact unchanged.2 (Conversion.siteCount_text_eq_zero converted apart)
  · intro sparse rule
    rw [Rule.apart_iff_forall_lines]
    intro line member
    exact Rule.apart_of_callCount_le_one (sparse line member)
  · have counted := Conversion.callCount_text converted
    rw [convert?_eq_none_iff]
    omega

/-- Two alerts share a line and touch. Both are replaced, and a second conversion finds nothing. -/
theorem second_conversion_unchanged_iff_two_alerts :
    ∃ conversion, convert? {} "alert('a');alert('b');".toList = some conversion ∧
      (∀ rule : Rule, rule.Apart "alert('a');alert('b');".toList) ∧
      (∀ again ∈ convert? {} conversion.text, again.text = conversion.text) ∧
      (∀ rule : Rule, rule.siteCount conversion.text = 0) ∧
      convert? {} conversion.text = none := by
  have ⟨conversion, converted⟩ := Option.isSome_iff_exists.1
    (show (convert? {} "alert('a');alert('b');".toList).isSome = true by decide +kernel)
  have ⟨unchanged, settled, _, found⟩ := second_conversion_unchanged_iff converted
  have apart : ∀ rule : Rule, rule.Apart "alert('a');alert('b');".toList := by
    intro rule
    cases rule <;> decide +kernel
  have all_replaced : (convert? {} "alert('a');alert('b');".toList).map
      Conversion.replacementCount = some 2 := by
    decide +kernel
  rw [converted] at all_replaced
  refine ⟨conversion, converted, apart, settled apart, unchanged.1 (settled apart), found.2 ?_⟩
  rw [Option.some.inj all_replaced]
  decide +kernel

/-- Two guards touch. The first takes the semicolon that the second needs before it, so that the
second is replaced only when the result is converted again. -/
theorem second_conversion_changes_touching_guards :
    ∃ conversion again,
      convert? {} "if (!confirm('a')) return;if (!confirm('b')) return;\n".toList =
        some conversion ∧
      convert? {} conversion.text = some again ∧ again.text ≠ conversion.text := by
  have changed : (convert? {} "if (!confirm('a')) return;if (!confirm('b')) return;\n".toList).any
      (fun conversion => (convert? {} conversion.text).any
        (fun again => again.text != conversion.text)) = true := by
    decide +kernel
  have ⟨conversion, converted, later⟩ := (Option.any_eq_true _ _).1 changed
  have ⟨again, convertedAgain, different⟩ := (Option.any_eq_true _ _).1 later
  exact ⟨conversion, again, converted, convertedAgain, bne_iff_ne.1 different⟩

/-! ## Repeated conversions -/

/-- The text after repeated conversions. -/
def textAfter (notifier : Notifier) (times : Nat) (text : Text) : Text :=
  (convertRepeatedly notifier times text).foldl
    (fun current run => (run.map Conversion.text).getD current) text

/-- The number of replacements of repeated conversions. -/
def totalReplacements (notifier : Notifier) (times : Nat) (text : Text) : Nat :=
  (convertRepeatedly notifier times text).foldr
    (fun run total => (run.map Conversion.replacementCount).getD 0 + total) 0

theorem textAfter_succ {notifier : Notifier} {text : Text} {conversion : Conversion}
    (converted : convert? notifier text = some conversion) (times : Nat) :
    textAfter notifier (times + 1) text = textAfter notifier times conversion.text := by
  rw [textAfter, convertRepeatedly, converted]
  rfl

/-- A text that a conversion leaves as it is stays for good. -/
theorem textAfter_eq_self {notifier : Notifier} {text : Text}
    (unchanged : ∀ conversion ∈ convert? notifier text, conversion.text = text) (times : Nat) :
    textAfter notifier times text = text := by
  induction times with
  | zero => rfl
  | succ times ih =>
      cases converted : convert? notifier text with
      | none =>
          rw [textAfter, convertRepeatedly, converted]
          rfl
      | some conversion => rw [textAfter_succ converted, unchanged conversion converted, ih]

/-- The calls that are left and the replacements made add up to the calls of the text. -/
theorem callCount_textAfter (times : Nat) (text : Text) :
    callCount (textAfter {} times text) + totalReplacements {} times text = callCount text := by
  induction times generalizing text with
  | zero => rfl
  | succ times ih =>
      cases converted : convert? {} text with
      | none =>
          have unchanged : ∀ conversion ∈ convert? {} text, conversion.text = text := by
            rw [converted]
            intro conversion member
            cases member
          rw [textAfter_eq_self unchanged, totalReplacements, convertRepeatedly, converted]
          rfl
      | some conversion =>
          have first := Conversion.callCount_text converted
          have later := ih conversion.text
          rw [totalReplacements] at later
          rw [textAfter_succ converted, totalReplacements, convertRepeatedly, converted]
          simp only [List.foldr_cons, Option.map_some, Option.getD_some]
          omega

/-- What conversions can still take away: the calls, and the absence of the import. -/
def pending (text : Text) : Nat :=
  callCount text + (!text.mentions ({} : Notifier).name).toNat

/-- A conversion that changes the text has less left to do. -/
theorem Conversion.pending_text_lt {text : Text} {conversion : Conversion}
    (converted : convert? {} text = some conversion) (changed : conversion.text ≠ text) :
    pending conversion.text < pending text := by
  have counted := callCount_text converted
  have imported := mentions_text converted
  rw [pending, pending, imported]
  cases before : text.mentions ({} : Notifier).name with
  | false =>
      simp
      omega
  | true =>
      by_cases none : conversion.replacementCount = 0
      · rw [replacementCount_eq converted] at none
        have clear := Rule.siteCount_eq_zero_of_total_steps none
        rw [text_eq_applyAll converted, Rule.applyAll_of_siteCount_eq_zero clear,
          imported_eq_self before converted] at changed
        exact absurd rfl changed
      · simp
        omega

/-- Conversions change the text as long as something is pending, at most once for each. -/
theorem exists_settled (text : Text) :
    ∃ settled ≤ pending text,
      (∀ times < settled, textAfter {} (times + 1) text ≠ textAfter {} times text) ∧
      ∀ times ≥ settled, textAfter {} times text = textAfter {} settled text := by
  induction measure : pending text using Nat.strongRecOn generalizing text with
  | ind bound ih =>
      by_cases unchanged : ∀ conversion ∈ convert? {} text, conversion.text = text
      · refine ⟨0, Nat.zero_le bound, by simp, ?_⟩
        intro times _
        rw [textAfter_eq_self unchanged, textAfter_eq_self unchanged]
      · simp only [Option.mem_def, not_forall] at unchanged
        obtain ⟨conversion, converted, changed⟩ := unchanged
        have smaller := Conversion.pending_text_lt converted changed
        rw [measure] at smaller
        obtain ⟨settled, few, changes, rests⟩ := ih _ smaller conversion.text rfl
        refine ⟨settled + 1, by omega, ?_, ?_⟩
        · intro times early
          cases times with
          | zero =>
              rw [textAfter_succ converted]
              exact changed
          | succ times =>
              rw [textAfter_succ converted, textAfter_succ converted]
              exact changes times (by omega)
        · intro times late
          cases times with
          | zero => omega
          | succ times =>
              rw [textAfter_succ converted, textAfter_succ converted]
              exact rests times (by omega)

/-- Repeated conversions come to rest. They replace no more calls than the text has openings of
dialogs, and the text changes at most once for each opening and once for the import. -/
theorem repeated_conversion_comes_to_rest (text : Text) :
    (∀ times, totalReplacements {} times text ≤
      text.occurrences "alert(".toList + text.occurrences "confirm(".toList) ∧
    ∃ settled ≤ text.occurrences "alert(".toList + text.occurrences "confirm(".toList + 1,
      (∀ times < settled, textAfter {} (times + 1) text ≠ textAfter {} times text) ∧
      ∀ times ≥ settled, textAfter {} times text = textAfter {} settled text := by
  have bound : callCount text ≤
      text.occurrences "alert(".toList + text.occurrences "confirm(".toList :=
    callCount_le_occurrences text
  constructor
  · intro times
    have counted := callCount_textAfter times text
    omega
  · obtain ⟨settled, few, changes, rests⟩ := exists_settled text
    have single := Bool.toNat_le (!text.mentions ({} : Notifier).name)
    rw [pending] at few
    exact ⟨settled, by omega, changes, rests⟩

end DialogCodemod
