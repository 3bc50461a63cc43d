import DialogCodemod.Proofs.FileConversion
import DialogCodemod.Proofs.Rerun

/-!
# Reports are faithful to the text

The report on a file follows from comparing two texts, while the numbers in it come from the steps
of the conversion. A rule may write what an earlier one has dropped, so the texts alone do not show
whether the steps did anything. The calls do: each replacement takes one away for good. Hence a file
is reported as unchanged exactly when no rule has replaced anything and no import was added.
-/

namespace DialogCodemod

namespace Rule

theorem Step.total_eq_zero_iff {steps : List Step} :
    Step.total steps = 0 ↔ ∀ step ∈ steps, step.count = 0 := by
  induction steps with
  | nil => simp [total]
  | cons step later ih => rw [total, Nat.add_eq_zero_iff, ih, List.forall_mem_cons]

/-- Where no rule has a site, every step leaves the text as it is. -/
theorem text_eq_of_mem_steps {notifier : Notifier} {rules : List Rule} {text : Text}
    (clear : ∀ rule ∈ rules, rule.siteCount text = 0) :
    ∀ step ∈ steps notifier rules text, step.text = text := by
  induction rules with
  | nil => simp [steps]
  | cons rule rules ih =>
      rw [List.forall_mem_cons] at clear
      rw [steps, apply_of_siteCount_eq_zero clear.1, List.forall_mem_cons]
      exact ⟨rfl, ih clear.2⟩

end Rule

namespace Conversion

variable {text : Text} {conversion : Conversion}

/-- Where the numbers say that nothing was done, there was nothing to do. -/
theorem mentions_and_siteCount_eq_zero (converted : convert? {} text = some conversion)
    (noneReplaced : conversion.replacementCount = 0)
    (noImport : conversion.importInserted = false) :
    text.mentions ({} : Notifier).name = true ∧ ∀ rule : Rule, rule.siteCount text = 0 := by
  rw [importInserted_eq converted, Bool.not_eq_false'] at noImport
  rw [replacementCount_eq converted, imported_eq_self noImport converted] at noneReplaced
  have clear := Rule.siteCount_eq_zero_of_total_steps noneReplaced
  exact ⟨noImport, fun rule => clear rule rule.mem_all⟩

/-- Conversion leaves a text as it is exactly when the numbers say so. -/
theorem text_eq_iff (converted : convert? {} text = some conversion) :
    conversion.text = text ↔
      conversion.replacementCount = 0 ∧ conversion.importInserted = false := by
  constructor
  · intro same
    have counted := callCount_text converted
    have mentioned := mentions_text converted
    rw [same] at counted mentioned
    refine ⟨Nat.add_eq_left.1 counted, ?_⟩
    rw [importInserted_eq converted, mentioned]
    rfl
  · rintro ⟨noneReplaced, noImport⟩
    have ⟨mentioned, clear⟩ := mentions_and_siteCount_eq_zero converted noneReplaced noImport
    exact (text_eq_self_iff mentioned).2 clear conversion converted

/-- A text that conversion leaves as it is goes through every step unchanged, and no step replaces
anything. -/
theorem text_eq_iff_forall_steps (converted : convert? {} text = some conversion) :
    conversion.text = text ↔
      conversion.importInserted = false ∧
      ∀ step ∈ conversion.steps, step.count = 0 ∧ step.text = text := by
  rw [text_eq_iff converted]
  constructor
  · rintro ⟨noneReplaced, noImport⟩
    have ⟨mentioned, clear⟩ := mentions_and_siteCount_eq_zero converted noneReplaced noImport
    have kept : ∀ step ∈ conversion.steps, step.text = text := by
      rw [(convert?_eq_some_iff.1 converted).2.2.2.2, imported_eq_self mentioned converted]
      exact Rule.text_eq_of_mem_steps (fun rule _ => clear rule)
    exact ⟨noImport, fun step member =>
      ⟨Rule.Step.total_eq_zero_iff.1 noneReplaced step member, kept step member⟩⟩
  · rintro ⟨noImport, idle⟩
    exact ⟨Rule.Step.total_eq_zero_iff.2 (fun step member => (idle step member).1), noImport⟩

end Conversion

namespace FileSystem.Converts

variable {σ : Type} {files : FileSystem (StateM σ)} {notifier : Notifier} {path : Path}
  {state last : σ} {result : Except FileError Outcome} {accesses : List FileAccess}

/-- A file is reported as unchanged exactly when it can be read, calls a dialog, and conversion
leaves its text as it is. -/
theorem eq_unchanged_iff (ends : files.Converts notifier path state result last accesses) :
    result = .ok .unchanged ↔
      ∃ text conversion,
        ((files.read path).run state).1 = .ok text ∧ convert? notifier text = some conversion ∧
        conversion.text = text := by
  constructor
  · intro reported
    cases ends with
    | @unchanged text _ conversion read converted same =>
        exact ⟨text, conversion, by rw [read], converted, same⟩
    | unreadable _ => cases reported
    | noDialogs _ _ => cases reported
    | unwritable _ _ _ _ => cases reported
    | updated _ _ _ _ => cases reported
  · rintro ⟨text, conversion, found, converted, same⟩
    cases ends with
    | unchanged _ _ _ => rfl
    | unreadable read =>
        rw [read] at found
        cases found
    | noDialogs read quiet =>
        rw [read] at found
        cases found
        rw [quiet] at converted
        cases converted
    | unwritable read again changed _ | updated read again changed _ =>
        rw [read] at found
        cases found
        rw [again] at converted
        cases converted
        exact absurd same changed

/-- The numbers of an update are those of a conversion that changed the text of the file. -/
theorem exists_of_eq_updated (ends : files.Converts notifier path state result last accesses)
    {count : Nat} {inserted : Bool} (reported : result = .ok (.updated count inserted)) :
    ∃ text conversion,
      ((files.read path).run state).1 = .ok text ∧ convert? notifier text = some conversion ∧
      conversion.text ≠ text ∧ count = conversion.replacementCount ∧
      inserted = conversion.importInserted := by
  cases ends with
  | @updated text _ _ conversion read converted changed _ =>
      cases reported
      exact ⟨text, conversion, by rw [read], converted, changed, rfl, rfl⟩
  | unreadable _ => cases reported
  | noDialogs _ _ => cases reported
  | unchanged _ _ _ => cases reported
  | unwritable _ _ _ _ => cases reported

end FileSystem.Converts

/-- Conversion leaves a text as it is exactly when it has replaced nothing and added no import. A
file is reported as unchanged exactly when no import was added and no rule has replaced anything in
it, at any step; a reported update has rewritten a call or added the import. -/
theorem reported_outcome_faithful :
    (∀ text conversion, convert? {} text = some conversion →
      (conversion.text = text ↔
        conversion.replacementCount = 0 ∧ conversion.importInserted = false)) ∧
    (∀ (σ : Type) (files : FileSystem (StateM σ)) (path : Path) (state : σ),
      ∃ conversion last,
        (convertFile files {} path).run state = (conversion, last) ∧
        (conversion.result = .ok .unchanged ↔
          ∃ text rewritten,
            ((files.read path).run state).1 = .ok text ∧ convert? {} text = some rewritten ∧
            rewritten.importInserted = false ∧
            ∀ step ∈ rewritten.steps, step.count = 0 ∧ step.text = text) ∧
        ∀ count inserted, conversion.result = .ok (.updated count inserted) →
          (0 < count ∨ inserted = true) ∧
          ∃ text rewritten,
            ((files.read path).run state).1 = .ok text ∧ convert? {} text = some rewritten ∧
            rewritten.text ≠ text ∧ count = rewritten.replacementCount ∧
            inserted = rewritten.importInserted) := by
  constructor
  · intro text conversion converted
    exact Conversion.text_eq_iff converted
  · intro σ files path state
    obtain ⟨conversion, last, accesses, run, _, ends⟩ := files.exists_converts {} path state []
    refine ⟨conversion, last, run, ?_, ?_⟩
    · rw [ends.eq_unchanged_iff]
      constructor
      · rintro ⟨text, rewritten, read, converted, same⟩
        exact ⟨text, rewritten, read, converted,
          (Conversion.text_eq_iff_forall_steps converted).1 same⟩
      · rintro ⟨text, rewritten, read, converted, idle⟩
        exact ⟨text, rewritten, read, converted,
          (Conversion.text_eq_iff_forall_steps converted).2 idle⟩
    · intro count inserted reported
      obtain ⟨text, rewritten, read, converted, changed, rfl, rfl⟩ :=
        ends.exists_of_eq_updated reported
      refine ⟨?_, text, rewritten, read, converted, changed, rfl, rfl⟩
      rw [Ne, Conversion.text_eq_iff converted, not_and_or, Bool.not_eq_false] at changed
      exact changed.imp_left Nat.pos_of_ne_zero

/-- Three texts. A call that a rule replaces is counted, and the report gives the count. Where no
rule replaces the call, the import alone changes the text, and a file that mentions the notifier is
reported as unchanged. -/
theorem reported_outcome_faithful_three_texts :
    (∃ conversion last rewritten,
      (convertFile Store.fileSystem {} ⟨"a.js"⟩).run
        (({} : Store).add ⟨"a.js"⟩ "alert('a');\n".toList) = (conversion, last) ∧
      conversion.result = .ok (.updated 1 true) ∧
      convert? {} "alert('a');\n".toList = some rewritten ∧
      rewritten.text ≠ "alert('a');\n".toList ∧ 1 = rewritten.replacementCount) ∧
    (∃ rewritten,
      convert? {} "alert(text);\n".toList = some rewritten ∧ rewritten.replacementCount = 0 ∧
      rewritten.text ≠ "alert(text);\n".toList) ∧
    ∃ conversion last,
      (convertFile Store.fileSystem {} ⟨"a.js"⟩).run
        (({} : Store).add ⟨"a.js"⟩ "alert(notificationManager);\n".toList) = (conversion, last) ∧
      conversion.result = .ok .unchanged := by
  refine ⟨?_, ?_, ?_⟩
  · have ⟨conversion, last, run, _, updated⟩ := reported_outcome_faithful.2 Store
      Store.fileSystem ⟨"a.js"⟩ (({} : Store).add ⟨"a.js"⟩ "alert('a');\n".toList)
    have reported : ((convertFile Store.fileSystem {} ⟨"a.js"⟩).run
        (({} : Store).add ⟨"a.js"⟩ "alert('a');\n".toList)).1.result = .ok (.updated 1 true) := by
      decide +kernel
    rw [run] at reported
    have ⟨_, text, rewritten, read, converted, changed, count, _⟩ := updated 1 true reported
    obtain rfl : "alert('a');\n".toList = text := Except.ok.inj read
    exact ⟨conversion, last, rewritten, run, reported, converted, changed, count⟩
  · have ⟨rewritten, converted, facts⟩ := (Option.any_eq_true _ _).1
      (show (convert? {} "alert(text);\n".toList).any (fun rewritten =>
          rewritten.replacementCount == 0 && rewritten.importInserted) = true by
        decide +kernel)
    rw [Bool.and_eq_true, beq_iff_eq] at facts
    refine ⟨rewritten, converted, facts.1, fun same => ?_⟩
    have numbers := (reported_outcome_faithful.1 _ rewritten converted).1 same
    exact Bool.false_ne_true (numbers.2.symm.trans facts.2)
  · have ⟨rewritten, converted, facts⟩ := (Option.any_eq_true _ _).1
      (show (convert? {} "alert(notificationManager);\n".toList).any (fun rewritten =>
          !rewritten.importInserted && rewritten.steps.all (fun step =>
            step.count == 0 && step.text == "alert(notificationManager);\n".toList)) = true by
        decide +kernel)
    simp only [Bool.and_eq_true, Bool.not_eq_true', List.all_eq_true, beq_iff_eq] at facts
    have ⟨conversion, last, run, unchanged, _⟩ := reported_outcome_faithful.2 Store
      Store.fileSystem ⟨"a.js"⟩ (({} : Store).add ⟨"a.js"⟩ "alert(notificationManager);\n".toList)
    exact ⟨conversion, last, run, unchanged.2 ⟨_, rewritten, rfl, converted, facts⟩⟩

end DialogCodemod
