import DialogCodemod.CommandLine.Run
import DialogCodemod.Proofs.FileBytes

/-!
# Runs of the program

The program prints a line for each path in the order of its arguments, and a summary whose numbers
count the outcomes. Whatever becomes of the files, it ends well, and those that it does not report
as updated keep their bytes.
-/

namespace DialogCodemod

/-! ## Summaries -/

namespace Outcome

variable {outcome : Outcome}

theorem isSkipped_eq_true_iff : outcome.isSkipped = true ↔ outcome = .notFound := by
  cases outcome <;> simp [isSkipped]

theorem isFailed_eq_true_iff : outcome.isFailed = true ↔ ∃ reason, outcome = .failed reason := by
  cases outcome <;> simp [isFailed]

/-- Each outcome is of one kind. -/
theorem kinds_add_eq_one (outcome : Outcome) :
    outcome.isUpdated.toNat + outcome.isUnchanged.toNat + outcome.isSkipped.toNat +
      outcome.isFailed.toNat = 1 := by
  cases outcome <;> rfl

end Outcome

namespace BatchReport

theorem count_cons (kind : Outcome → Bool) (file : FileReport) (files : List FileReport) :
    count ⟨file :: files⟩ kind = count ⟨files⟩ kind + (kind file.outcome).toNat := by
  rw [count, List.countP_cons]
  cases kind file.outcome <;> rfl

/-- The numbers of the summary add up to the number of files. -/
theorem counts_add_eq_length (report : BatchReport) :
    report.updated + report.unchanged + report.skipped + report.failed = report.files.length := by
  obtain ⟨files⟩ := report
  unfold updated unchanged skipped failed
  induction files with
  | nil => rfl
  | cons file files ih =>
      have one := file.outcome.kinds_add_eq_one
      rw [count_cons, count_cons, count_cons, count_cons, List.length_cons]
      simp only at ih
      omega

theorem failed_pos_iff {report : BatchReport} :
    0 < report.failed ↔ ∃ file ∈ report.files, ∃ reason, file.outcome = .failed reason := by
  simp only [failed, count, List.countP_pos_iff, Outcome.isFailed_eq_true_iff]

theorem skipped_pos_iff {report : BatchReport} :
    0 < report.skipped ↔ ∃ file ∈ report.files, file.outcome = .notFound := by
  simp only [skipped, count, List.countP_pos_iff, Outcome.isSkipped_eq_true_iff]

/-- The marker of the summary tells the worst that happened. -/
theorem marker_iff (report : BatchReport) :
    (report.marker = .error ↔ 0 < report.failed) ∧
    (report.marker = .warning ↔ ¬0 < report.failed ∧ 0 < report.skipped) ∧
    (report.marker = .success ↔ ¬0 < report.failed ∧ ¬0 < report.skipped) := by
  unfold marker
  by_cases failed : 0 < report.failed
  · simp [failed]
  · by_cases skipped : 0 < report.skipped
    · simp [failed, skipped]
    · simp [failed, skipped]

end BatchReport

/-! ## Output -/

theorem Transcript.output_ofRuns (environment : Environment) (runs : List FileRun) :
    (ofRuns environment runs).output =
      String.join ((BatchReport.ofRuns runs).files.map fun file =>
        file.statusLine environment.style ++ "\n") ++
      "\n" ++ ((BatchReport.ofRuns runs).summaryLine environment.style ++ "\n") := by
  simp [ofRuns, batchLines, Function.comp_def, String.append_assoc]

variable {σ : Type}

/-- A run on arguments that are paths converts them in their order. -/
theorem exists_run_runProgram {readArguments : List String → Except Refusal (List Path)}
    (files : FileSystem (StateM σ)) (environment : Environment) {arguments : List String}
    {paths : List Path} (accepted : readArguments arguments = .ok paths) (state : σ) :
    ∃ runs last,
      (runProgram readArguments files environment arguments).run state =
        (.ofRuns environment runs, last) ∧
      files.Reports {} paths state (BatchReport.ofRuns runs).files last := by
  obtain ⟨runs, last, run, batch⟩ := files.exists_reports {} paths state
  refine ⟨runs, last, ?_, batch⟩
  rw [runProgram, accepted]
  exact FileSystem.run_bind_of_run run

/-- However the arguments are read, a run reports every path in its order and counts the outcomes.
It ends well whatever they are, and keeps the bytes of all files that are not reported as updated,
so on a disk as on every file system with the laws of bytes. Where the arguments are refused, it
does not use the files. -/
theorem program_reports_every_path (readArguments : List String → Except Refusal (List Path)) :
    (∀ {σ : Type} (files : FileSystem (StateM σ)) (environment : Environment)
      (arguments : List String) (paths : List Path) (state : σ),
      readArguments arguments = .ok paths →
      ∃ (report : BatchReport) (last : σ) (transcript : Transcript),
        files.Reports {} paths state report.files last ∧
        report.files.map FileReport.path = paths ∧
        (runProgram readArguments files environment arguments).run state = (transcript, last) ∧
        transcript.exitCode = 0 ∧
        transcript.output =
          String.join (report.files.map fun file => file.statusLine environment.style ++ "\n") ++
            "\n" ++ (report.summaryLine environment.style ++ "\n") ∧
        report.summaryLine environment.style =
          environment.style.marker report.marker ++ " " ++ environment.style.emphasis
            ("Processed " ++ toString paths.length ++ " file(s): " ++ toString report.updated ++
              " updated, " ++ toString report.unchanged ++ " unchanged, " ++
              toString report.skipped ++ " skipped, " ++ toString report.failed ++ " failed") ∧
        report.updated = (report.files.filter (·.outcome matches .updated _ _)).length ∧
        report.unchanged =
          (report.files.filter (·.outcome matches .noDialogs | .unchanged)).length ∧
        report.skipped = (report.files.filter (·.outcome matches .notFound)).length ∧
        report.failed = (report.files.filter (·.outcome matches .failed _)).length ∧
        report.updated + report.unchanged + report.skipped + report.failed = paths.length ∧
        (report.marker = .error ↔ ∃ file ∈ report.files, ∃ reason, file.outcome = .failed reason) ∧
        (report.marker = .warning ↔
          (¬∃ file ∈ report.files, ∃ reason, file.outcome = .failed reason) ∧
          ∃ file ∈ report.files, file.outcome = .notFound) ∧
        (report.marker = .success ↔
          (¬∃ file ∈ report.files, ∃ reason, file.outcome = .failed reason) ∧
          ¬∃ file ∈ report.files, file.outcome = .notFound) ∧
        ∀ {φ : Type} {bytes? : σ → φ → Option ByteArray} {refers : σ → Path → φ → Prop},
          files.ByteLaws bytes? refers → ∀ file,
          ((∀ entry ∈ report.files, entry.outcome.isUpdated = true →
            ¬refers state entry.path file) → bytes? last file = bytes? state file) ∧
          ∀ bytes, bytes? state file = some bytes → ¬bytes.IsValidUTF8 →
            bytes? last file = some bytes) ∧
    Disk.fileSystem.ByteLaws Disk.bytes? Disk.Refers ∧
    ∀ {m : Type → Type} [Monad m] (files : FileSystem m) (environment : Environment)
      (arguments : List String) (refusal : Refusal), readArguments arguments = .error refusal →
      runProgram readArguments files environment arguments =
        pure (.ofRefusal environment refusal) := by
  refine ⟨?_, Disk.byteLaws, ?_⟩
  · intro σ files environment arguments paths state accepted
    obtain ⟨runs, last, run, batch⟩ := exists_run_runProgram files environment accepted state
    have length : (BatchReport.ofRuns runs).files.length = paths.length := by
      rw [← batch.map_path, List.length_map]
    have ⟨error, warning, success⟩ := (BatchReport.ofRuns runs).marker_iff
    rw [BatchReport.failed_pos_iff] at error
    rw [BatchReport.failed_pos_iff, BatchReport.skipped_pos_iff] at warning success
    refine ⟨.ofRuns runs, last, _, batch, batch.map_path, run, rfl,
      Transcript.output_ofRuns environment runs, ?_, List.countP_eq_length_filter,
      List.countP_eq_length_filter, List.countP_eq_length_filter, List.countP_eq_length_filter, ?_,
      error, warning, success, ?_⟩
    · rw [← length]
      rfl
    · rw [← length]
      exact BatchReport.counts_add_eq_length _
    · intro φ bytes? refers laws file
      refine ⟨laws.bytes_eq_of_reports batch, fun bytes found binary => ?_⟩
      have apart := laws.not_refers_of_not_valid batch found binary
      exact (laws.bytes_eq_of_reports batch apart).trans found
  · intro m _ files environment arguments refusal refused
    rw [runProgram, refused]

/-- The script is updated. The file that is no text fails to be read and keeps its bytes, the last
one is missing, and the program ends well. -/
theorem program_reports_every_path_mixed :
    ∃ (last : Disk) (transcript : Transcript),
      (runProgram Arguments.read Disk.fileSystem {} ["a.js", "b.bin", "c.js"]).run
        ((({} : Disk).addFile ⟨"a.js"⟩ "alert('a');\n".toUTF8).addFile ⟨"b.bin"⟩ ⟨#[0xff]⟩) =
          (transcript, last) ∧
      transcript.exitCode = 0 ∧
      transcript.output =
        "[OK] a.js: updated (1 call site(s) rewritten, import added)\n" ++
        "[WARN] b.bin: error: read failed: stream did not contain valid UTF-8\n" ++
        "[WARN] c.js: file not found, skipped\n\n" ++
        "[ERROR] Processed 3 file(s): 1 updated, 0 unchanged, 1 skipped, 1 failed\n" ∧
      last.bytes? ["b.bin".toList] = some ⟨#[0xff]⟩ := by
  have ⟨programRuns, laws, _⟩ := program_reports_every_path Arguments.read
  have ⟨report, last, transcript, _, _, run, exitCode, _, _, _, _, _, _, _, _, _, _, keeps⟩ :=
    programRuns Disk.fileSystem {} ["a.js", "b.bin", "c.js"] [⟨"a.js"⟩, ⟨"b.bin"⟩, ⟨"c.js"⟩]
      ((({} : Disk).addFile ⟨"a.js"⟩ "alert('a');\n".toUTF8).addFile ⟨"b.bin"⟩ ⟨#[0xff]⟩) rfl
  refine ⟨last, transcript, run, exitCode, ?_, ?_⟩
  · refine (congrArg (·.1.output) run).symm.trans ?_
    decide +kernel
  · exact (keeps laws ["b.bin".toList]).2 ⟨#[0xff]⟩ rfl (by decide +kernel)

end DialogCodemod
