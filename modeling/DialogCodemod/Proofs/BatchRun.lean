import DialogCodemod.Proofs.FileConversion

/-!
# Batches, file by file

A conversion uses its file system by reading and writing the one path, and in no other way. So what
two file systems have in common when that path is read and written, they have in common when it is
converted. A batch is one conversion after the other: each file is converted in the state that the
files before it have left, whatever became of them.
-/

namespace DialogCodemod

/-! ## Computations that run alike -/

/-- From states that are alike, the two computations come to the same value and to states that are
alike again. -/
def RunsAlike {σ τ α : Type} (alike : σ → τ → Prop) (first : StateM σ α) (second : StateM τ α) :
    Prop :=
  ∀ state other, alike state other →
    (first.run state).1 = (second.run other).1 ∧ alike (first.run state).2 (second.run other).2

namespace RunsAlike

variable {σ τ α β : Type} {alike : σ → τ → Prop}

theorem pure (value : α) :
    RunsAlike alike (Pure.pure value : StateM σ α) (Pure.pure value : StateM τ α) :=
  fun _ _ start => ⟨rfl, start⟩

theorem bind {first : StateM σ α} {second : StateM τ α} {next : α → StateM σ β}
    {nextSecond : α → StateM τ β} (head : RunsAlike alike first second)
    (later : ∀ value, RunsAlike alike (next value) (nextSecond value)) :
    RunsAlike alike (first >>= next) (second >>= nextSecond) := by
  intro state other start
  obtain ⟨sameValue, middle⟩ := head state other start
  have rest := later (first.run state).1 _ _ middle
  rw [sameValue] at rest
  rw [FileSystem.run_bind_of_run (Prod.eta (first.run state)).symm,
    FileSystem.run_bind_of_run (Prod.eta (second.run other)).symm, sameValue]
  exact rest

variable {files : FileSystem (StateM σ)} {others : FileSystem (StateM τ)} {notifier : Notifier}
  {path : Path}

theorem load (read : RunsAlike alike (files.read path) (others.read path)) :
    RunsAlike alike (files.load path) (others.load path) := by
  apply read.bind
  intro found
  cases found with
  | error fault => exact .pure _
  | ok text => exact .pure _

theorem save {text : Text}
    (write : RunsAlike alike (files.write path text) (others.write path text)) :
    RunsAlike alike (files.save path text) (others.save path text) := by
  apply write.bind
  intro done
  cases done with
  | error fault => exact .pure _
  | ok _ => exact .pure _

/-- A conversion uses its file system by reading and writing its path alone. -/
theorem convertFile (read : RunsAlike alike (files.read path) (others.read path))
    (write : ∀ text, RunsAlike alike (files.write path text) (others.write path text)) :
    RunsAlike alike (DialogCodemod.convertFile files notifier path)
      (DialogCodemod.convertFile others notifier path) := by
  apply read.load.bind
  intro loaded
  cases loaded with
  | error error => exact .pure _
  | ok text =>
      simp only
      cases convert? notifier text with
      | none => exact .pure _
      | some conversion =>
          simp only
          split
          · exact .pure _
          · apply (write conversion.text).save.bind
            intro saved
            cases saved with
            | error error => exact .pure _
            | ok _ => exact .pure _

theorem convertFiles {announce : FileRun → StateM σ Unit} {announceOther : FileRun → StateM τ Unit}
    {paths : List Path}
    (each : ∀ path ∈ paths, RunsAlike alike (DialogCodemod.convertFile files notifier path)
      (DialogCodemod.convertFile others notifier path))
    (announced : ∀ run, RunsAlike alike (announce run) (announceOther run)) :
    RunsAlike alike (DialogCodemod.convertFiles files notifier announce paths)
      (DialogCodemod.convertFiles others notifier announceOther paths) := by
  induction paths with
  | nil => exact .pure _
  | cons path paths ih =>
      rw [List.forall_mem_cons] at each
      apply RunsAlike.bind (each.1.bind fun _ => .pure _)
      intro run
      apply (announced run).bind
      intro _
      apply (ih each.2).bind
      intro runs
      exact .pure _

end RunsAlike

/-! ## The reports of a batch -/

/-- The outcome of a conversion. An error is an outcome too. -/
def FileConversion.outcome (conversion : FileConversion) : Outcome :=
  match conversion.result with
  | .ok outcome => outcome
  | .error error => .ofError error

@[simp] theorem FileConversion.report_toRun (conversion : FileConversion) (path : Path) :
    (conversion.toRun path).report = ⟨path, conversion.outcome⟩ := by
  unfold toRun outcome
  cases conversion.result <;> rfl

namespace FileSystem

variable {σ : Type}

/-- A batch file by file: its reports, and the state it leaves. -/
inductive Reports (files : FileSystem (StateM σ)) (notifier : Notifier) :
    List Path → σ → List FileReport → σ → Prop where
  | nil (state : σ) : Reports files notifier [] state [] state
  | cons {path : Path} {paths : List Path} {state middle last : σ} {conversion : FileConversion}
      {reports : List FileReport}
      (first : (convertFile files notifier path).run state = (conversion, middle))
      (later : Reports files notifier paths middle reports last) :
      Reports files notifier (path :: paths) state (⟨path, conversion.outcome⟩ :: reports) last

namespace Reports

variable {files : FileSystem (StateM σ)} {notifier : Notifier} {paths later : List Path}
  {state middle last : σ} {reports laterReports : List FileReport}

/-- There is one report for each path, in the given order. -/
theorem map_path (batch : files.Reports notifier paths state reports last) :
    reports.map FileReport.path = paths := by
  induction batch with
  | nil => rfl
  | cons first later ih => rw [List.map_cons, ih]

theorem append (batch : files.Reports notifier paths state reports middle)
    (laterBatch : files.Reports notifier later middle laterReports last) :
    files.Reports notifier (paths ++ later) state (reports ++ laterReports) last := by
  induction batch with
  | nil => exact laterBatch
  | cons first _ ih => exact .cons first (ih laterBatch)

/-- What holds before a batch and is kept by each conversion holds after the batch. -/
theorem invariant {holds : σ → Prop} (batch : files.Reports notifier paths state reports last)
    (kept : ∀ path ∈ paths, ∀ state, holds state →
      holds ((convertFile files notifier path).run state).2) (start : holds state) :
    holds last := by
  induction batch with
  | nil => exact start
  | cons first later ih =>
      rw [List.forall_mem_cons] at kept
      have middle := kept.1 _ start
      rw [first] at middle
      exact ih kept.2 middle

end Reports

theorem run_convertFiles_cons {files : FileSystem (StateM σ)} {notifier : Notifier}
    {announce : FileRun → StateM σ Unit} {path : Path} {paths : List Path}
    {state middle announced last : σ} {conversion : FileConversion} {runs : List FileRun}
    (first : (convertFile files notifier path).run state = (conversion, middle))
    (shown : (announce (conversion.toRun path)).run middle = ((), announced))
    (rest : (convertFiles files notifier announce paths).run announced = (runs, last)) :
    (convertFiles files notifier announce (path :: paths)).run state =
      (conversion.toRun path :: runs, last) := by
  have one : (runFile files notifier path).run state = (conversion.toRun path, middle) := by
    rw [runFile, run_bind_of_run first]
    rfl
  rw [convertFiles, run_bind_of_run one, run_bind_of_run shown, run_bind_of_run rest]
  rfl

/-- A batch without announcements makes these reports. -/
theorem exists_reports (files : FileSystem (StateM σ)) (notifier : Notifier) (paths : List Path)
    (state : σ) :
    ∃ runs last,
      (convertFiles files notifier (fun _ => pure ()) paths).run state = (runs, last) ∧
      files.Reports notifier paths state (runs.map FileRun.report) last := by
  induction paths generalizing state with
  | nil => exact ⟨[], state, rfl, .nil state⟩
  | cons path paths ih =>
      rcases first : (convertFile files notifier path).run state with ⟨conversion, middle⟩
      obtain ⟨runs, last, rest, reports⟩ := ih middle
      refine ⟨conversion.toRun path :: runs, last, run_convertFiles_cons first rfl rest, ?_⟩
      rw [List.map_cons, FileConversion.report_toRun]
      exact .cons first reports

end FileSystem

end DialogCodemod
