import DialogCodemod.Proofs.BatchRun
import DialogCodemod.Proofs.ImportOnce

/-!
# Files of a batch are independent

Files in memory are told apart by their places. Converting one of them leaves the others as they
are, and depends on nothing but its own text and protection. So in a batch over different places
each file fares as if it were the only one, in whatever order they come. Where a place comes again,
later conversions see what earlier ones have written: it mentions the notifier, so that the import
is added once.
-/

namespace DialogCodemod

/-! ## Observed batches -/

namespace FileSystem

variable {σ τ : Type}

/-- The same file system beside another state, which it leaves alone. -/
def beside (files : FileSystem (StateM σ)) (τ : Type) : FileSystem (StateM (σ × τ)) where
  read path := do
    let (state, other) ← get
    let (result, after) := (files.read path).run state
    set (after, other)
    pure result
  write path text := do
    let (state, other) ← get
    let (result, after) := (files.write path text).run state
    set (after, other)
    pure result

/-- Convert files in the given order and show each report to an observer, as soon as its file is
done. The observer has a state of its own. -/
def observedBatch (files : FileSystem (StateM σ)) (notifier : Notifier)
    (observe : τ → FileReport → τ) (paths : List Path) : StateM (σ × τ) BatchReport := do
  let announce (run : FileRun) : StateM (σ × τ) Unit :=
    modify fun (state, seen) => (state, observe seen run.report)
  let runs ← convertFiles (files.beside τ) notifier announce paths
  pure (.ofRuns runs)

theorem run_convertFile_beside {files : FileSystem (StateM σ)} {notifier : Notifier} {path : Path}
    {state middle : σ} {conversion : FileConversion}
    (converted : (convertFile files notifier path).run state = (conversion, middle)) (seen : τ) :
    (convertFile (files.beside τ) notifier path).run (state, seen) =
      (conversion, middle, seen) := by
  have alike : RunsAlike (fun (inner : σ) (outer : σ × τ) => outer = (inner, seen))
      (convertFile files notifier path) (convertFile (files.beside τ) notifier path) := by
    apply RunsAlike.convertFile
    · rintro inner _ rfl
      exact ⟨rfl, rfl⟩
    · rintro text inner _ rfl
      exact ⟨rfl, rfl⟩
  have ⟨value, after⟩ := alike state (state, seen) rfl
  rw [converted] at value after
  exact Prod.ext value.symm after

namespace Reports

variable {files : FileSystem (StateM σ)} {notifier : Notifier} {paths : List Path} {state last : σ}
  {reports : List FileReport}

/-- The observer sees the reports of the batch in their order, and does not influence them. -/
theorem run_observedBatch (batch : files.Reports notifier paths state reports last)
    (observe : τ → FileReport → τ) (seen : τ) :
    (files.observedBatch notifier observe paths).run (state, seen) =
      (⟨reports⟩, last, reports.foldl observe seen) := by
  suffices observed : ∃ runs, runs.map FileRun.report = reports ∧
      (convertFiles (files.beside τ) notifier
        (fun run => modify fun (state, seen) => (state, observe seen run.report))
        paths).run (state, seen) = (runs, last, reports.foldl observe seen) by
    obtain ⟨runs, rfl, observed⟩ := observed
    rw [observedBatch, run_bind_of_run observed]
    rfl
  induction batch generalizing seen with
  | nil => exact ⟨[], rfl, rfl⟩
  | @cons path _ _ _ _ conversion reports first later ih =>
      obtain ⟨runs, rfl, observed⟩ := ih (observe seen ⟨path, conversion.outcome⟩)
      rw [← conversion.report_toRun path] at observed ⊢
      exact ⟨conversion.toRun path :: runs, rfl,
        run_convertFiles_cons (run_convertFile_beside first seen) rfl observed⟩

end Reports

/-- A batch over two lists is the batch over the first and then the batch over the second. -/
theorem observedBatch_append (files : FileSystem (StateM σ)) (notifier : Notifier)
    (observe : τ → FileReport → τ) (paths later : List Path) :
    files.observedBatch notifier observe (paths ++ later) = (do
      let first ← files.observedBatch notifier observe paths
      let second ← files.observedBatch notifier observe later
      pure ⟨first.files ++ second.files⟩) := by
  funext ⟨state, seen⟩
  obtain ⟨_, middle, _, batch⟩ := files.exists_reports notifier paths state
  obtain ⟨_, last, _, laterBatch⟩ := files.exists_reports notifier later middle
  have whole := (batch.append laterBatch).run_observedBatch observe seen
  rw [List.foldl_append] at whole
  refine whole.trans (Eq.symm ?_)
  exact (run_bind_of_run (batch.run_observedBatch observe seen)).trans
    (run_bind_of_run (laterBatch.run_observedBatch observe _))

end FileSystem

/-! ## Stores that agree about a place -/

namespace Store

/-- The two stores hold the same text at a place, and both protect it or neither does. -/
structure AgreeAt (place : Path) (store other : Store) : Prop where
  content : store.content? place = other.content? place
  denied : place.key ∈ store.denied ↔ place.key ∈ other.denied

theorem AgreeAt.refl (place : Path) (store : Store) : AgreeAt place store store :=
  ⟨rfl, Iff.rfl⟩

theorem AgreeAt.symm {place : Path} {store other : Store} (agree : AgreeAt place store other) :
    AgreeAt place other store :=
  ⟨agree.content.symm, agree.denied.symm⟩

theorem AgreeAt.trans {place : Path} {first second third : Store}
    (agree : AgreeAt place first second) (agreeLater : AgreeAt place second third) :
    AgreeAt place first third :=
  ⟨agree.content.trans agreeLater.content, agree.denied.trans agreeLater.denied⟩

variable {notifier : Notifier} {path place : Path} {store other : Store}

theorem content?_eq_of_key_eq (same : path.key = place.key) (store : Store) :
    store.content? path = store.content? place := by
  rw [content?, content?, same]

/-- Writing a file leaves the other places alone. -/
theorem agreeAt_write (different : place.key ≠ path.key) (store : Store) (text : Text) :
    AgreeAt place store ((fileSystem.write path text).run store).2 := by
  by_cases denied : path.key ∈ store.denied
  · rw [run_write_of_mem denied]
    exact .refl place store
  · rw [run_write_of_notMem denied]
    exact ⟨by rw [content?_updated, if_neg different], Iff.rfl⟩

theorem agreeAt_convertFile (notifier : Notifier) (different : place.key ≠ path.key)
    (store : Store) :
    AgreeAt place store ((convertFile fileSystem notifier path).run store).2 := by
  have alike : RunsAlike (fun first second => first = second ∧ AgreeAt place store first)
      (convertFile fileSystem notifier path) (convertFile fileSystem notifier path) := by
    apply RunsAlike.convertFile
    · rintro current _ ⟨rfl, agree⟩
      exact ⟨rfl, rfl, agree⟩
    · rintro text current _ ⟨rfl, agree⟩
      exact ⟨rfl, rfl, agree.trans (agreeAt_write different current text)⟩
  exact (alike store store ⟨rfl, .refl place store⟩).2.2

/-- A conversion depends on the place of its path alone. -/
theorem runsAlike_convertFile (notifier : Notifier) (path : Path) :
    RunsAlike (AgreeAt path) (convertFile fileSystem notifier path)
      (convertFile fileSystem notifier path) := by
  apply RunsAlike.convertFile
  · intro store other agree
    rw [run_read, run_read, Store.read, Store.read, agree.content]
    exact ⟨rfl, agree⟩
  · intro text store other agree
    by_cases denied : path.key ∈ store.denied
    · rw [run_write_of_mem denied, run_write_of_mem (agree.denied.1 denied)]
      exact ⟨rfl, agree⟩
    · rw [run_write_of_notMem denied,
        run_write_of_notMem (fun deniedOther => denied (agree.denied.2 deniedOther))]
      refine ⟨rfl, ?_, agree.denied⟩
      rw [content?_updated, content?_updated, if_pos rfl, if_pos rfl]

/-! ## Batches over different places -/

/-- The report on a file that is converted by itself. -/
def reportOn (store : Store) (notifier : Notifier) (path : Path) : FileReport :=
  ⟨path, ((convertFile fileSystem notifier path).run store).1.outcome⟩

theorem AgreeAt.reportOn_eq (agree : AgreeAt path store other) :
    store.reportOn notifier path = other.reportOn notifier path := by
  rw [reportOn, reportOn, (runsAlike_convertFile notifier path store other agree).1]

section Batches

variable {paths : List Path} {reports : List FileReport} {last : Store}

/-- A batch leaves the places alone that are not in it. -/
theorem agreeAt_of_reports (batch : fileSystem.Reports notifier paths store reports last)
    (different : place.key ∉ paths.map Path.key) : AgreeAt place store last := by
  refine batch.invariant (fun path member current agree => ?_) (.refl place store)
  have elsewhere : place.key ≠ path.key := fun same =>
    different (same ▸ List.mem_map_of_mem member)
  exact agree.trans (agreeAt_convertFile notifier elsewhere current)

/-- A file of a batch over different places is found as the batch found it. -/
theorem forall_mem_agreeAt {path : Path} {conversion : FileConversion} {middle : Store}
    (first : (convertFile fileSystem notifier path).run store = (conversion, middle))
    (different : path.key ∉ paths.map Path.key) : ∀ later ∈ paths, AgreeAt later store middle := by
  intro later member
  have elsewhere : later.key ≠ path.key := fun same =>
    different (same ▸ List.mem_map_of_mem member)
  have agree := agreeAt_convertFile notifier elsewhere store
  rwa [first] at agree

/-- Each report of a batch over different places is the one the file gets by itself. -/
theorem reports_eq_map (batch : fileSystem.Reports notifier paths store reports last)
    (distinct : (paths.map Path.key).Nodup) : reports = paths.map (store.reportOn notifier) := by
  induction batch with
  | nil => rfl
  | cons first later ih =>
      rw [List.map_cons, List.nodup_cons] at distinct
      have found := forall_mem_agreeAt first distinct.1
      rw [List.map_cons, ih distinct.2, reportOn, first]
      congr 1
      apply List.map_congr_left
      intro path member
      exact (found path member).symm.reportOn_eq

/-- What a batch over different places leaves at one of them is what a conversion of that file by
itself leaves there. -/
theorem content?_of_mem_paths (batch : fileSystem.Reports notifier paths store reports last)
    (distinct : (paths.map Path.key).Nodup) {path : Path} (member : path ∈ paths) :
    last.content? path =
      ((convertFile fileSystem notifier path).run store).2.content? path := by
  induction batch with
  | nil => cases member
  | @cons head paths store middle last conversion reports first later ih =>
      rw [List.map_cons, List.nodup_cons] at distinct
      rcases List.mem_cons.1 member with rfl | member
      · rw [first]
        exact (agreeAt_of_reports later distinct.1).content.symm
      · have agree := (forall_mem_agreeAt first distinct.1 path member).symm
        rw [ih distinct.2 member]
        exact (runsAlike_convertFile notifier path middle store agree).2.content

/-- The order of a batch over different places does not matter for what it leaves. -/
theorem content?_eq_of_perm {others : List Path} {otherReports : List FileReport}
    {otherLast : Store} (batch : fileSystem.Reports notifier paths store reports last)
    (otherBatch : fileSystem.Reports notifier others store otherReports otherLast)
    (distinct : (paths.map Path.key).Nodup) (reordered : paths.Perm others) (place : Path) :
    otherLast.content? place = last.content? place := by
  have sameKeys := reordered.map Path.key
  by_cases converted : place.key ∈ paths.map Path.key
  · obtain ⟨path, member, same⟩ := List.mem_map.1 converted
    rw [content?_eq_of_key_eq same.symm, content?_eq_of_key_eq same.symm,
      content?_of_mem_paths batch distinct member,
      content?_of_mem_paths otherBatch (sameKeys.nodup_iff.1 distinct) (reordered.mem_iff.1 member)]
  · have elsewhere : place.key ∉ others.map Path.key := fun member =>
      converted (sameKeys.mem_iff.2 member)
    rw [← (agreeAt_of_reports batch converted).content,
      ← (agreeAt_of_reports otherBatch elsewhere).content]

end Batches

/-! ## The import in a batch -/

/-- The text at a place mentions the notifier. -/
def MentionedAt (store : Store) (notifier : Notifier) (place : Path) : Prop :=
  ∃ text, store.content? place = some text ∧ text.mentions notifier.name = true

end Store

/-- Whether the file was updated and the import added to it. -/
def Outcome.addsImport : Outcome → Bool
  | .updated _ importInserted => importInserted
  | _ => false

namespace Store

variable {notifier : Notifier} {path place : Path} {store : Store}

/-- A conversion in memory updates its file or leaves the store as it is. -/
theorem run_convertFile_cases (store : Store) (notifier : Notifier) (path : Path) :
    (∃ rewritten log, store.Updatable notifier path rewritten ∧
      (convertFile fileSystem notifier path).run store =
        (⟨.ok (.updated rewritten.replacementCount rewritten.importInserted), log⟩,
          store.updated path rewritten.text)) ∨
    ∃ conversion, (convertFile fileSystem notifier path).run store = (conversion, store) ∧
      IdleResult path conversion.result := by
  by_cases updatable : ∃ rewritten, store.Updatable notifier path rewritten
  · obtain ⟨rewritten, updatable⟩ := updatable
    exact .inl ⟨rewritten, _, updatable, updatable.run_convertFile⟩
  · obtain ⟨conversion, last, accesses, plain, _, ends⟩ :=
      fileSystem.exists_converts notifier path store []
    obtain ⟨rfl, idle⟩ := kept_of_not_updatable ends (not_exists.1 updatable)
    exact .inr ⟨conversion, plain, idle⟩

theorem IdleResult.addsImport_eq_false {conversion : FileConversion}
    (idle : IdleResult path conversion.result) : conversion.outcome.addsImport = false := by
  unfold FileConversion.outcome
  rcases idle with result | result | result | result <;> rw [result] <;> rfl

/-- The import is added to a file that does not mention the notifier, and afterwards it does. Once
it does, it goes on doing so. -/
theorem mentionedAt_convertFile {conversion : FileConversion} {after : Store}
    (run : (convertFile fileSystem notifier path).run store = (conversion, after)) :
    (conversion.outcome.addsImport = true →
      ¬store.MentionedAt notifier path ∧ after.MentionedAt notifier path) ∧
    (store.MentionedAt notifier path → after.MentionedAt notifier path) := by
  rcases run_convertFile_cases store notifier path with
    ⟨rewritten, log, ⟨_, text, found, converted, _⟩, updated⟩ | ⟨idleConversion, kept, idle⟩
  · rw [updated] at run
    obtain ⟨rfl, rfl⟩ := Prod.mk.inj run
    have mentioned : (store.updated path rewritten.text).MentionedAt notifier path :=
      ⟨rewritten.text, by rw [content?_updated, if_pos rfl], Conversion.mentions_text converted⟩
    refine ⟨fun added => ⟨?_, mentioned⟩, fun _ => mentioned⟩
    rintro ⟨before, foundBefore, mentionedBefore⟩
    rw [found] at foundBefore
    cases foundBefore
    have inserted : rewritten.importInserted = true := added
    rw [Conversion.importInserted_eq converted, mentionedBefore] at inserted
    cases inserted
  · rw [kept] at run
    obtain ⟨rfl, rfl⟩ := Prod.mk.inj run
    refine ⟨fun added => ?_, id⟩
    rw [idle.addsImport_eq_false] at added
    cases added

theorem mentionedAt_congr (same : path.key = place.key) :
    store.MentionedAt notifier path ↔ store.MentionedAt notifier place := by
  rw [MentionedAt, MentionedAt, content?_eq_of_key_eq same]

/-- The number of reports by which the import was added at a place. -/
def importsAt (place : Path) (reports : List FileReport) : Nat :=
  reports.countP fun report => report.path.key = place.key && report.outcome.addsImport

theorem importsAt_cons (place : Path) (report : FileReport) (later : List FileReport) :
    importsAt place (report :: later) = importsAt place later +
      (decide (report.path.key = place.key) && report.outcome.addsImport).toNat := by
  rw [importsAt, List.countP_cons]
  cases decide (report.path.key = place.key) && report.outcome.addsImport <;> rfl

variable {paths : List Path} {reports : List FileReport} {last : Store}

/-- Where the notifier is mentioned no import is added. -/
theorem importsAt_eq_zero (batch : fileSystem.Reports notifier paths store reports last)
    (mentioned : store.MentionedAt notifier place) : importsAt place reports = 0 := by
  induction batch with
  | nil => rfl
  | @cons path paths store middle last conversion reports first later ih =>
      rw [importsAt_cons]
      by_cases same : path.key = place.key
      · obtain ⟨adds, keeps⟩ := mentionedAt_convertFile first
        rw [mentionedAt_congr same, mentionedAt_congr same] at adds keeps
        have none : conversion.outcome.addsImport = false := by
          cases added : conversion.outcome.addsImport with
          | false => rfl
          | true => exact absurd mentioned (adds added).1
        rw [ih (keeps mentioned), none, Bool.and_false]
        rfl
      · have agree := agreeAt_convertFile notifier (Ne.symm same) store
        rw [first] at agree
        obtain ⟨text, found, mentions⟩ := mentioned
        rw [ih ⟨text, agree.content.symm.trans found, mentions⟩, decide_eq_false same,
          Bool.false_and]
        rfl

theorem importsAt_le_one (batch : fileSystem.Reports notifier paths store reports last)
    (place : Path) : importsAt place reports ≤ 1 := by
  induction batch with
  | nil => exact Nat.zero_le 1
  | @cons path paths store middle last conversion reports first later ih =>
      rw [importsAt_cons]
      by_cases counted :
          (decide (path.key = place.key) && conversion.outcome.addsImport) = true
      · -- From here on the place mentions the notifier, and no later report counts.
        rw [Bool.and_eq_true, decide_eq_true_iff] at counted
        have mentioned := ((mentionedAt_convertFile first).1 counted.2).2
        rw [importsAt_eq_zero later ((mentionedAt_congr counted.1).1 mentioned)]
        rw [Nat.zero_add]
        exact Bool.toNat_le _
      · rw [Bool.not_eq_true] at counted
        rw [counted]
        exact ih

end Store

/-- In a batch over different places each file fares as if it were converted by itself, in any
order, and the observer sees the reports as they are. Batches can be put together, and over a whole
batch the import is added at most once at each place. -/
theorem batch_files_independent :
    (∀ (notifier : Notifier) (store : Store) (paths : List Path), (paths.map Path.key).Nodup →
      ∃ last,
        (∀ (τ : Type) (observe : τ → FileReport → τ) (seen : τ),
          (Store.fileSystem.observedBatch notifier observe paths).run (store, seen) =
            (⟨paths.map (store.reportOn notifier)⟩, last,
              (paths.map (store.reportOn notifier)).foldl observe seen)) ∧
        ∀ others, paths.Perm others → ∃ otherLast,
          (∀ (τ : Type) (observe : τ → FileReport → τ) (seen : τ),
            (Store.fileSystem.observedBatch notifier observe others).run (store, seen) =
              (⟨others.map (store.reportOn notifier)⟩, otherLast,
                (others.map (store.reportOn notifier)).foldl observe seen)) ∧
          ∀ place, otherLast.content? place = last.content? place) ∧
    (∀ (τ : Type) (observe : τ → FileReport → τ) (notifier : Notifier) (paths later : List Path),
      Store.fileSystem.observedBatch notifier observe (paths ++ later) = (do
        let first ← Store.fileSystem.observedBatch notifier observe paths
        let second ← Store.fileSystem.observedBatch notifier observe later
        pure ⟨first.files ++ second.files⟩)) ∧
    (∀ (τ : Type) (observe : τ → FileReport → τ) (notifier : Notifier) (paths : List Path)
      (store : Store) (seen : τ), ∃ report last shown,
      (Store.fileSystem.observedBatch notifier observe paths).run (store, seen) =
        (report, last, shown) ∧
      report.files.map FileReport.path = paths ∧ shown = report.files.foldl observe seen ∧
      ∀ place, Store.importsAt place report.files ≤ 1) := by
  refine ⟨?_, ?_, ?_⟩
  · intro notifier store paths distinct
    obtain ⟨_, last, _, batch⟩ := Store.fileSystem.exists_reports notifier paths store
    refine ⟨last, ?_, ?_⟩
    · rw [← Store.reports_eq_map batch distinct]
      exact fun _ => batch.run_observedBatch
    · intro others reordered
      obtain ⟨_, otherLast, _, otherBatch⟩ := Store.fileSystem.exists_reports notifier others store
      have otherDistinct := (reordered.map Path.key).nodup_iff.1 distinct
      refine ⟨otherLast, ?_, Store.content?_eq_of_perm batch otherBatch distinct reordered⟩
      rw [← Store.reports_eq_map otherBatch otherDistinct]
      exact fun _ => otherBatch.run_observedBatch
  · intro τ observe notifier paths later
    exact Store.fileSystem.observedBatch_append notifier observe paths later
  · intro τ observe notifier paths store seen
    obtain ⟨_, last, _, batch⟩ := Store.fileSystem.exists_reports notifier paths store
    exact ⟨_, last, _, batch.run_observedBatch observe seen, batch.map_path, rfl,
      Store.importsAt_le_one batch⟩

/-- The missing file and the protected one do not keep the others from being updated. -/
theorem batch_files_independent_failures :
    ([⟨"a.js"⟩, ⟨"missing.js"⟩, ⟨"locked.js"⟩, ⟨"c.js"⟩].map Path.key).Nodup ∧
    ∃ last,
      (Store.fileSystem.observedBatch {} (fun seen report => seen ++ [report])
        [⟨"a.js"⟩, ⟨"missing.js"⟩, ⟨"locked.js"⟩, ⟨"c.js"⟩]).run
          ((((({} : Store).add ⟨"a.js"⟩ "alert('a');\n".toList).add
            ⟨"locked.js"⟩ "alert('b');\n".toList).add
            ⟨"c.js"⟩ "alert('c');\n".toList).deny ⟨"locked.js"⟩, []) =
        (⟨[⟨⟨"a.js"⟩, .updated 1 true⟩, ⟨⟨"missing.js"⟩, .notFound⟩,
            ⟨⟨"locked.js"⟩, .failed "write failed: permission denied"⟩,
            ⟨⟨"c.js"⟩, .updated 1 true⟩]⟩, last,
          [⟨⟨"a.js"⟩, .updated 1 true⟩, ⟨⟨"missing.js"⟩, .notFound⟩,
            ⟨⟨"locked.js"⟩, .failed "write failed: permission denied"⟩,
            ⟨⟨"c.js"⟩, .updated 1 true⟩]) := by
  have distinct : ([⟨"a.js"⟩, ⟨"missing.js"⟩, ⟨"locked.js"⟩, ⟨"c.js"⟩].map Path.key).Nodup := by
    decide +kernel
  have ⟨last, observed, _⟩ := batch_files_independent.1 {}
    ((((({} : Store).add ⟨"a.js"⟩ "alert('a');\n".toList).add
      ⟨"locked.js"⟩ "alert('b');\n".toList).add
      ⟨"c.js"⟩ "alert('c');\n".toList).deny ⟨"locked.js"⟩) _ distinct
  refine ⟨distinct, last, (observed _ _ []).trans ?_⟩
  have reports : [⟨"a.js"⟩, ⟨"missing.js"⟩, ⟨"locked.js"⟩, ⟨"c.js"⟩].map
      (((((({} : Store).add ⟨"a.js"⟩ "alert('a');\n".toList).add
        ⟨"locked.js"⟩ "alert('b');\n".toList).add
        ⟨"c.js"⟩ "alert('c');\n".toList).deny ⟨"locked.js"⟩).reportOn {}) =
      [⟨⟨"a.js"⟩, .updated 1 true⟩, ⟨⟨"missing.js"⟩, .notFound⟩,
        ⟨⟨"locked.js"⟩, .failed "write failed: permission denied"⟩,
        ⟨⟨"c.js"⟩, .updated 1 true⟩] := by
    decide +kernel
  rw [reports]
  rfl

end DialogCodemod
