import DialogCodemod.Batch
import DialogCodemod.File.Store

/-!
# Converting a file, all or nothing

Converting a file reads it once and writes it at most once, and only when conversion has changed
the text. A file system that keeps a record of its uses makes this visible for every implementation;
on files in memory it means that a conversion either replaces the text of the one file and reports
an update, or leaves everything as it was.
-/

namespace DialogCodemod

/-- One use of a file system. -/
inductive FileAccess where
  | read (path : Path)
  | write (path : Path) (text : Text)
  deriving DecidableEq, Repr

namespace FileSystem

variable {σ : Type}

/-- The same file system, with a record of its uses beside the state. -/
def recorded (files : FileSystem (StateM σ)) : FileSystem (StateM (σ × List FileAccess)) where
  read path := do
    let (state, accesses) ← get
    let (result, after) := (files.read path).run state
    set (after, accesses ++ [.read path])
    pure result
  write path text := do
    let (state, accesses) ← get
    let (result, after) := (files.write path text).run state
    set (after, accesses ++ [.write path text])
    pure result

variable {files : FileSystem (StateM σ)} {notifier : Notifier} {path : Path} {text : Text}
  {state after last : σ}

theorem run_read_recorded (earlier : List FileAccess) {found : Except Fault Text}
    (read : (files.read path).run state = (found, after)) :
    (files.recorded.read path).run (state, earlier) = (found, after, earlier ++ [.read path]) := by
  change (((files.read path).run state).1, ((files.read path).run state).2, _) = _
  rw [read]

theorem run_write_recorded (earlier : List FileAccess) {done : Except Fault Unit}
    (write : (files.write path text).run state = (done, after)) :
    (files.recorded.write path text).run (state, earlier) =
      (done, after, earlier ++ [.write path text]) := by
  change (((files.write path text).run state).1, ((files.write path text).run state).2, _) = _
  rw [write]

/-! ## The ways a conversion ends -/

/-- Once it is known what the first action does to a state, the second goes on from there. -/
theorem run_bind_of_run {α β : Type} {first : StateM σ α} {second : α → StateM σ β} {value : α}
    (done : first.run state = (value, after)) :
    (first >>= second).run state = (second value).run after := by
  rw [StateT.run_bind, done]
  rfl

theorem run_load {found : Except Fault Text}
    (read : (files.read path).run state = (found, after)) :
    (files.load path).run state = (found.mapError (.ofRead path), after) := by
  rw [load, run_bind_of_run read]
  cases found <;> rfl

theorem run_save {done : Except Fault Unit}
    (write : (files.write path text).run state = (done, after)) :
    (files.save path text).run state = (done.mapError (.ofWrite path), after) := by
  rw [save, run_bind_of_run write]
  cases done <;> rfl

theorem run_convertFile_of_error {fault : Fault}
    (read : (files.read path).run state = (.error fault, after)) :
    (convertFile files notifier path).run state = (⟨.error (.ofRead path fault), []⟩, after) := by
  rw [convertFile, run_bind_of_run (run_load read)]
  rfl

theorem run_convertFile_of_none (read : (files.read path).run state = (.ok text, after))
    (quiet : convert? notifier text = none) :
    (convertFile files notifier path).run state =
      (⟨.ok .noDialogs, [FileConversion.noDialogsRecord path]⟩, after) := by
  have loaded : (files.load path).run state = (.ok text, after) := run_load read
  rw [convertFile, run_bind_of_run loaded]
  simp only [quiet]
  rfl

section

variable {conversion : Conversion} (read : (files.read path).run state = (.ok text, after))
  (converted : convert? notifier text = some conversion)

include read converted

theorem run_convertFile_of_eq (same : conversion.text = text) :
    (convertFile files notifier path).run state =
      (⟨.ok .unchanged, conversion.log notifier⟩, after) := by
  have loaded : (files.load path).run state = (.ok text, after) := run_load read
  rw [convertFile, run_bind_of_run loaded]
  simp only [converted, if_pos same]
  rfl

theorem run_convertFile_of_write_error (changed : conversion.text ≠ text) {fault : Fault}
    (write : (files.write path conversion.text).run after = (.error fault, last)) :
    (convertFile files notifier path).run state =
      (⟨.error (.ofWrite path fault), conversion.log notifier⟩, last) := by
  have loaded : (files.load path).run state = (.ok text, after) := run_load read
  rw [convertFile, run_bind_of_run loaded]
  simp only [converted, if_neg changed]
  rw [run_bind_of_run (run_save write)]
  rfl

theorem run_convertFile_of_write_ok (changed : conversion.text ≠ text)
    (write : (files.write path conversion.text).run after = (.ok (), last)) :
    (convertFile files notifier path).run state =
      (⟨.ok (FileConversion.updateOutcome conversion),
        conversion.log notifier ++ [FileConversion.updateRecord path conversion]⟩, last) := by
  have loaded : (files.load path).run state = (.ok text, after) := run_load read
  rw [convertFile, run_bind_of_run loaded]
  simp only [converted, if_neg changed]
  rw [run_bind_of_run (run_save write)]
  rfl

end

/-- What converting a file comes to: the result, the state afterwards and the uses of the file
system. There is one case for each way to end. -/
inductive Converts (files : FileSystem (StateM σ)) (notifier : Notifier) (path : Path) (state : σ) :
    Except FileError Outcome → σ → List FileAccess → Prop where
  | unreadable {fault : Fault} {after : σ}
      (read : (files.read path).run state = (.error fault, after)) :
      Converts files notifier path state (.error (.ofRead path fault)) after [.read path]
  | noDialogs {text : Text} {after : σ} (read : (files.read path).run state = (.ok text, after))
      (quiet : convert? notifier text = none) :
      Converts files notifier path state (.ok .noDialogs) after [.read path]
  | unchanged {text : Text} {after : σ} {conversion : Conversion}
      (read : (files.read path).run state = (.ok text, after))
      (converted : convert? notifier text = some conversion) (same : conversion.text = text) :
      Converts files notifier path state (.ok .unchanged) after [.read path]
  | unwritable {text : Text} {after last : σ} {conversion : Conversion} {fault : Fault}
      (read : (files.read path).run state = (.ok text, after))
      (converted : convert? notifier text = some conversion) (changed : conversion.text ≠ text)
      (write : (files.write path conversion.text).run after = (.error fault, last)) :
      Converts files notifier path state (.error (.ofWrite path fault)) last
        [.read path, .write path conversion.text]
  | updated {text : Text} {after last : σ} {conversion : Conversion}
      (read : (files.read path).run state = (.ok text, after))
      (converted : convert? notifier text = some conversion) (changed : conversion.text ≠ text)
      (write : (files.write path conversion.text).run after = (.ok (), last)) :
      Converts files notifier path state
        (.ok (.updated conversion.replacementCount conversion.importInserted)) last
        [.read path, .write path conversion.text]

/-- Every conversion of a file ends in one of these ways, and recording its uses changes nothing
about it. -/
theorem exists_converts (files : FileSystem (StateM σ)) (notifier : Notifier) (path : Path)
    (state : σ) (earlier : List FileAccess) :
    ∃ conversion last accesses,
      (convertFile files notifier path).run state = (conversion, last) ∧
      (convertFile files.recorded notifier path).run (state, earlier) =
        (conversion, last, earlier ++ accesses) ∧
      files.Converts notifier path state conversion.result last accesses := by
  rcases read : (files.read path).run state with ⟨found, after⟩
  have readRecorded := run_read_recorded earlier read
  cases found with
  | error fault =>
      exact ⟨_, _, _, run_convertFile_of_error read, run_convertFile_of_error readRecorded,
        .unreadable read⟩
  | ok text =>
      cases converted : convert? notifier text with
      | none =>
          exact ⟨_, _, _, run_convertFile_of_none read converted,
            run_convertFile_of_none readRecorded converted, .noDialogs read converted⟩
      | some conversion =>
          by_cases same : conversion.text = text
          · exact ⟨_, _, _, run_convertFile_of_eq read converted same,
              run_convertFile_of_eq readRecorded converted same, .unchanged read converted same⟩
          · rcases write : (files.write path conversion.text).run after with ⟨done, last⟩
            have writeRecorded := run_write_recorded (earlier ++ [.read path]) write
            rw [List.append_assoc] at writeRecorded
            cases done with
            | error fault =>
                exact ⟨_, _, _, run_convertFile_of_write_error read converted same write,
                  run_convertFile_of_write_error readRecorded converted same writeRecorded,
                  .unwritable read converted same write⟩
            | ok _ =>
                exact ⟨_, _, _, run_convertFile_of_write_ok read converted same write,
                  run_convertFile_of_write_ok readRecorded converted same writeRecorded,
                  .updated read converted same write⟩

/-- The file is written exactly when its text can be read and conversion changes it. -/
theorem Converts.accesses_eq {result : Except FileError Outcome} {accesses : List FileAccess}
    (ends : files.Converts notifier path state result last accesses) :
    (∃ text conversion,
      ((files.read path).run state).1 = .ok text ∧ convert? notifier text = some conversion ∧
      conversion.text ≠ text ∧ accesses = [.read path, .write path conversion.text]) ∨
    (∀ text conversion,
      ((files.read path).run state).1 = .ok text → convert? notifier text = some conversion →
      conversion.text = text) ∧
    accesses = [.read path] ∧ last = ((files.read path).run state).2 := by
  cases ends with
  | unreadable read =>
      rw [read]
      exact .inr ⟨fun text _ found => (by cases found), rfl, rfl⟩
  | noDialogs read quiet =>
      rw [read]
      refine .inr ⟨fun text conversion found converted => ?_, rfl, rfl⟩
      cases found
      rw [quiet] at converted
      cases converted
  | unchanged read converted same =>
      rw [read]
      refine .inr ⟨fun text conversion found again => ?_, rfl, rfl⟩
      cases found
      rw [converted] at again
      cases again
      exact same
  | unwritable read converted changed _ => exact .inl ⟨_, _, by rw [read], converted, changed, rfl⟩
  | updated read converted changed _ => exact .inl ⟨_, _, by rw [read], converted, changed, rfl⟩

end FileSystem

/-! ## Files in memory -/

namespace Store

/-- The store after a file has been written. -/
def updated (store : Store) (path : Path) (text : Text) : Store :=
  { store.add path text with written := store.written ++ [path] }

/-- The fault of a protected file. -/
def protectedFault : Fault :=
  .described .permissionDenied "permission denied"

/-- Writing a file replaces what is at its place, under all spellings of the path, and nothing
else. -/
theorem content?_updated (store : Store) (path other : Path) (text : Text) :
    (store.updated path text).content? other =
      if other.key = path.key then some text else store.content? other := by
  simp only [updated, add, content?, List.lookup_cons]
  by_cases same : other.key = path.key
  · simp [same]
  · rw [if_neg same, beq_false_of_ne same]

theorem run_read (store : Store) (path : Path) :
    (fileSystem.read path).run store = (store.read path, store) := rfl

theorem read_eq_ok_iff {store : Store} {path : Path} {text : Text} :
    store.read path = .ok text ↔ store.content? path = some text := by
  rw [read]
  cases store.content? path with
  | none => simp
  | some found => simp

/-- The state of a store is the store. -/
theorem run_get (store : Store) : (get : StateM Store Store).run store = (store, store) := rfl

theorem run_write_of_mem {store : Store} {path : Path} (denied : path.key ∈ store.denied)
    (text : Text) :
    (fileSystem.write path text).run store = (.error protectedFault, store) := by
  have refused : store.write path text = .error protectedFault := by
    rw [write, if_pos (List.contains_iff_mem.2 denied)]
    rfl
  rw [fileSystem, FileSystem.run_bind_of_run store.run_get]
  simp only [refused]
  rfl

theorem run_write_of_notMem {store : Store} {path : Path} (allowed : path.key ∉ store.denied)
    (text : Text) :
    (fileSystem.write path text).run store = (.ok (), store.updated path text) := by
  have accepted : store.write path text = .ok (store.updated path text) := by
    rw [write, if_neg (fun denied => allowed (List.contains_iff_mem.1 denied))]
    rfl
  rw [fileSystem, FileSystem.run_bind_of_run store.run_get]
  simp only [accepted]
  rfl

/-- A file is there and may be written, and conversion changes its text. -/
def Updatable (store : Store) (notifier : Notifier) (path : Path) (conversion : Conversion) :
    Prop :=
  path.key ∉ store.denied ∧
    ∃ text, store.content? path = some text ∧ convert? notifier text = some conversion ∧
      conversion.text ≠ text

variable {store : Store} {notifier : Notifier} {path : Path}

theorem Updatable.run_convertFile {conversion : Conversion}
    (updatable : store.Updatable notifier path conversion) :
    (convertFile fileSystem notifier path).run store =
      (⟨.ok (.updated conversion.replacementCount conversion.importInserted),
        conversion.log notifier ++ [FileConversion.updateRecord path conversion]⟩,
        store.updated path conversion.text) := by
  obtain ⟨allowed, text, found, converted, changed⟩ := updatable
  have read : (fileSystem.read path).run store = (.ok text, store) := by
    rw [run_read, read_eq_ok_iff.2 found]
  exact FileSystem.run_convertFile_of_write_ok read converted changed
    (run_write_of_notMem allowed conversion.text)

/-- The results of a conversion that does not write. -/
def IdleResult (path : Path) (result : Except FileError Outcome) : Prop :=
  result = .error (.notFound path) ∨ result = .ok .noDialogs ∨ result = .ok .unchanged ∨
    result = .error (.write path protectedFault)

theorem IdleResult.ne_updated {result : Except FileError Outcome} (idle : IdleResult path result)
    (count : Nat) (inserted : Bool) : result ≠ .ok (.updated count inserted) := by
  rcases idle with rfl | rfl | rfl | rfl <;> simp

/-- Where a changed text is not written, the file is protected. -/
theorem mem_denied_of_not_updatable {text : Text} {conversion : Conversion}
    (idle : ∀ conversion, ¬store.Updatable notifier path conversion)
    (found : store.read path = .ok text) (converted : convert? notifier text = some conversion)
    (changed : conversion.text ≠ text) : path.key ∈ store.denied := by
  apply Decidable.byContradiction
  intro allowed
  exact idle conversion ⟨allowed, text, read_eq_ok_iff.1 found, converted, changed⟩

theorem kept_of_not_updatable {result : Except FileError Outcome} {last : Store}
    {accesses : List FileAccess}
    (ends : fileSystem.Converts notifier path store result last accesses)
    (idle : ∀ conversion, ¬store.Updatable notifier path conversion) :
    last = store ∧ IdleResult path result := by
  cases ends with
  | @unreadable fault _ read =>
      rw [run_read] at read
      obtain ⟨failed, rfl⟩ := Prod.mk.inj read
      refine ⟨rfl, .inl ?_⟩
      rw [Store.read] at failed
      cases found : store.content? path with
      | none =>
          rw [found] at failed
          cases failed
          rfl
      | some text =>
          rw [found] at failed
          cases failed
  | noDialogs read _ =>
      rw [run_read] at read
      exact ⟨(Prod.mk.inj read).2.symm, .inr (.inl rfl)⟩
  | unchanged read _ _ =>
      rw [run_read] at read
      exact ⟨(Prod.mk.inj read).2.symm, .inr (.inr (.inl rfl))⟩
  | @unwritable text _ _ conversion fault read converted changed write =>
      rw [run_read] at read
      obtain ⟨found, rfl⟩ := Prod.mk.inj read
      rw [run_write_of_mem (mem_denied_of_not_updatable idle found converted changed)] at write
      obtain ⟨refused, rfl⟩ := Prod.mk.inj write
      cases refused
      exact ⟨rfl, .inr (.inr (.inr rfl))⟩
  | @updated text _ _ conversion read converted changed write =>
      rw [run_read] at read
      obtain ⟨found, rfl⟩ := Prod.mk.inj read
      rw [run_write_of_mem (mem_denied_of_not_updatable idle found converted changed)] at write
      cases write

end Store

/-- A conversion of a file reads it once and then writes it at most once, exactly when conversion
changes the text that was read, with the converted text. In memory, a file that can be updated is
updated and reported so, and no other file changes; in all other cases nothing changes at all. -/
theorem file_conversion_all_or_nothing :
    (∀ (σ : Type) (files : FileSystem (StateM σ)) (notifier : Notifier) (path : Path) (state : σ)
      (earlier : List FileAccess),
      ∃ conversion last accesses,
        (convertFile files notifier path).run state = (conversion, last) ∧
        (convertFile files.recorded notifier path).run (state, earlier) =
          (conversion, last, earlier ++ accesses) ∧
        ((∃ text rewritten,
            ((files.read path).run state).1 = .ok text ∧
            convert? notifier text = some rewritten ∧ rewritten.text ≠ text ∧
            accesses = [.read path, .write path rewritten.text]) ∨
          (∀ text rewritten,
            ((files.read path).run state).1 = .ok text →
            convert? notifier text = some rewritten → rewritten.text = text) ∧
          accesses = [.read path] ∧ last = ((files.read path).run state).2)) ∧
    (∀ (store : Store) (notifier : Notifier) (path : Path),
      ∃ conversion last,
        (convertFile Store.fileSystem notifier path).run store = (conversion, last) ∧
        ((∃ count inserted, conversion.result = .ok (.updated count inserted)) ↔
          ∃ rewritten, store.Updatable notifier path rewritten) ∧
        (∀ rewritten, store.Updatable notifier path rewritten →
          conversion.result =
            .ok (.updated rewritten.replacementCount rewritten.importInserted) ∧
          (∀ other, last.content? other =
            if other.key = path.key then some rewritten.text else store.content? other) ∧
          last.written = store.written ++ [path] ∧ last.denied = store.denied) ∧
        ((∀ rewritten, ¬store.Updatable notifier path rewritten) →
          last = store ∧ Store.IdleResult path conversion.result)) := by
  constructor
  · intro σ files notifier path state earlier
    obtain ⟨conversion, last, accesses, plain, recorded, ends⟩ :=
      files.exists_converts notifier path state earlier
    exact ⟨conversion, last, accesses, plain, recorded, ends.accesses_eq⟩
  · intro store notifier path
    by_cases updatable : ∃ rewritten, store.Updatable notifier path rewritten
    · obtain ⟨rewritten, updatable⟩ := updatable
      refine ⟨_, _, updatable.run_convertFile, ?_, ?_, ?_⟩
      · exact ⟨fun _ => ⟨rewritten, updatable⟩, fun _ => ⟨_, _, rfl⟩⟩
      · intro again updatableAgain
        obtain ⟨_, text, found, converted, _⟩ := updatable
        obtain ⟨_, same, foundAgain, convertedAgain, _⟩ := updatableAgain
        rw [found] at foundAgain
        cases foundAgain
        rw [converted] at convertedAgain
        cases convertedAgain
        exact ⟨rfl, fun other => store.content?_updated path other rewritten.text, rfl, rfl⟩
      · intro idle
        exact absurd updatable (idle rewritten)
    · obtain ⟨conversion, last, accesses, plain, _, ends⟩ :=
        Store.fileSystem.exists_converts notifier path store []
      have idle := not_exists.1 updatable
      have kept := Store.kept_of_not_updatable ends idle
      refine ⟨conversion, last, plain, ?_, ?_, fun _ => kept⟩
      · constructor
        · rintro ⟨count, inserted, result⟩
          exact absurd result (kept.2.ne_updated count inserted)
        · intro exists_updatable
          exact absurd exists_updatable updatable
      · intro rewritten updatableNow
        exact absurd updatableNow (idle rewritten)

/-- A file is updated under another spelling of its path, beside a protected one that stays. -/
theorem file_conversion_all_or_nothing_respelled :
    ∃ conversion last,
      (convertFile Store.fileSystem {} ⟨"src//App.js"⟩).run
        (((({} : Store).add ⟨"src/App.js"⟩ "alert('a');\n".toList).add
          ⟨"src/Old.js"⟩ "alert('b');\n".toList).deny ⟨"src/Old.js"⟩) = (conversion, last) ∧
      conversion.result = .ok (.updated 1 true) ∧
      last.content? ⟨"src/./App.js"⟩ = some ("import notificationManager from " ++
        "'../../utils/notification';\nnotificationManager.show('a', 'info');\n").toList ∧
      last.content? ⟨"src/Old.js"⟩ = some "alert('b');\n".toList ∧
      last.written = [⟨"src//App.js"⟩] := by
  have ⟨rewritten, converted, facts⟩ := (Option.any_eq_true _ _).1
    (show (convert? {} "alert('a');\n".toList).any (fun rewritten =>
        rewritten.replacementCount == 1 && rewritten.importInserted &&
          rewritten.text == ("import notificationManager from " ++
            "'../../utils/notification';\nnotificationManager.show('a', 'info');\n").toList) =
        true by
      decide +kernel)
  simp only [Bool.and_eq_true, beq_iff_eq] at facts
  obtain ⟨⟨count, inserted⟩, text⟩ := facts
  have ⟨conversion, last, run, _, updates, _⟩ := file_conversion_all_or_nothing.2
    (((({} : Store).add ⟨"src/App.js"⟩ "alert('a');\n".toList).add
      ⟨"src/Old.js"⟩ "alert('b');\n".toList).deny ⟨"src/Old.js"⟩) {} ⟨"src//App.js"⟩
  have changed : rewritten.text ≠ "alert('a');\n".toList := by
    rw [text]
    decide
  have ⟨result, content, written, _⟩ :=
    updates rewritten ⟨by decide +kernel, _, by decide +kernel, converted, changed⟩
  rw [count, inserted] at result
  rw [text] at content
  refine ⟨conversion, last, run, result, (content _).trans ?_, (content _).trans ?_, written⟩
  · decide +kernel
  · decide +kernel

end DialogCodemod
