import DialogCodemod.Proofs.BatchRun

/-!
# The history of a store

A store is used by adding files, protecting them, writing them and converting them, one after the
other. All that it holds can be told from what has happened to it: a place holds the text that it
was last given, a place is protected once it has been named as such, and the written paths are
those of the writes that were not refused. Conversions have no other way to change a store than
writes, so this goes for them as well.
-/

namespace DialogCodemod

namespace Store

/-! ## Operations -/

/-- What can happen to a store. -/
inductive Event where
  | added (path : Path) (text : Text)
  | denied (path : Path)
  | wrote (path : Path) (text : Text)
  | refused (path : Path) (text : Text) (fault : Fault)
  deriving DecidableEq, Repr

/-- What can be done with a store. -/
inductive Operation where
  | add (path : Path) (text : Text)
  | deny (path : Path)
  | write (path : Path) (text : Text)
  | convertFile (notifier : Notifier) (path : Path)
  | convertFiles (notifier : Notifier) (paths : List Path)

/-- The ways to get at a store: as a file system, and by setting up its files. -/
structure Handle (m : Type → Type) extends FileSystem m where
  add : Path → Text → m Unit
  deny : Path → m Unit

namespace Handle

variable {m : Type → Type} [Monad m]

/-- Do one operation. What it returns is not looked at. -/
def perform (handle : Handle m) : Operation → m Unit
  | .add path text => handle.add path text
  | .deny path => handle.deny path
  | .write path text => do
      let _ ← handle.write path text
      pure ()
  | .convertFile notifier path => do
      let _ ← DialogCodemod.convertFile handle.toFileSystem notifier path
      pure ()
  | .convertFiles notifier paths => do
      let _ ← DialogCodemod.convertFiles handle.toFileSystem notifier (fun _ => pure ()) paths
      pure ()

/-- Do the operations one after the other. -/
def performAll (handle : Handle m) : List Operation → m Unit
  | [] => pure ()
  | operation :: later => do
      handle.perform operation
      handle.performAll later

end Handle

/-- The store itself. -/
def handle : Handle (StateM Store) where
  toFileSystem := fileSystem
  add path text := modify (·.add path text)
  deny path := modify (·.deny path)

/-- Take a step with the store, and note down what has happened to it. -/
def noting {α : Type} (step : StateM Store α) (event : α → Event) :
    StateM (Store × List Event) α := do
  let (store, events) ← get
  let (value, after) := step.run store
  set (after, events ++ [event value])
  pure value

/-- What has happened to a store by a write with the given result. -/
def Event.ofWrite (path : Path) (text : Text) : Except Fault Unit → Event
  | .ok () => .wrote path text
  | .error fault => .refused path text fault

/-- The store with a journal of all that happens to it. -/
def journal : Handle (StateM (Store × List Event)) where
  read path := do
    pure ((← get).1.read path)
  write path text := noting (handle.write path text) (.ofWrite path text)
  add path text := noting (handle.add path text) fun _ => .added path text
  deny path := noting (handle.deny path) fun _ => .denied path

/-! ## Histories -/

namespace Event

/-- The text that an event gives to a place. -/
def textAt? (place : Path) : Event → Option Text
  | .added path text | .wrote path text => if place.key = path.key then some text else none
  | .denied _ | .refused _ _ _ => none

/-- The path that was written. -/
def writtenPath? : Event → Option Path
  | .wrote path _ => some path
  | _ => none

end Event

/-- The text that was last given to a place. -/
def lastText? (events : List Event) (place : Path) : Option Text :=
  (events.filterMap (Event.textAt? place)).getLast?

/-- The place was protected. -/
def DeniedIn (events : List Event) (place : Path) : Prop :=
  ∃ path, .denied path ∈ events ∧ path.key = place.key

/-- The event can happen to the store: a write is refused where the store is protected, and only
there. -/
def Event.Fits (store : Store) : Event → Prop
  | .added _ _ | .denied _ => True
  | .wrote path _ => path.key ∉ store.denied
  | .refused path _ _ => path.key ∈ store.denied

/-- The store after an event. -/
def Event.applyTo (store : Store) : Event → Store
  | .added path text => store.add path text
  | .denied path => store.deny path
  | .wrote path text => store.updated path text
  | .refused _ _ _ => store

/-- The events lead from the empty store to the given one. -/
inductive Recounts : List Event → Store → Prop where
  | nil : Recounts [] {}
  | concat {events : List Event} {store : Store} {event : Event} (before : Recounts events store)
      (fits : event.Fits store) : Recounts (events ++ [event]) (event.applyTo store)

theorem lastText?_concat (events : List Event) (event : Event) (place : Path) :
    lastText? (events ++ [event]) place = (event.textAt? place).or (lastText? events place) := by
  rw [lastText?, List.filterMap_append, List.getLast?_append, lastText?]
  cases given : event.textAt? place with
  | none =>
      rw [List.filterMap_cons_none given]
      rfl
  | some text =>
      rw [List.filterMap_cons_some given]
      rfl

theorem deniedIn_concat {events : List Event} {event : Event} {place : Path} :
    DeniedIn (events ++ [event]) place ↔
      DeniedIn events place ∨ ∃ path, event = .denied path ∧ path.key = place.key := by
  constructor
  · rintro ⟨path, member, same⟩
    rcases List.mem_append.1 member with earlier | last
    · exact .inl ⟨path, earlier, same⟩
    · exact .inr ⟨path, (List.mem_singleton.1 last).symm, same⟩
  · rintro (⟨path, member, same⟩ | ⟨path, rfl, same⟩)
    · exact ⟨path, List.mem_append_left _ member, same⟩
    · exact ⟨path, List.mem_append_right _ (List.mem_singleton.2 rfl), same⟩

/-- An event of a longer history is its last one, or stands in the history before. -/
theorem concat_eq_append_cons {events earlier later : List Event} {last event : Event}
    (split : events ++ [last] = earlier ++ event :: later) :
    (events = earlier ∧ last = event) ∨ ∃ rest, events = earlier ++ event :: rest := by
  rcases List.eq_nil_or_concat later with rfl | ⟨rest, _, rfl⟩
  · have ⟨same, ends⟩ := List.append_inj' split rfl
    exact .inl ⟨same, (List.cons.inj ends).1⟩
  · rw [List.concat_eq_append, ← List.cons_append, ← List.append_assoc] at split
    exact .inr ⟨rest, (List.append_inj' split rfl).1⟩

theorem content?_applyTo (store : Store) (event : Event) (place : Path) :
    (event.applyTo store).content? place = (event.textAt? place).or (store.content? place) := by
  cases event with
  | added path text =>
      have added : (store.add path text).content? place =
          if place.key = path.key then some text else store.content? place :=
        store.content?_updated path place text
      rw [Event.applyTo, added, Event.textAt?]
      split <;> rfl
  | denied path => rfl
  | wrote path text =>
      rw [Event.applyTo, content?_updated, Event.textAt?]
      split <;> rfl
  | refused path text fault => rfl

theorem mem_denied_applyTo {store : Store} {event : Event} {place : Path} :
    place.key ∈ (event.applyTo store).denied ↔
      place.key ∈ store.denied ∨ ∃ path, event = .denied path ∧ path.key = place.key := by
  cases event with
  | denied path => simp [Event.applyTo, deny, or_comm, eq_comm]
  | _ => simp [Event.applyTo, updated, add]

theorem written_applyTo (store : Store) (event : Event) :
    (event.applyTo store).written = store.written ++ event.writtenPath?.toList := by
  cases event with
  | wrote path text => rfl
  | _ => exact (List.append_nil _).symm

namespace Recounts

variable {events : List Event} {store : Store}

/-- A place holds the text that it was last given. -/
theorem content?_eq (history : Recounts events store) (place : Path) :
    store.content? place = lastText? events place := by
  induction history with
  | nil => rfl
  | concat before fits ih => rw [content?_applyTo, lastText?_concat, ih]

/-- The protected places are those that were named. -/
theorem mem_denied_iff (history : Recounts events store) (place : Path) :
    place.key ∈ store.denied ↔ DeniedIn events place := by
  induction history with
  | nil => simp [DeniedIn]
  | concat before fits ih => rw [mem_denied_applyTo, deniedIn_concat, ih]

/-- The written paths are those of the writes that were not refused, in their order. -/
theorem written_eq (history : Recounts events store) :
    store.written = events.filterMap Event.writtenPath? := by
  induction history with
  | nil => rfl
  | @concat events store event before fits ih =>
      rw [written_applyTo, List.filterMap_append, ih]
      cases found : event.writtenPath? with
      | none =>
          rw [List.filterMap_cons_none found]
          rfl
      | some path =>
          rw [List.filterMap_cons_some found]
          rfl

/-- Each event happened to the store that the events before it had led to. -/
theorem exists_before (history : Recounts events store) {earlier later : List Event}
    {event : Event} (split : events = earlier ++ event :: later) :
    ∃ before, Recounts earlier before ∧ event.Fits before := by
  induction history generalizing later with
  | nil => simp at split
  | @concat _ store _ before fits ih =>
      rcases concat_eq_append_cons split with ⟨rfl, rfl⟩ | ⟨rest, split⟩
      · exact ⟨store, before, fits⟩
      · exact ih split

/-- Where a write went through, its place had not been protected before. -/
theorem not_deniedIn_of_wrote (history : Recounts events store) {earlier later : List Event}
    {path : Path} {text : Text} (split : events = earlier ++ .wrote path text :: later) :
    ¬DeniedIn earlier path := by
  obtain ⟨before, past, allowed⟩ := history.exists_before split
  rw [← past.mem_denied_iff]
  exact allowed

/-- Where a write was refused, its place had been protected before. -/
theorem deniedIn_of_refused (history : Recounts events store) {earlier later : List Event}
    {path : Path} {text : Text} {fault : Fault}
    (split : events = earlier ++ .refused path text fault :: later) : DeniedIn earlier path := by
  obtain ⟨before, past, denied⟩ := history.exists_before split
  exact (past.mem_denied_iff path).1 denied

theorem run_read_eq (history : Recounts events store) (path : Path) :
    (fileSystem.read path).run store =
      ((lastText? events path).elim (.error (.ofKind .notFound)) .ok, store) := by
  rw [run_read, Store.read, history.content?_eq]
  cases lastText? events path <;> rfl

/-- The next write is refused if its place has been protected. -/
theorem isOk_write_eq_false_iff (history : Recounts events store) (path : Path) (text : Text) :
    ((fileSystem.write path text).run store).1.isOk = false ↔ DeniedIn events path := by
  rw [← history.mem_denied_iff]
  by_cases denied : path.key ∈ store.denied
  · rw [run_write_of_mem denied]
    exact iff_of_true rfl denied
  · rw [run_write_of_notMem denied]
    exact iff_of_false (by simp [Except.isOk, Except.toBool]) denied

end Recounts

theorem eq_of_run_write_error {store after : Store} {path : Path} {text : Text} {fault : Fault}
    (run : (fileSystem.write path text).run store = (.error fault, after)) : after = store := by
  by_cases denied : path.key ∈ store.denied
  · rw [run_write_of_mem denied] at run
    exact (Prod.mk.inj run).2.symm
  · rw [run_write_of_notMem denied] at run
    cases run

/-! ## Runs -/

/-- The journal beside a store tells its history. -/
def Journaled (store : Store) (noted : Store × List Event) : Prop :=
  noted.1 = store ∧ Recounts noted.2 store

theorem runsAlike_noting {α : Type} {step : StateM Store α} {event : α → Event}
    (recounted : ∀ {events store}, Recounts events store →
      Recounts (events ++ [event (step.run store).1]) (step.run store).2) :
    RunsAlike Journaled step (noting step event) := by
  rintro store ⟨_, events⟩ ⟨rfl, history⟩
  exact ⟨rfl, rfl, recounted history⟩

theorem runsAlike_write (path : Path) (text : Text) :
    RunsAlike Journaled (handle.write path text) (journal.write path text) := by
  apply runsAlike_noting
  intro events store history
  by_cases denied : path.key ∈ store.denied
  · have run : (handle.write path text).run store = (.error protectedFault, store) :=
      run_write_of_mem denied text
    rw [run]
    exact history.concat denied
  · have run : (handle.write path text).run store = (.ok (), store.updated path text) :=
      run_write_of_notMem denied text
    rw [run]
    exact history.concat denied

theorem runsAlike_convertFile_journal (notifier : Notifier) (path : Path) :
    RunsAlike Journaled (convertFile handle.toFileSystem notifier path)
      (convertFile journal.toFileSystem notifier path) := by
  apply RunsAlike.convertFile
  · rintro store ⟨_, events⟩ ⟨rfl, history⟩
    exact ⟨rfl, rfl, history⟩
  · exact runsAlike_write path

/-- The journal follows each operation. -/
theorem runsAlike_perform (operation : Operation) :
    RunsAlike Journaled (handle.perform operation) (journal.perform operation) := by
  cases operation with
  | add path text => exact runsAlike_noting fun history => history.concat trivial
  | deny path => exact runsAlike_noting fun history => history.concat trivial
  | write path text => exact (runsAlike_write path text).bind fun _ => .pure ()
  | convertFile notifier path =>
      exact (runsAlike_convertFile_journal notifier path).bind fun _ => .pure ()
  | convertFiles notifier paths =>
      apply RunsAlike.bind (RunsAlike.convertFiles _ fun _ => .pure ()) fun _ => .pure ()
      intro path _
      exact runsAlike_convertFile_journal notifier path

theorem runsAlike_performAll (operations : List Operation) :
    RunsAlike Journaled (handle.performAll operations) (journal.performAll operations) := by
  induction operations with
  | nil => exact .pure ()
  | cons operation later ih => exact (runsAlike_perform operation).bind fun _ => ih

/-- Operations on the empty store have a history. -/
theorem exists_recounts (operations : List Operation) :
    ∃ store events, (handle.performAll operations).run {} = ((), store) ∧
      (journal.performAll operations).run ({}, []) = ((), store, events) ∧
      Recounts events store := by
  have ⟨_, same, history⟩ := runsAlike_performAll operations {} ({}, []) ⟨rfl, .nil⟩
  exact ⟨_, _, rfl, Prod.ext rfl (Prod.ext same rfl), history⟩

end Store

/-- What a store holds, protects and remembers after any operations is told by the history of the
adding, protecting and writing that they came to. A write that is refused changes nothing. -/
theorem store_told_by_history :
    (∀ operations : List Store.Operation, ∃ store events,
      (Store.handle.performAll operations).run {} = ((), store) ∧
      (Store.journal.performAll operations).run ({}, []) = ((), store, events) ∧
      (∀ path, store.content? path = Store.lastText? events path) ∧
      (∀ path, (Store.fileSystem.read path).run store =
        ((Store.lastText? events path).elim (.error (.ofKind .notFound)) .ok, store)) ∧
      (∀ earlier path text later, events = earlier ++ .wrote path text :: later →
        ¬Store.DeniedIn earlier path) ∧
      (∀ earlier path text fault later, events = earlier ++ .refused path text fault :: later →
        Store.DeniedIn earlier path) ∧
      (∀ path text, ((Store.fileSystem.write path text).run store).1.isOk = false ↔
        Store.DeniedIn events path) ∧
      store.written = events.filterMap Store.Event.writtenPath?) ∧
    (∀ (store after : Store) (path : Path) (text : Text) (fault : Fault),
      (Store.fileSystem.write path text).run store = (.error fault, after) → after = store) := by
  constructor
  · intro operations
    obtain ⟨store, events, plain, noted, history⟩ := Store.exists_recounts operations
    refine ⟨store, events, plain, noted, history.content?_eq, history.run_read_eq, ?_, ?_,
      history.isOk_write_eq_false_iff, history.written_eq⟩
    · intro earlier path text later split
      exact history.not_deniedIn_of_wrote split
    · intro earlier path text fault later split
      exact history.deniedIn_of_refused split
  · intro store after path text fault run
    exact Store.eq_of_run_write_error run

/-- The file that was protected under another spelling refuses both writes, the one of the batch
included. -/
theorem store_told_by_history_respelled :
    ∃ store,
      (Store.handle.performAll
        [.add ⟨"src/a.js"⟩ "alert('a');\n".toList, .add ⟨"src/b.js"⟩ "alert('b');\n".toList,
          .deny ⟨"src//b.js"⟩, .write ⟨"src/b.js/"⟩ "c".toList,
          .convertFiles {} [⟨"src/./a.js"⟩, ⟨"src/b.js"⟩]]).run {} = ((), store) ∧
      store.content? ⟨"src/a.js"⟩ = some ("import notificationManager from " ++
        "'../../utils/notification';\nnotificationManager.show('a', 'info');\n").toList ∧
      store.content? ⟨"src/b.js"⟩ = some "alert('b');\n".toList ∧
      (∀ text, ((Store.fileSystem.write ⟨"src/b.js"⟩ text).run store).1.isOk = false) ∧
      store.written = [⟨"src/./a.js"⟩] := by
  have ⟨store, events, plain, noted, content, _, _, _, refused, written⟩ :=
    store_told_by_history.1
      [.add ⟨"src/a.js"⟩ "alert('a');\n".toList, .add ⟨"src/b.js"⟩ "alert('b');\n".toList,
        .deny ⟨"src//b.js"⟩, .write ⟨"src/b.js/"⟩ "c".toList,
        .convertFiles {} [⟨"src/./a.js"⟩, ⟨"src/b.js"⟩]]
  have told : events =
      [.added ⟨"src/a.js"⟩ "alert('a');\n".toList, .added ⟨"src/b.js"⟩ "alert('b');\n".toList,
        .denied ⟨"src//b.js"⟩, .refused ⟨"src/b.js/"⟩ "c".toList Store.protectedFault,
        .wrote ⟨"src/./a.js"⟩ ("import notificationManager from " ++
          "'../../utils/notification';\nnotificationManager.show('a', 'info');\n").toList,
        .refused ⟨"src/b.js"⟩ ("import notificationManager from " ++
          "'../../utils/notification';\nnotificationManager.show('b', 'info');\n").toList
          Store.protectedFault] := by
    refine (congrArg (·.2.2) noted).symm.trans ?_
    decide +kernel
  subst told
  refine ⟨store, plain, (content _).trans ?_, (content _).trans ?_, ?_, written⟩
  · decide +kernel
  · decide +kernel
  · intro text
    exact (refused _ text).2 ⟨⟨"src//b.js"⟩, by simp, by decide +kernel⟩

end DialogCodemod
