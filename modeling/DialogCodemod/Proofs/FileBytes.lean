import DialogCodemod.File.Disk
import DialogCodemod.Proofs.BatchRun

/-!
# The bytes of files

Paths refer to files, and files have bytes. Where a path refers to a file, it is the text of its
bytes that is read, and writing changes the bytes of the file that the path refers to and of no
other. From this alone it follows that a batch keeps the bytes of every file that it does not report
as updated. Bytes that are no text cannot be read, and so they are kept in any case.
-/

namespace DialogCodemod

@[simp] theorem Outcome.isUpdated_ofError (error : FileError) :
    (ofError error).isUpdated = false := by
  unfold ofError
  split <;> rfl

namespace FileSystem

variable {σ φ : Type}

/-- How the bytes of files go together with reading and writing. A write that fails leaves the bytes
as they are, and what a path refers to stays the same. -/
structure ByteLaws (files : FileSystem (StateM σ)) (bytes? : σ → φ → Option ByteArray)
    (refers : σ → Path → φ → Prop) : Prop where
  refers_read (path : Path) (state : σ) (other : Path) (file : φ) :
    refers ((files.read path).run state).2 other file ↔ refers state other file
  refers_write (path : Path) (text : Text) (state : σ) (other : Path) (file : φ) :
    refers ((files.write path text).run state).2 other file ↔ refers state other file
  bytes_read (path : Path) (state : σ) (file : φ) :
    bytes? ((files.read path).run state).2 file = bytes? state file
  bytes_write_error {path : Path} {text : Text} {state after : σ} {fault : Fault} (file : φ) :
    (files.write path text).run state = (.error fault, after) →
      bytes? after file = bytes? state file
  bytes_write_other {path : Path} {state : σ} {file : φ} (text : Text) :
    ¬refers state path file → bytes? ((files.write path text).run state).2 file = bytes? state file
  text_read {path : Path} {state : σ} {text : Text} {file : φ} :
    ((files.read path).run state).1 = .ok text → refers state path file →
      bytes? state file = some (String.ofList text).toUTF8

namespace ByteLaws

variable {files : FileSystem (StateM σ)} {bytes? : σ → φ → Option ByteArray}
  {refers : σ → Path → φ → Prop} (laws : files.ByteLaws bytes? refers) {notifier : Notifier}

include laws

/-- A conversion changes at most the file that its path refers to, and this only with an update. An
updated file was a text. -/
theorem convertFile {path : Path} {state last : σ} {conversion : FileConversion}
    (run : (DialogCodemod.convertFile files notifier path).run state = (conversion, last)) :
    (∀ other file, refers last other file ↔ refers state other file) ∧
    (∀ file, conversion.outcome.isUpdated = true → refers state path file →
      ∀ bytes, bytes? state file = some bytes → bytes.IsValidUTF8) ∧
    ∀ file, (conversion.outcome.isUpdated = true → ¬refers state path file) →
      bytes? last file = bytes? state file := by
  obtain ⟨⟨result, log⟩, _, accesses, plain, _, ends⟩ :=
    files.exists_converts notifier path state []
  rw [run] at plain
  obtain ⟨rfl, rfl⟩ := Prod.mk.inj plain
  have refersRead := laws.refers_read path state
  have bytesRead := laws.bytes_read path state
  -- Only the last case is an update.
  cases ends with
  | @unreadable fault _ read =>
      rw [read] at refersRead bytesRead
      exact ⟨refersRead, fun file updated => (by simp [FileConversion.outcome] at updated),
        fun file _ => bytesRead file⟩
  | noDialogs read _ =>
      rw [read] at refersRead bytesRead
      exact ⟨refersRead, fun file updated => (by cases updated), fun file _ => bytesRead file⟩
  | unchanged read _ _ =>
      rw [read] at refersRead bytesRead
      exact ⟨refersRead, fun file updated => (by cases updated), fun file _ => bytesRead file⟩
  | @unwritable _ after _ rewritten fault read _ _ write =>
      rw [read] at refersRead bytesRead
      have refersWrite := laws.refers_write path rewritten.text after
      rw [write] at refersWrite
      refine ⟨fun other file => (refersWrite other file).trans (refersRead other file), ?_, ?_⟩
      · intro file updated
        simp [FileConversion.outcome] at updated
      · intro file _
        exact (laws.bytes_write_error file write).trans (bytesRead file)
  | @updated text after _ rewritten read _ _ write =>
      have textRead : ((files.read path).run state).1 = .ok text := by
        rw [read]
      rw [read] at refersRead bytesRead
      have refersWrite := laws.refers_write path rewritten.text after
      rw [write] at refersWrite
      refine ⟨fun other file => (refersWrite other file).trans (refersRead other file), ?_, ?_⟩
      · intro file _ referred bytes found
        rw [laws.text_read textRead referred] at found
        cases found
        exact (String.ofList text).isValidUTF8
      · intro file apart
        have elsewhere : ¬refers after path file := fun referred =>
          apart rfl ((refersRead path file).1 referred)
        have bytesWrite := laws.bytes_write_other rewritten.text elsewhere
        rw [write] at bytesWrite
        exact bytesWrite.trans (bytesRead file)

variable {paths : List Path} {state last : σ} {reports : List FileReport} {file : φ}

/-- A file that no report of an update refers to keeps its bytes. -/
theorem bytes_eq_of_reports (batch : files.Reports notifier paths state reports last)
    (apart : ∀ report ∈ reports, report.outcome.isUpdated = true →
      ¬refers state report.path file) : bytes? last file = bytes? state file := by
  induction batch with
  | nil => rfl
  | cons first later ih =>
      rw [List.forall_mem_cons] at apart
      have ⟨sameFiles, _, kept⟩ := laws.convertFile first
      rw [ih ?_, kept file apart.1]
      intro report member updated
      rw [sameFiles]
      exact apart.2 report member updated

/-- No report of an update refers to a file whose bytes are not a text. -/
theorem not_refers_of_not_valid (batch : files.Reports notifier paths state reports last)
    {bytes : ByteArray} (found : bytes? state file = some bytes) (binary : ¬bytes.IsValidUTF8) :
    ∀ report ∈ reports, report.outcome.isUpdated = true → ¬refers state report.path file := by
  induction batch with
  | nil => simp
  | @cons path _ state middle _ conversion _ first later ih =>
      have ⟨sameFiles, wasText, kept⟩ := laws.convertFile first
      have head (updated : conversion.outcome.isUpdated = true) : ¬refers state path file :=
        fun referred => binary (wasText file updated referred bytes found)
      rw [List.forall_mem_cons]
      refine ⟨head, ?_⟩
      intro report member updated
      rw [← sameFiles]
      exact ih ((kept file head).trans found) report member updated

end ByteLaws

end FileSystem

/-! ## Disks -/

namespace Disk

/-- The bytes of the file at a place. -/
def bytes? (disk : Disk) (location : Location) : Option ByteArray :=
  match disk.node? location with
  | some (.file bytes) => some bytes
  | _ => none

/-- The path leads to the place. -/
def Refers (disk : Disk) (path : Path) (location : Location) : Prop :=
  ∃ parent name, disk.destination path = .ok (.name parent name) ∧ location = parent ++ [name]

variable {disk : Disk} {location : Location} {bytes : ByteArray}

theorem node?_put (nonempty : location ≠ []) (node : Node) (other : Location) :
    (disk.put location node).node? other =
      if other = location then some node else disk.node? other := by
  unfold node? put
  by_cases root : other = []
  · subst root
    rw [if_neg (Ne.symm nonempty)]
    rfl
  · have notRoot : other.isEmpty = false := by
      simpa using root
    simp only [notRoot, Bool.false_eq_true, if_false, List.lookup_cons]
    by_cases same : other = location
    · simp [same]
    · rw [if_neg same, beq_false_of_ne same]

/-- A file that is put where no directory was does not lead to other directories. -/
theorem walk_put_eq_ok_iff (nonempty : location ≠ [])
    (free : disk.node? location ≠ some .directory) (names : List Text)
    (origin target : Location) :
    (disk.put location (.file bytes)).walk origin names = .ok target ↔
      disk.walk origin names = .ok target := by
  induction names generalizing origin with
  | nil => rfl
  | cons name later ih =>
      rw [walk, walk]
      split
      · exact ih _
      split
      · exact ih _
      split
      · exact Iff.rfl
      simp only
      rw [node?_put nonempty]
      by_cases same : origin ++ [name] = location
      · -- Neither walk gets past the place. There was nothing or a file, and now there is a file.
        rw [if_pos same, same]
        cases found : disk.node? location with
        | none => simp
        | some node =>
            cases node with
            | directory => exact absurd found free
            | file _ => simp
      · rw [if_neg same]
        cases disk.node? (origin ++ [name]) with
        | none => exact Iff.rfl
        | some node =>
            cases node with
            | directory => exact ih _
            | file _ => exact Iff.rfl

theorem destination_put_eq_ok_iff (nonempty : location ≠ [])
    (free : disk.node? location ≠ some .directory) (path : Path) (target : Destination) :
    (disk.put location (.file bytes)).destination path = .ok target ↔
      disk.destination path = .ok target := by
  unfold destination
  split
  · exact Iff.rfl
  split
  · exact Iff.rfl
  split
  · exact Iff.rfl
  simp only
  generalize path.pieces.filter (!List.isEmpty ·) = names
  cases names.getLast? with
  | none => exact Iff.rfl
  | some name =>
      have walks (parent : Location) :
          (disk.put location (.file bytes)).walk (disk.start path) names.dropLast = .ok parent ↔
            disk.walk (disk.start path) names.dropLast = .ok parent :=
        walk_put_eq_ok_iff nonempty free names.dropLast (disk.start path) parent
      have sameStart : (disk.put location (.file bytes)).start path = disk.start path := rfl
      simp only [sameStart]
      cases found : disk.walk (disk.start path) names.dropLast with
      | ok parent => rw [(walks parent).2 found]
      | error fault =>
          cases foundAfter :
              (disk.put location (.file bytes)).walk (disk.start path) names.dropLast with
          | ok parent =>
              rw [(walks parent).1 foundAfter] at found
              cases found
          | error _ => exact iff_of_false nofun nofun

section Access

variable {path : Path} {parent : Location} {name : Text}

theorem readBytes_of_destination (leads : disk.destination path = .ok (.name parent name)) :
    disk.readBytes path =
      if isOverlong name then .error .nameTooLong
      else
        match disk.node? (parent ++ [name]) with
        | none => .error .missing
        | some .directory => .error .isDirectory
        | some (.file bytes) =>
            if wantsDirectory path then .error .notDirectory else .ok bytes := by
  rw [readBytes, leads]
  rfl

theorem write_of_destination (leads : disk.destination path = .ok (.name parent name))
    (text : Text) :
    disk.write path text =
      if wantsDirectory path then .error .isDirectory
      else if isOverlong name then .error .nameTooLong
      else
        match disk.node? (parent ++ [name]) with
        | some .directory => .error .isDirectory
        | _ => .ok (disk.put (parent ++ [name]) (.file (String.ofList text).toUTF8)) := by
  rw [write, leads]
  rfl

/-- The bytes that are read are those of the file that the path refers to. -/
theorem bytes?_of_readBytes_eq_ok (read : disk.readBytes path = .ok bytes)
    (refers : disk.Refers path location) : disk.bytes? location = some bytes := by
  obtain ⟨parent, name, leads, rfl⟩ := refers
  rw [readBytes_of_destination leads] at read
  split at read
  · cases read
  rw [bytes?]
  split at read
  · cases read
  · cases read
  next found =>
    rw [found]
    split at read
    · cases read
    · cases read
      rfl

theorem toUTF8_of_fromUTF8? {string : String} (valid : String.fromUTF8? bytes = some string) :
    string.toUTF8 = bytes := by
  rw [String.fromUTF8?] at valid
  split at valid
  · cases valid
    rfl
  · cases valid

/-- A text that is read is the text of the bytes. -/
theorem bytes?_of_read_eq_ok {text : Text} (read : disk.read path = .ok text)
    (refers : disk.Refers path location) :
    disk.bytes? location = some (String.ofList text).toUTF8 := by
  cases found : disk.readBytes path with
  | error fault =>
      rw [Disk.read, found] at read
      cases read
  | ok bytes =>
      rw [bytes?_of_readBytes_eq_ok found refers]
      cases valid : String.fromUTF8? bytes with
      | none => simp [Disk.read, found, valid, Bind.bind, Except.bind] at read
      | some string =>
          have decoded : string.toList = text := by
            simpa [Disk.read, found, valid, Bind.bind, Except.bind] using read
          rw [← decoded, String.ofList_toList, toUTF8_of_fromUTF8? valid]

/-- The state of a disk is the disk. -/
theorem run_get (disk : Disk) : (get : StateM Disk Disk).run disk = (disk, disk) := rfl

theorem run_write_of_error {text : Text} {fault : Fault}
    (refused : disk.write path text = .error fault) :
    (fileSystem.write path text).run disk = (.error fault, disk) := by
  rw [fileSystem, FileSystem.run_bind_of_run disk.run_get]
  simp only [refused]
  rfl

theorem run_write_of_ok {text : Text} {updated : Disk}
    (accepted : disk.write path text = .ok updated) :
    (fileSystem.write path text).run disk = (.ok (), updated) := by
  rw [fileSystem, FileSystem.run_bind_of_run disk.run_get]
  simp only [accepted]
  rfl

/-- A write fails and leaves the disk as it is, or puts a file where the path leads to and where no
directory is. -/
theorem run_write_cases (disk : Disk) (path : Path) (text : Text) :
    (∃ fault, (fileSystem.write path text).run disk = (.error fault, disk)) ∨
    ∃ parent name, disk.destination path = .ok (.name parent name) ∧
      disk.node? (parent ++ [name]) ≠ some .directory ∧
      (fileSystem.write path text).run disk =
        (.ok (), disk.put (parent ++ [name]) (.file (String.ofList text).toUTF8)) := by
  cases written : disk.write path text with
  | error fault => exact .inl ⟨fault, run_write_of_error written⟩
  | ok updated =>
      have run := run_write_of_ok written
      cases leads : disk.destination path with
      | error fault =>
          rw [write, leads] at written
          cases written
      | ok target =>
          cases target with
          | directory =>
              rw [write, leads] at written
              cases written
          | name parent name =>
              rw [write_of_destination leads] at written
              split at written
              · cases written
              split at written
              · cases written
              split at written
              · cases written
              next free =>
                cases written
                exact .inr ⟨parent, name, rfl, free, run⟩

end Access

theorem byteLaws : fileSystem.ByteLaws bytes? Refers where
  refers_read _ _ _ _ := Iff.rfl
  bytes_read _ _ _ := rfl
  refers_write path text disk other location := by
    rcases disk.run_write_cases path text with ⟨fault, run⟩ | ⟨parent, name, _, free, run⟩
    · rw [run]
    · rw [run]
      simp only [Refers, destination_put_eq_ok_iff (by simp) free]
  bytes_write_error {path text disk after fault} location failed := by
    rcases disk.run_write_cases path text with ⟨fault, run⟩ | ⟨parent, name, _, free, run⟩
    · rw [run] at failed
      rw [(Prod.mk.inj failed).2]
    · rw [run] at failed
      cases failed
  bytes_write_other {path disk location} text elsewhere := by
    rcases disk.run_write_cases path text with ⟨fault, run⟩ | ⟨parent, name, leads, free, run⟩
    · rw [run]
    · have different : location ≠ parent ++ [name] := fun same =>
        elsewhere ⟨parent, name, leads, same⟩
      rw [run, bytes?, bytes?, node?_put (by simp), if_neg different]
  text_read := bytes?_of_read_eq_ok

end Disk

end DialogCodemod
